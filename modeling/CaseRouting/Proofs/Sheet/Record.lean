import CaseRouting.Sheet.Record
import Mathlib.Tactic

/-!
# Written records read back

Reading what was written gives the cells that were written, whatever bytes they hold. The reader is
followed through one cell, then through one record with anything after it, then through a sheet.
-/

namespace CaseRouting.Sheet

def escapeByte (b : UInt8) : Bytes := if b = quote then [quote, quote] else [b]

theorem writeCell_of_needsQuotes {cell : Bytes} (h : needsQuotes cell = true) :
    writeCell cell = quote :: (cell.flatMap escapeByte ++ [quote]) := by
  rw [writeCell, if_pos h]
  rfl

theorem writeCell_of_not_needsQuotes {cell : Bytes} (h : needsQuotes cell = false) :
    writeCell cell = cell := by
  rw [writeCell, h]
  rfl

/-- A byte that stands for itself outside quotes. -/
def IsPlain (b : UInt8) : Prop := b ≠ separator ∧ b ≠ quote ∧ endsRecord b = false

theorem needsQuotes_eq_false_iff {cell : Bytes} :
    needsQuotes cell = false ↔ ∀ b ∈ cell, IsPlain b := by
  simp [needsQuotes, IsPlain, and_assoc]

theorem readCells_plain_cons {place : Place} (hplace : place ≠ .quoted) (cell : Bytes) {b : UInt8}
    (hb : IsPlain b) (rest : Bytes) :
    readCells place cell (b :: rest) = readCells .plain (b :: cell) rest := by
  obtain ⟨hsep, hquote, hend⟩ := hb
  simp [readCells, hplace, hsep, hquote, hend]

theorem readCells_plain (bytes : Bytes) (hplain : ∀ b ∈ bytes, IsPlain b) (cell rest : Bytes) :
    readCells .plain cell (bytes ++ rest) = readCells .plain (bytes.reverse ++ cell) rest := by
  induction bytes generalizing cell with
  | nil => rfl
  | cons b bytes ih =>
    rw [List.cons_append, readCells_plain_cons (by decide) cell (hplain b (by simp)),
      ih (fun x hx => hplain x (by simp [hx])), List.reverse_cons, List.append_assoc]
    rfl

theorem readCells_quoted_escapeByte (b : UInt8) (cell rest : Bytes) :
    readCells .quoted cell (escapeByte b ++ rest) = readCells .quoted (b :: cell) rest := by
  by_cases hb : b = quote
  · subst hb
    simp [escapeByte, readCells]
  · simp [escapeByte, readCells, hb]

theorem readCells_quoted (bytes cell rest : Bytes) :
    readCells .quoted cell (bytes.flatMap escapeByte ++ rest) =
      readCells .quoted (bytes.reverse ++ cell) rest := by
  induction bytes generalizing cell with
  | nil => rfl
  | cons b bytes ih =>
    rw [List.flatMap_cons, List.append_assoc, readCells_quoted_escapeByte, ih, List.reverse_cons,
      List.append_assoc]
    rfl

/-- After a written cell the reader stands outside quotes and holds the cell. -/
theorem readCells_writeCell (cell rest : Bytes) :
    ∃ place : Place, place ≠ .quoted ∧
      readCells .start [] (writeCell cell ++ rest) = readCells place cell.reverse rest := by
  by_cases h : needsQuotes cell = true
  · refine ⟨.afterQuote, by decide, ?_⟩
    rw [writeCell_of_needsQuotes h, List.cons_append, List.append_assoc]
    have hopen : readCells .start [] (quote :: (cell.flatMap escapeByte ++ ([quote] ++ rest))) =
        readCells .quoted [] (cell.flatMap escapeByte ++ ([quote] ++ rest)) := by
      simp [readCells]
    rw [hopen, readCells_quoted, List.append_nil]
    simp [readCells]
  · have hplain := needsQuotes_eq_false_iff.mp (eq_false_of_ne_true h)
    rw [writeCell_of_not_needsQuotes (eq_false_of_ne_true h)]
    cases cell with
    | nil => exact ⟨.start, by decide, rfl⟩
    | cons b bytes =>
      refine ⟨.plain, by decide, ?_⟩
      rw [List.cons_append, readCells_plain_cons (by decide) [] (hplain b (by simp)),
        readCells_plain bytes (fun x hx => hplain x (by simp [hx])), List.reverse_cons]

theorem readCells_separator {place : Place} (hplace : place ≠ .quoted) (cell rest : Bytes) :
    readCells place cell (separator :: rest) =
      (cell.reverse :: (readCells .start [] rest).1, (readCells .start [] rest).2) := by
  have hq : separator ≠ quote := by decide
  simp [readCells, hplace, hq]

theorem readCells_lineFeed {place : Place} (hplace : place ≠ .quoted) (cell rest : Bytes) :
    readCells place cell (lineFeed :: rest) = ([cell.reverse], rest) := by
  have hq : lineFeed ≠ quote := by decide
  have hs : lineFeed ≠ separator := by decide
  have he : endsRecord lineFeed = true := by decide
  simp [readCells, hplace, hq, hs, he]

theorem readCells_writeRecord {cells : List Bytes} (h : cells ≠ []) (rest : Bytes) :
    readCells .start [] (writeRecord cells ++ rest) = (cells, rest) := by
  induction cells with
  | nil => exact absurd rfl h
  | cons cell cells ih =>
    cases cells with
    | nil =>
      obtain ⟨place, hplace, hread⟩ := readCells_writeCell cell (lineFeed :: rest)
      rw [writeRecord, List.append_assoc, List.singleton_append, hread, readCells_lineFeed hplace,
        List.reverse_reverse]
    | cons next cells =>
      obtain ⟨place, hplace, hread⟩ :=
        readCells_writeCell cell (separator :: (writeRecord (next :: cells) ++ rest))
      rw [writeRecord, List.append_assoc, List.cons_append, hread, readCells_separator hplace,
        ih (List.cons_ne_nil _ _), List.reverse_reverse]
      exact List.cons_ne_nil _ _

/-- A record of more than one cell never looks like an empty line. -/
theorem head?_writeRecord {cells : List Bytes} (h : 2 ≤ cells.length) :
    ∃ b rest, writeRecord cells = b :: rest ∧ endsRecord b = false := by
  match cells, h with
  | cell :: next :: cells, _ =>
    rw [writeRecord]
    · by_cases hq : needsQuotes cell = true
      · rw [writeCell_of_needsQuotes hq]
        exact ⟨quote, _, rfl, by decide⟩
      · have hplain := needsQuotes_eq_false_iff.mp (eq_false_of_ne_true hq)
        rw [writeCell_of_not_needsQuotes (eq_false_of_ne_true hq)]
        cases cell with
        | nil => exact ⟨separator, _, rfl, by decide⟩
        | cons b bytes => exact ⟨b, _, rfl, (hplain b (by simp)).2.2⟩
    · exact List.cons_ne_nil _ _

theorem length_le_length_flatMap_writeRecord {rows : List (List Bytes)}
    (h : ∀ cells ∈ rows, 2 ≤ cells.length) : rows.length ≤ (rows.flatMap writeRecord).length := by
  induction rows with
  | nil => simp
  | cons cells rows ih =>
    obtain ⟨b, rest, hw, _⟩ := head?_writeRecord (h cells (by simp))
    have := ih (fun x hx => h x (by simp [hx]))
    simp only [List.flatMap_cons, hw, List.length_append, List.length_cons]
    omega

theorem readRecords_flatMap_writeRecord (rows : List (List Bytes))
    (h : ∀ cells ∈ rows, 2 ≤ cells.length) (fuel : ℕ) (hfuel : rows.length ≤ fuel) (p : Position) :
    (readRecords fuel p (rows.flatMap writeRecord)).map Record.cells = rows := by
  induction rows generalizing fuel p with
  | nil => cases fuel <;> rfl
  | cons cells rows ih =>
    cases fuel with
    | zero => simp at hfuel
    | succ fuel =>
      have hlen := h cells (by simp)
      obtain ⟨b, tail, hw, hb⟩ := head?_writeRecord hlen
      have hbody : ((cells :: rows).flatMap writeRecord).dropWhile endsRecord =
          b :: (tail ++ rows.flatMap writeRecord) := by
        rw [List.flatMap_cons, hw, List.cons_append, List.dropWhile_cons_of_neg (by simp [hb])]
      have hread : readCells .start [] (b :: (tail ++ rows.flatMap writeRecord)) =
          (cells, rows.flatMap writeRecord) := by
        rw [← List.cons_append, ← hw]
        exact readCells_writeRecord (List.ne_nil_of_length_pos (by omega)) _
      rw [readRecords, hbody]
      simp only [hread, List.map_cons]
      rw [ih (fun x hx => h x (by simp [hx])) fuel (by simpa using hfuel)]

/-- The records of a sheet that was written record by record, the first of which begins with no
byte order mark. -/
theorem records_flatMap_writeRecord (rows : List (List Bytes))
    (h : ∀ cells ∈ rows, 2 ≤ cells.length)
    (hmark : byteOrderMark.isPrefixOf (rows.flatMap writeRecord) = false) :
    (records (rows.flatMap writeRecord)).map Record.cells = rows := by
  rw [records, hmark]
  exact readRecords_flatMap_writeRecord rows h _ (length_le_length_flatMap_writeRecord h) _

end CaseRouting.Sheet
