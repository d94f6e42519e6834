import CaseRouting.Address.Host
import CaseRouting.Proofs.Address.Percent
import Mathlib.Tactic

/-!
# Queries of addresses read back

The names and values of a query are read back from its text: none of them holds a character that
separates it from the next, and each is the encoding of its bytes.
-/

namespace CaseRouting.Address

variable {mark c : Char} {cs : List Char}

/-! ## Names and values -/

def withBlanks (cs : List Char) : List Char := cs.map fun c => if c = '+' then ' ' else c

def readQueryText? (cs : List Char) : Option String :=
  (Text.decodeUtf8 (decode (withBlanks cs))).toOption

def queryByte (b : UInt8) : List Char :=
  if b == 0x20 then ['+'] else if isQueryPlain b then [Char.ofNat b.toNat] else percentByte b

theorem queryByte_cases (b : UInt8) :
    queryByte b = percentByte b ∨
      ∃ c, queryByte b = [c] ∧ c ∉ ['%', '&', '='] ∧
        String.utf8EncodeChar (if c = '+' then ' ' else c) = [b] := by
  have hplain : ∀ n < 256, isQueryPlain (UInt8.ofNat n) = true →
      Char.ofNat n ∉ ['%', '&', '=', '+'] ∧
        String.utf8EncodeChar (Char.ofNat n) = [UInt8.ofNat n] := by
    decide +kernel
  unfold queryByte
  split
  · next hb =>
    rw [eq_of_beq hb]
    exact .inr ⟨'+', rfl, by decide, by decide⟩
  · split
    · next hb =>
      rw [← UInt8.ofNat_toNat (x := b)] at hb
      obtain ⟨hmarks, hbyte⟩ := hplain b.toNat b.toNat_lt hb
      rw [UInt8.ofNat_toNat] at hbyte
      simp only [List.mem_cons, List.not_mem_nil, or_false, not_or] at hmarks
      refine .inr ⟨_, rfl, by simp [hmarks], ?_⟩
      rw [if_neg hmarks.2.2.2, hbyte]
    · exact .inl rfl

theorem not_mem_percentByte (hpercent : c ≠ '%') (hdigits : ∀ n < 16, c ≠ upperHex n) (b : UInt8) :
    c ∉ percentByte b := by
  have hb : b.toNat < 256 := b.toNat_lt
  simp only [percentByte, List.mem_cons, List.not_mem_nil, or_false, not_or]
  exact ⟨hpercent, hdigits _ (by omega), hdigits _ (Nat.mod_lt _ (by decide))⟩

theorem withBlanks_percentByte (b : UInt8) : withBlanks (percentByte b) = percentByte b := by
  have hplus : '+' ∉ percentByte b := not_mem_percentByte (by decide) (by decide) b
  calc withBlanks (percentByte b)
    _ = (percentByte b).map id :=
      List.map_congr_left fun c hc => if_neg (ne_of_mem_of_not_mem hc hplus)
    _ = percentByte b := List.map_id _

theorem decode_withBlanks_queryByte (b : UInt8) (rest : List Char) :
    decode (withBlanks (queryByte b) ++ rest) = b :: decode rest := by
  rcases queryByte_cases b with h | ⟨c, h, hc, hbyte⟩
  · rw [h, withBlanks_percentByte, decode_percentByte]
  · have hne : (if c = '+' then ' ' else c) ≠ '%' := by
      split
      · decide
      · rintro rfl
        exact hc List.mem_cons_self
    rw [h, withBlanks, List.map_singleton, List.singleton_append, decode_cons_of_ne hne, hbyte,
      List.singleton_append]

theorem decode_withBlanks_queryText (s : String) :
    decode (withBlanks (queryText s)) = Text.bytesOf s := by
  have hbytes (bytes : Bytes) : decode (withBlanks (bytes.flatMap queryByte)) = bytes := by
    induction bytes with
    | nil => rw [List.flatMap_nil, withBlanks, List.map_nil, decode]
    | cons b bytes ih =>
      rw [List.flatMap_cons, withBlanks, List.map_append]
      exact (decode_withBlanks_queryByte b _).trans (congrArg _ ih)
  exact hbytes (Text.bytesOf s)

theorem readQueryText?_queryText (s : String) : readQueryText? (queryText s) = some s := by
  rw [readQueryText?, decode_withBlanks_queryText, Text.decodeUtf8_bytesOf]
  rfl

theorem not_mem_queryText (hmark : mark ∈ ['&', '=']) (s : String) : mark ∉ queryText s := by
  intro h
  obtain ⟨b, _, hb⟩ := List.mem_flatMap.mp h
  change mark ∈ queryByte b at hb
  rcases queryByte_cases b with heq | ⟨c, heq, hc, -⟩
  · rw [heq] at hb
    simp only [List.mem_cons, List.not_mem_nil, or_false] at hmark
    rcases hmark with rfl | rfl <;> exact not_mem_percentByte (by decide) (by decide) b hb
  · rw [heq, List.mem_singleton] at hb
    subst hb
    exact hc (List.mem_cons_of_mem _ hmark)

/-! ## Pairs -/

def readQueryPair? (cs : List Char) : Option (String × String) := do
  let name ← readQueryText? (cs.takeWhile (· ≠ '='))
  let value ← readQueryText? ((cs.dropWhile (· ≠ '=')).drop 1)
  pure (name, value)

def readQuery? (cs : List Char) : Option (List (String × String)) :=
  (cs.splitOn '&').mapM readQueryPair?

theorem readQueryPair?_queryPair (p : String × String) : readQueryPair? (queryPair p) = some p := by
  have hname : ∀ c ∈ queryText p.1, decide (c ≠ '=') = true := by
    intro c hc
    exact decide_eq_true (ne_of_mem_of_not_mem hc (not_mem_queryText (by simp) _))
  have hbefore : (queryPair p).takeWhile (· ≠ '=') = queryText p.1 := by
    rw [queryPair, List.takeWhile_append_of_pos hname, List.takeWhile_cons_of_neg (by decide),
      List.append_nil]
  have hbehind : (queryPair p).dropWhile (· ≠ '=') = '=' :: queryText p.2 := by
    rw [queryPair, List.dropWhile_append_of_pos hname, List.dropWhile_cons_of_neg (by decide)]
  rw [readQueryPair?, hbefore, hbehind, List.drop_one, List.tail_cons, readQueryText?_queryText,
    readQueryText?_queryText]
  rfl

theorem not_mem_queryPair (p : String × String) : '&' ∉ queryPair p := by
  rw [queryPair, List.mem_append, List.mem_cons]
  rintro (h | h | h)
  · exact not_mem_queryText (by simp) _ h
  · exact absurd h (by decide)
  · exact not_mem_queryText (by simp) _ h

theorem readQuery?_queryChars {pairs : List (String × String)} (h : pairs ≠ []) :
    readQuery? (queryChars pairs) = some pairs := by
  induction pairs with
  | nil => exact absurd rfl h
  | cons p pairs ih =>
    cases pairs with
    | nil =>
      rw [queryChars, readQuery?, List.splitOn_eq_singleton (not_mem_queryPair p), List.mapM_cons,
        readQueryPair?_queryPair]
      rfl
    | cons p' pairs =>
      have hrest := ih (List.cons_ne_nil _ _)
      rw [readQuery?] at hrest
      rw [queryChars, readQuery?,
        List.splitOn_append_cons_self_of_not_mem (not_mem_queryPair p), List.mapM_cons,
        readQueryPair?_queryPair, hrest]
      · rfl
      · exact List.cons_ne_nil _ _

end CaseRouting.Address
