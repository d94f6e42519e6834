import CaseRouting.Assembly
import CaseRouting.Proofs.Sheet.Disk
import CaseRouting.Proofs.Table.Opening
import CaseRouting.Proofs.Table.Transaction

/-!
# The data of the sources

What is stored for each source, by the settings that say where: the sheet in its file, the rows of
the database, and all that the server of the tracker knows. If the sheet, its draft and the database
are different files, each gateway changes the data of its own source alone, and the gateways to a
file or to rows change it only by commands that succeed.
-/

namespace CaseRouting

open Files (Node Place Tree)
open Files.Tree (ChangesAt)
open Table (opened? placeOf)

namespace Settings

variable {s : Settings} {source : Source} {site before after : Site} {ps : List Place}
  {disk : Tree}

def SheetSettings.file (s : SheetSettings) : String :=
  let (directory, file) := Files.split s.path
  Files.join directory file

/-- The path under which a sheet is written before it takes its own. -/
def SheetSettings.draft (s : SheetSettings) : String := Files.withExtension "tmp" s.file

/-- Where the files are that settings name: the sheet, its draft and the database. -/
def places (s : Settings) (disk : Tree) : List Place :=
  (match s.sources.sheet with
    | some sheet => [placeOf disk sheet.file, placeOf disk sheet.draft]
    | none => []) ++
  (match s.sources.database with
    | some database => (opened? disk database.path).toList
    | none => [])

def sheetIn (s : Settings) (site : Site) : Option Node :=
  s.sources.sheet.bind fun sheet => site.disk.stored? (placeOf site.disk sheet.file)

def databaseIn (s : Settings) (site : Site) : Option Table.Database :=
  s.sources.database.map fun database => site.database (opened? site.disk database.path)

/-- What is stored for a source is the same before and after. -/
def KeepsData (s : Settings) (before after : Site) : Source → Prop
  | .sheet => s.sheetIn after = s.sheetIn before
  | .tracker => after.server = before.server
  | .database => s.databaseIn after = s.databaseIn before

theorem KeepsData.refl (s : Settings) (site : Site) (source : Source) :
    s.KeepsData site site source := by
  unfold KeepsData
  cases source <;> rfl

theorem KeepsData.trans {later : Site} (h : s.KeepsData before after source)
    (h' : s.KeepsData after later source) : s.KeepsData before later source := by
  unfold KeepsData at *
  cases source <;> exact Eq.trans h' h

theorem sheetIn_eq (h : ChangesAt ps before.disk after.disk)
    (hsheet : ∀ sheet ∈ s.sources.sheet, placeOf before.disk sheet.file ∉ ps) :
    s.sheetIn after = s.sheetIn before := by
  unfold sheetIn
  cases hconfigured : s.sources.sheet with
  | none => rw [Option.bind_none, Option.bind_none]
  | some sheet =>
    rw [Option.bind_some, Option.bind_some, Tree.placeOf_congr h.workingDirectory,
      h.stored?_eq (hsheet sheet hconfigured)]

theorem databaseIn_of_configured {database : DatabaseSettings}
    (hdatabase : s.sources.database = some database)
    (hdirectory : after.disk.workingDirectory = before.disk.workingDirectory)
    (h : after.database (opened? before.disk database.path) =
      before.database (opened? before.disk database.path)) :
    s.databaseIn after = s.databaseIn before := by
  unfold databaseIn
  rw [hdatabase, Option.map_some, Option.map_some, Table.opened?_congr hdirectory, h]

theorem databaseIn_eq (h : ChangesAt ps before.disk after.disk)
    (hunnamed : after.unnamed = before.unnamed)
    (hdatabase : ∀ database ∈ s.sources.database,
      ∀ p ∈ opened? before.disk database.path, p ∉ ps) :
    s.databaseIn after = s.databaseIn before := by
  cases hconfigured : s.sources.database with
  | none =>
    unfold databaseIn
    rw [hconfigured, Option.map_none, Option.map_none]
  | some database =>
    refine databaseIn_of_configured hconfigured h.workingDirectory ?_
    cases hplace : opened? before.disk database.path with
    | none => exact hunnamed
    | some p => exact h.tableAt_eq (hdatabase database hconfigured p hplace)

theorem places_congr {disk' : Tree} (h : disk'.workingDirectory = disk.workingDirectory) :
    s.places disk' = s.places disk := by
  unfold places
  simp only [Tree.placeOf_congr h, Table.opened?_congr h]

theorem sheet_ne_draft (hapart : (s.places disk).Nodup) :
    ∀ sheet ∈ s.sources.sheet, placeOf disk sheet.file ∉ [placeOf disk sheet.draft] := by
  intro sheet hsheet
  unfold places at hapart
  rw [Option.mem_def.mp hsheet] at hapart
  exact (List.nodup_cons.mp (List.nodup_append.mp hapart).1).1

theorem sheet_ne_database (hapart : (s.places disk).Nodup) :
    ∀ sheet ∈ s.sources.sheet, ∀ database ∈ s.sources.database,
      ∀ p ∈ opened? disk database.path, ∀ q ∈ [placeOf disk sheet.file, placeOf disk sheet.draft],
        q ≠ p := by
  intro sheet hsheet database hdatabase p hp q hq
  unfold places at hapart
  rw [Option.mem_def.mp hsheet, Option.mem_def.mp hdatabase] at hapart
  exact (List.nodup_append.mp hapart).2.2 q hq p (Option.mem_toList.mpr hp)

end Settings

/-- What a call for a source may change: its own data, and a file or rows only as a command that
succeeds. -/
structure StaysWithin {α : Type} (s : Settings) (source : Source) (isQuery : Bool) (before : Site)
    (done : Outcome Site α) : Prop where
  directory : done.state.disk.workingDirectory = before.disk.workingDirectory
  others : ∀ other, other ≠ source → s.KeepsData before done.state other
  unfinished : isQuery = true ∨ (∃ e, done.result = .error e) →
    s.KeepsData before done.state .sheet ∧ s.KeepsData before done.state .database

section Gateways

variable {s : Settings} {site : Site} {call : Call}

theorem Gateway.answer_timed (g : Instant → Gateway Site) (call : Call) (site : Site) :
    (Gateway.timed g).answer call site = (g site.clock).answer call site := by
  cases call <;> rfl

theorem sheetGateway_staysWithin {sheet : Settings.SheetSettings}
    (hapart : (s.places site.disk).Nodup) (hsheet : s.sources.sheet = some sheet) (call : Call) :
    StaysWithin s .sheet call.isQuery site ((sheetGateway sheet).answer call site) := by
  have hanswer : (sheetGateway sheet).answer call site =
      ((Sheet.gateway (Files.below (Files.split sheet.path).1) (Files.split sheet.path).2
        site.clock).answer call).within Site.disk Site.setDisk site := by
    unfold sheetGateway
    rw [Gateway.answer_timed, Gateway.answer_within]
  rw [hanswer]
  obtain ⟨hchanges, hdraft⟩ := Sheet.changesAt_answer (Files.split sheet.path).1
    (Files.split sheet.path).2 site.clock call site.disk
  have hdatabase := Settings.sheet_ne_database hapart sheet hsheet
  refine ⟨hchanges.workingDirectory, ?_, fun h => ⟨?_, ?_⟩⟩
  · intro other hother
    cases other with
    | sheet => exact absurd rfl hother
    | tracker => rfl
    | database =>
      exact Settings.databaseIn_eq hchanges rfl fun database hd p hp hmem =>
        hdatabase database hd p hp p hmem rfl
  · refine Settings.sheetIn_eq (hdraft h) fun sheet' hsheet' => ?_
    obtain rfl := Option.some.inj (hsheet.symm.trans hsheet')
    exact Settings.sheet_ne_draft hapart sheet hsheet
  · exact Settings.databaseIn_eq hchanges rfl fun database hd p hp hmem =>
      hdatabase database hd p hp p hmem rfl

theorem trackerGateway_staysWithin (s : Settings) (transport : Tracker.Transport Tracker.Server)
    (t : Tracker.Connection) (call : Call) (site : Site) :
    StaysWithin s .tracker call.isQuery site ((trackerGateway transport t).answer call site) := by
  unfold trackerGateway
  rw [Gateway.answer_timed, Gateway.answer_within]
  refine ⟨rfl, ?_, fun _ => ⟨rfl, rfl⟩⟩
  intro other hother
  cases other with
  | tracker => exact absurd rfl hother
  | sheet => rfl
  | database => rfl

namespace Site

variable {place : Option Place} {db : Table.Database}

theorem changesAt_setDatabase (place : Option Place) (db : Table.Database) (site : Site) :
    ChangesAt place.toList site.disk (site.setDatabase place db).disk := by
  cases place with
  | none => exact .refl _ _
  | some p =>
    unfold setDatabase
    dsimp only
    split
    · exact Tree.changesAt_put site.disk p (.table db)
    · exact .refl _ _

theorem server_setDatabase (place : Option Place) (db : Table.Database) (site : Site) :
    (site.setDatabase place db).server = site.server := by
  cases place with
  | none => rfl
  | some p =>
    unfold setDatabase
    dsimp only
    split <;> rfl

theorem database_setDatabase (place : Option Place) (site : Site) :
    (site.setDatabase place (site.database place)).database place = site.database place := by
  cases place with
  | none => rfl
  | some p =>
    unfold setDatabase
    dsimp only
    split
    · rename_i db htable
      have hroot : p ≠ [] := by
        rintro rfl
        exact absurd htable (by simp [Tree.node?])
      refine Tree.tableAt_of_node? ?_
      dsimp only
      rw [Tree.node?_put, if_neg hroot, if_pos rfl]
    · rfl

end Site

theorem tableGateway_staysWithin {database : Settings.DatabaseSettings} {start : Tree}
    (hstart : site.disk.workingDirectory = start.workingDirectory)
    (hapart : (s.places site.disk).Nodup) (hdatabase : s.sources.database = some database)
    (call : Call) :
    StaysWithin s .database call.isQuery site
      ((tableGateway (opened? start database.path)).answer call site) := by
  -- The gateway was made for a place on the first disk, which is the same place on this one.
  obtain ⟨place, hplace⟩ : ∃ place, opened? site.disk database.path = place := ⟨_, rfl⟩
  rw [Table.opened?_congr hstart.symm, hplace]
  unfold tableGateway
  rw [Gateway.answer_timed, Gateway.answer_within]
  obtain ⟨done, hdone⟩ :
    ∃ done, (Table.gateway .never site.clock).answer call (site.database place) = done := ⟨_, rfl⟩
  have hchanges := Site.changesAt_setDatabase place done.state site
  have hsheet : s.KeepsData site (site.setDatabase place done.state) .sheet := by
    refine Settings.sheetIn_eq hchanges fun sheet hsheet hmem => ?_
    have hp := hplace.trans (Option.mem_toList.mp hmem)
    exact Settings.sheet_ne_database hapart sheet hsheet database hdatabase _ hp _
      List.mem_cons_self rfl
  unfold Action.within
  dsimp only
  rw [hdone]
  refine ⟨hchanges.workingDirectory, ?_, fun h => ⟨hsheet, ?_⟩⟩
  · intro other hother
    cases other with
    | sheet => exact hsheet
    | tracker => exact Site.server_setDatabase place done.state site
    | database => exact absurd rfl hother
  · have hkept : done.state = site.database place := by
      rw [← hdone]
      rcases h with hquery | ⟨e, he⟩
      · exact Table.keepsState_answer hquery _
      · exact Table.failsCleanly_answer _ _ _ _ e (hdone ▸ he)
    refine Settings.databaseIn_of_configured hdatabase hchanges.workingDirectory ?_
    rw [hplace, hkept, Site.database_setDatabase]

end Gateways

end CaseRouting
