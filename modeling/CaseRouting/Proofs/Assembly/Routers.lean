import CaseRouting.Proofs.Assembly.Data
import CaseRouting.Proofs.UseCase

/-!
# What assembly makes

Assembly binds the gateway of each configured source in both routers alike, and leaves the other
places free. On the way it opens the database, which keeps everything that is stored.
-/

namespace CaseRouting

open Files (Place Tree)
open Files.Tree (ChangesAt)
open Table (opened?)

variable {s : Settings} {transport : Tracker.Transport Tracker.Server} {site before after : Site}
  {start : Tree}

/-- The gateway to a source that settings ask for, of a program that begins with this disk. -/
def Settings.gateway? (s : Settings) (transport : Tracker.Transport Tracker.Server)
    (start : Tree) : Source → Option (Gateway Site)
  | .sheet => s.sources.sheet.map sheetGateway
  | .tracker =>
    s.sources.tracker.bind fun t => (Tracker.connect t).toOption.map (trackerGateway transport)
  | .database => s.sources.database.map fun d => tableGateway (opened? start d.path)

theorem Settings.mem_configured_iff {source : Source} : source ∈ s.configured ↔
    (match source with
      | .sheet => s.sources.sheet.isSome
      | .tracker => s.sources.tracker.isSome
      | .database => s.sources.database.isSome) = true := by
  unfold configured
  rw [List.mem_filter]
  exact and_iff_right source.mem_all

structure Settings.KeepsAll (s : Settings) (before after : Site) : Prop where
  directory : after.disk.workingDirectory = before.disk.workingDirectory
  data : ∀ source, s.KeepsData before after source

/-- If the files of the settings are different ones, everything that is stored stays. -/
def Settings.KeepsApart (s : Settings) (before after : Site) : Prop :=
  (s.places before.disk).Nodup → s.KeepsAll before after

theorem Settings.KeepsAll.refl (s : Settings) (site : Site) : s.KeepsAll site site :=
  ⟨rfl, KeepsData.refl s site⟩

theorem Settings.KeepsAll.trans {middle : Site} (h : s.KeepsAll before middle)
    (h' : s.KeepsAll middle after) : s.KeepsAll before after :=
  ⟨h'.directory.trans h.directory, fun source => KeepsData.trans (h.data source) (h'.data source)⟩

instance : Std.Refl s.KeepsApart := ⟨fun site _ => .refl s site⟩

instance : IsTrans Site s.KeepsApart where
  trans before middle after h h' := by
    intro hapart
    have hfirst := h hapart
    rw [← Settings.places_congr hfirst.directory] at hapart
    exact hfirst.trans (h' hapart)

/-- A router to be has these gateways, for commands and for queries. -/
structure Binds (b : GatewayBindings Site) (gateways : Source → Option (Gateway Site)) : Prop where
  commands : ∀ source, b.commands.slots.get? source = gateways source
  queries : ∀ source, b.queries.slots.get? source = gateways source

namespace Binds

variable {b b' : GatewayBindings Site} {gateways : Source → Option (Gateway Site)}
  {source : Source} {g : Gateway Site}

theorem empty : Binds GatewayBindings.empty fun _ => none := by
  constructor <;> intro source <;> cases source <;> rfl

theorem bind (h : Binds b gateways) (site : Site)
    (hbind : (b.bind source g site).result = .ok b') :
    Binds b' (Function.update gateways source (some g)) := by
  obtain rfl := Except.ok.inj hbind
  constructor
  · intro other
    change (b.commands.slots.put source g).get? other = _
    rw [Slots.get?_put, Function.update_apply, h.commands]
    simp only [eq_comm]
  · intro other
    change (b.queries.slots.put source g).get? other = _
    rw [Slots.get?_put, Function.update_apply, h.queries]
    simp only [eq_comm]

theorem update_none (h : Binds b gateways) (hfree : gateways source = none) :
    Binds b (Function.update gateways source none) := by
  rwa [Function.update_eq_self_iff.mpr hfree.symm]

end Binds

namespace Assembly

variable {b b' : GatewayBindings Site} {gateways : Source → Option (Gateway Site)}

theorem binds_bindSheet (hb : Binds b gateways) (hfree : gateways .sheet = none)
    (h : (bindSheet s b site).result = .ok b') :
    Binds b' (Function.update gateways .sheet (s.sources.sheet.map sheetGateway)) := by
  unfold bindSheet at h
  cases hsheet : s.sources.sheet with
  | none =>
    rw [hsheet] at h
    obtain rfl := Except.ok.inj h
    exact hb.update_none hfree
  | some sheet =>
    rw [hsheet] at h
    exact hb.bind site h

theorem binds_bindTracker (hb : Binds b gateways) (hfree : gateways .tracker = none)
    (h : (bindTracker transport s b site).result = .ok b') :
    ∃ g, Binds b' (Function.update gateways .tracker g) ∧
      g.isSome = s.sources.tracker.isSome ∧ g = s.sources.tracker.bind fun t =>
        (Tracker.connect t).toOption.map (trackerGateway transport) := by
  unfold bindTracker at h
  cases htracker : s.sources.tracker with
  | none =>
    rw [htracker] at h
    obtain rfl := Except.ok.inj h
    exact ⟨none, hb.update_none hfree, rfl, rfl⟩
  | some tracker =>
    rw [htracker] at h
    obtain ⟨_, _, h⟩ := Action.result_bind_eq_ok_iff.mp h
    obtain ⟨t, hconnect, hbind⟩ := Action.result_bind_eq_ok_iff.mp h
    rw [Action.result_ofExcept] at hconnect
    exact ⟨some (trackerGateway transport t), hb.bind _ hbind, rfl, by
      rw [Option.bind_some, hconnect, Except.toOption, Option.map_some]⟩

theorem binds_bindTable (hb : Binds b gateways) (hfree : gateways .database = none)
    (h : (bindTable s b site).result = .ok b') :
    Binds b' (Function.update gateways .database
      (s.sources.database.map fun d => tableGateway (opened? site.disk d.path))) := by
  unfold bindTable at h
  cases hdatabase : s.sources.database with
  | none =>
    rw [hdatabase] at h
    obtain rfl := Except.ok.inj h
    exact hb.update_none hfree
  | some database =>
    rw [hdatabase] at h
    obtain ⟨_, _, h⟩ := Action.result_bind_eq_ok_iff.mp h
    obtain ⟨place, hopened, hbind⟩ := Action.result_bind_eq_ok_iff.mp h
    have hplace := (Table.opensPath_openPath database.path site.disk).place_eq place hopened
    rw [Option.map_some, ← hplace]
    exact hb.bind _ hbind

theorem keepsState_bindSheet (s : Settings) (b : GatewayBindings Site) :
    (bindSheet s b).KeepsState := by
  intro site
  unfold bindSheet
  cases s.sources.sheet <;> rfl

theorem keepsState_bindTracker (s : Settings) (b : GatewayBindings Site) :
    (bindTracker transport s b).KeepsState := by
  intro site
  unfold bindTracker
  cases s.sources.tracker with
  | none => rfl
  | some tracker =>
    refine (Action.keepsState_log _).bind (fun _ => ?_) site
    exact (Action.keepsState_ofExcept _).bind fun _ _ => rfl

theorem respects_open {database : Settings.DatabaseSettings}
    (hdatabase : s.sources.database = some database) :
    ((Table.openPath database.path).within Site.disk Site.setDisk).Respects s.KeepsApart := by
  intro site hapart
  obtain ⟨hchanges, hrows, _⟩ := Table.opensPath_openPath database.path site.disk
  unfold Action.within
  dsimp only
  refine ⟨hchanges.workingDirectory, fun source => ?_⟩
  cases source with
  | sheet =>
    refine Settings.sheetIn_eq hchanges fun sheet hsheet hmem => ?_
    exact Settings.sheet_ne_database hapart sheet hsheet database hdatabase _
      (Option.mem_toList.mp hmem) _ List.mem_cons_self rfl
  | tracker => rfl
  | database =>
    refine Settings.databaseIn_of_configured hdatabase hchanges.workingDirectory ?_
    cases hplace : opened? site.disk database.path with
    | none => rfl
    | some p => exact hrows p hplace

theorem respects_bindTable (s : Settings) (b : GatewayBindings Site) :
    (bindTable s b).Respects s.KeepsApart := by
  unfold bindTable
  cases hdatabase : s.sources.database with
  | none => exact (Action.keepsState_pure b).respects
  | some database =>
    refine (Action.keepsState_log _).respects.bind fun _ => ?_
    exact Action.Respects.bind (respects_open hdatabase) fun place =>
      Action.KeepsState.respects fun _ => rfl

end Assembly

/-- Both routers have the gateways that settings ask for, one for each configured source. -/
structure Assembled (s : Settings) (transport : Tracker.Transport Tracker.Server) (start : Tree)
    (routers : Routers Site) : Prop where
  commands : ∀ source, routers.commands.slots.get? source = s.gateway? transport start source
  queries : ∀ source, routers.queries.slots.get? source = s.gateway? transport start source
  isSome_iff : ∀ source, (s.gateway? transport start source).isSome ↔ source ∈ s.configured

theorem Bindings.slots_of_build {γ : Type} {b : Bindings γ} {r : Router γ}
    (h : b.build = .ok r) : r.slots = b.slots := by
  unfold build at h
  split at h
  · exact absurd h (by simp)
  · split at h
    · obtain rfl := Except.ok.inj h
      rfl
    · exact absurd h (by simp)

theorem Bindings.slots_of_buildPartial {γ : Type} {b : Bindings γ} {r : Router γ}
    (h : b.buildPartial = .ok r) : r.slots = b.slots := by
  unfold buildPartial at h
  split at h
  · exact absurd h (by simp)
  · split at h
    · exact absurd h (by simp)
    · obtain rfl := Except.ok.inj h
      rfl

section Build

variable {b : GatewayBindings Site} {routers : Routers Site}

theorem GatewayBindings.slots_of_build (h : (b.build site).result = .ok routers) :
    routers.commands.slots = b.commands.slots ∧ routers.queries.slots = b.queries.slots := by
  obtain ⟨commands, hcommands, h⟩ := Action.result_bind_eq_ok_iff.mp h
  obtain ⟨queries, hqueries, h⟩ := Action.result_bind_eq_ok_iff.mp h
  obtain rfl := Except.ok.inj h
  exact ⟨Bindings.slots_of_build hcommands, Bindings.slots_of_build hqueries⟩

theorem GatewayBindings.slots_of_buildPartial (h : (b.buildPartial site).result = .ok routers) :
    routers.commands.slots = b.commands.slots ∧ routers.queries.slots = b.queries.slots := by
  obtain ⟨commands, hcommands, h⟩ := Action.result_bind_eq_ok_iff.mp h
  obtain ⟨_, _, h⟩ := Action.result_bind_eq_ok_iff.mp h
  obtain ⟨queries, hqueries, h⟩ := Action.result_bind_eq_ok_iff.mp h
  obtain ⟨_, _, h⟩ := Action.result_bind_eq_ok_iff.mp h
  obtain rfl := Except.ok.inj h
  exact ⟨Bindings.slots_of_buildPartial hcommands, Bindings.slots_of_buildPartial hqueries⟩

theorem GatewayBindings.keepsState_build (b : GatewayBindings Site) : b.build.KeepsState :=
  (Action.keepsState_ofExcept _).bind fun _ =>
    (Action.keepsState_ofExcept _).bind fun _ => Action.keepsState_pure _

theorem GatewayBindings.keepsState_buildPartial (b : GatewayBindings Site) :
    b.buildPartial.KeepsState :=
  (Action.keepsState_ofExcept _).bind fun _ => Action.KeepsState.bind (fun _ => rfl) fun _ =>
    (Action.keepsState_ofExcept _).bind fun _ => Action.KeepsState.bind (fun _ => rfl) fun _ =>
      Action.keepsState_pure _

end Build

theorem respects_assembleOver (transport : Tracker.Transport Tracker.Server) (s : Settings) :
    (assembleOver transport s).Respects s.KeepsApart := by
  unfold assembleOver
  refine (Assembly.keepsState_bindSheet s _).respects.bind fun b => ?_
  refine (Assembly.keepsState_bindTracker s b).respects.bind fun b => ?_
  refine (Assembly.respects_bindTable s b).bind fun b => ?_
  split
  · exact (b.keepsState_build.bind fun _ _ => rfl).respects
  · exact (b.keepsState_buildPartial.bind fun _ _ => rfl).respects

/-- An assembly that succeeds has made the gateways that settings ask for. -/
theorem assembled_of_assembleOver {routers : Routers Site}
    (h : (assembleOver transport s site).result = .ok routers) :
    Assembled s transport site.disk routers := by
  unfold assembleOver at h
  -- The first two bindings change nothing, so the database is opened on the disk of the beginning.
  obtain ⟨b₁, h₁, h⟩ := Action.result_bind_eq_ok_iff.mp h
  rw [Assembly.keepsState_bindSheet] at h
  obtain ⟨b₂, h₂, h⟩ := Action.result_bind_eq_ok_iff.mp h
  rw [Assembly.keepsState_bindTracker] at h
  obtain ⟨b₃, h₃, h⟩ := Action.result_bind_eq_ok_iff.mp h
  have hslots : routers.commands.slots = b₃.commands.slots ∧
      routers.queries.slots = b₃.queries.slots := by
    split at h
    · obtain ⟨built, hbuilt, h⟩ := Action.result_bind_eq_ok_iff.mp h
      obtain rfl := Except.ok.inj h
      exact GatewayBindings.slots_of_build hbuilt
    · obtain ⟨built, hbuilt, h⟩ := Action.result_bind_eq_ok_iff.mp h
      obtain rfl := Except.ok.inj h
      exact GatewayBindings.slots_of_buildPartial hbuilt
  obtain ⟨tracker, htracker, hconnected, htrackerEq⟩ :=
    Assembly.binds_bindTracker (Assembly.binds_bindSheet Binds.empty rfl h₁) rfl h₂
  have hbound := Assembly.binds_bindTable htracker rfl h₃
  have hgateway (source : Source) : Function.update (Function.update (Function.update
      (fun _ => none) .sheet (s.sources.sheet.map sheetGateway)) .tracker tracker) .database
      (s.sources.database.map fun d => tableGateway (opened? site.disk d.path)) source =
        s.gateway? transport site.disk source := by
    subst htrackerEq
    cases source <;> rfl
  refine ⟨fun source => ?_, fun source => ?_, fun source => ?_⟩
  · rw [hslots.1, hbound.commands, hgateway]
  · rw [hslots.2, hbound.queries, hgateway]
  · rw [Settings.mem_configured_iff]
    cases source with
    | sheet => exact iff_of_eq (congrArg (· = true) Option.isSome_map)
    | tracker =>
      unfold Settings.gateway?
      rw [← htrackerEq, hconnected]
    | database => exact iff_of_eq (congrArg (· = true) Option.isSome_map)

end CaseRouting
