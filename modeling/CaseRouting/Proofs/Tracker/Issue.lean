import CaseRouting.Proofs.Data.Record
import CaseRouting.Proofs.Json.Values
import CaseRouting.Tracker.Issue

/-!
# What an issue is read from

An issue is read from its key and from five of its fields, each by its name. A field that is set to a
value of its kind is read as this value, and the others as before.
-/

namespace CaseRouting.Tracker

open Decode
open Doc (member? setMember)
open Json (Value)

variable {members fields : List (Doc × Doc)} {closed inner : Bool} {content : String → Issue}
  {issue : Issue}

namespace Issue

structure HasContent (fields : List (Doc × Doc)) (closed : Bool) (i : Issue) : Prop where
  walks : contentFields.Walks fields closed
  summary : (defaulted "summary" "" text).Reads fields i.summary
  status : (nullable "status" namedDecoder).Reads fields i.status
  priority : (nullable "priority" namedDecoder).Reads fields i.priority
  labels : (defaulted "labels" [] (list text)).Reads fields i.labels
  updated : (nullable "updated" text).Reads fields i.updated

/-- The key is the only part that the fields leave open. -/
theorem HasContent.eq_of_key {i j : Issue} (hi : HasContent fields closed i)
    (hj : HasContent fields closed j) (hkey : i.key = j.key) : i = j := by
  cases i
  cases j
  rw [mk.injEq]
  exact ⟨hkey, Field.reads_unique hi.summary hj.summary, Field.reads_unique hi.status hj.status,
    Field.reads_unique hi.priority hj.priority, Field.reads_unique hi.labels hj.labels,
    Field.reads_unique hi.updated hj.updated⟩

theorem contentDecoder_eq_ok_iff :
    contentDecoder .stream (.object fields closed) = .ok content ↔
      ∀ key, HasContent fields closed (content key) ∧ (content key).key = key := by
  rw [contentDecoder, record_object_eq_ok_iff]
  constructor
  · rintro ⟨known, hwalk, hbuild⟩ key
    -- The record is built up field by field, so the last field is the outermost.
    simp only [contentFields, Fields.build_field_eq_ok_iff, Fields.build_of_eq_ok_iff] at hbuild
    obtain ⟨_, ⟨_, ⟨_, ⟨_, ⟨_, rfl, summary, hsummary, rfl⟩, status, hstatus, rfl⟩, priority,
      hpriority, rfl⟩, labels, hlabels, rfl⟩, updated, hupdated, rfl⟩ := hbuild
    exact ⟨⟨⟨known, hwalk⟩, (Field.value_named_eq_ok_iff hwalk rfl).mp hsummary,
      (Field.value_named_eq_ok_iff hwalk rfl).mp hstatus,
      (Field.value_named_eq_ok_iff hwalk rfl).mp hpriority,
      (Field.value_named_eq_ok_iff hwalk rfl).mp hlabels,
      (Field.value_named_eq_ok_iff hwalk rfl).mp hupdated⟩, rfl⟩
  · intro h
    obtain ⟨⟨⟨known, hwalk⟩, hsummary, hstatus, hpriority, hlabels, hupdated⟩, -⟩ := h ""
    have hcontent : content = fun key => { content "" with key := key } := by
      funext key
      exact (h key).1.eq_of_key ⟨⟨known, hwalk⟩, hsummary, hstatus, hpriority, hlabels, hupdated⟩
        (h key).2
    refine ⟨known, hwalk, ?_⟩
    simp only [contentFields, Fields.build_field_eq_ok_iff, Fields.build_of_eq_ok_iff]
    exact ⟨_, ⟨_, ⟨_, ⟨_, ⟨_, rfl, _, (Field.value_named_eq_ok_iff hwalk rfl).mpr hsummary, rfl⟩,
      _, (Field.value_named_eq_ok_iff hwalk rfl).mpr hstatus, rfl⟩,
      _, (Field.value_named_eq_ok_iff hwalk rfl).mpr hpriority, rfl⟩,
      _, (Field.value_named_eq_ok_iff hwalk rfl).mpr hlabels, rfl⟩,
      _, (Field.value_named_eq_ok_iff hwalk rfl).mpr hupdated, hcontent⟩

theorem HasContent.contentDecoder_eq {i : Issue} (h : HasContent fields closed i) :
    contentDecoder .stream (.object fields closed) = .ok fun key => { i with key := key } :=
  contentDecoder_eq_ok_iff.mpr fun _ =>
    ⟨⟨h.walks, h.summary, h.status, h.priority, h.labels, h.updated⟩, rfl⟩

theorem decoder_eq_ok_iff (hfields : member? "fields" members = some (.object fields inner)) :
    decoder .stream (.object members closed) = .ok issue ↔
      Issue.fields.Walks members closed ∧ (required "key" text).Reads members issue.key ∧
        HasContent fields inner issue := by
  have hcontent {content : String → Issue} :
      (required "fields" contentDecoder).Reads members content ↔
        contentDecoder .stream (.object fields inner) = .ok content := by
    rw [Field.Reads, show (required "fields" contentDecoder).name = "fields" from rfl, hfields]
    rfl
  rw [decoder, record_object_eq_ok_iff]
  constructor
  · rintro ⟨known, hwalk, hbuild⟩
    simp only [Issue.fields, Fields.build_field_eq_ok_iff, Fields.build_of_eq_ok_iff] at hbuild
    obtain ⟨_, ⟨_, rfl, key, hkey, rfl⟩, content, hread, rfl⟩ := hbuild
    have hread := hcontent.mp ((Field.value_named_eq_ok_iff hwalk rfl).mp hread)
    obtain ⟨hhas, hid⟩ := contentDecoder_eq_ok_iff.mp hread key
    refine ⟨⟨known, hwalk⟩, ?_, hhas⟩
    rw [hid]
    exact (Field.value_named_eq_ok_iff hwalk rfl).mp hkey
  · rintro ⟨⟨known, hwalk⟩, hkey, hhas⟩
    refine ⟨known, hwalk, ?_⟩
    simp only [Issue.fields, Fields.build_field_eq_ok_iff, Fields.build_of_eq_ok_iff]
    exact ⟨_, ⟨_, rfl, _, (Field.value_named_eq_ok_iff hwalk rfl).mpr hkey, rfl⟩, _,
      (Field.value_named_eq_ok_iff hwalk rfl).mpr (hcontent.mpr hhas.contentDecoder_eq), rfl⟩

/-! ## Fields that are set -/

variable {i : Issue}

theorem HasContent.setSummary (h : HasContent fields closed i) (s : String) :
    HasContent (setMember "summary" (.ofText s) fields) closed { i with summary := s } where
  walks := h.walks.setMember rfl rfl
  summary := Field.reads_setMember_self.mpr rfl
  status := (Field.reads_setMember_of_ne (by decide)).mpr h.status
  priority := (Field.reads_setMember_of_ne (by decide)).mpr h.priority
  labels := (Field.reads_setMember_of_ne (by decide)).mpr h.labels
  updated := (Field.reads_setMember_of_ne (by decide)).mpr h.updated

theorem HasContent.setPriority (h : HasContent fields closed i) (p : String) :
    HasContent (setMember "priority" (.ofMembers [("name", .ofText p)]) fields) closed
      { i with priority := some p } where
  walks := h.walks.setMember rfl rfl
  summary := (Field.reads_setMember_of_ne (by decide)).mpr h.summary
  status := (Field.reads_setMember_of_ne (by decide)).mpr h.status
  priority := Field.reads_setMember_self.mpr rfl
  labels := (Field.reads_setMember_of_ne (by decide)).mpr h.labels
  updated := (Field.reads_setMember_of_ne (by decide)).mpr h.updated

theorem HasContent.setLabels (h : HasContent fields closed i) (ls : List String) :
    HasContent (setMember "labels" (.array (ls.map .ofText) true) fields) closed
      { i with labels := ls } where
  walks := h.walks.setMember rfl (map_eq_ok_iff.mpr ⟨ls, Json.list_text_ofTexts .stream ls, rfl⟩)
  summary := (Field.reads_setMember_of_ne (by decide)).mpr h.summary
  status := (Field.reads_setMember_of_ne (by decide)).mpr h.status
  priority := (Field.reads_setMember_of_ne (by decide)).mpr h.priority
  labels := Field.reads_setMember_self.mpr (Json.list_text_ofTexts .stream ls)
  updated := (Field.reads_setMember_of_ne (by decide)).mpr h.updated

end Issue

end CaseRouting.Tracker
