import CaseRouting.Json.Reader
import CaseRouting.Json.Value
import CaseRouting.Settings.Basic

/-!
# Issues

An issue of the tracker and the test case that it stands for. The configuration names the statuses
that count as active and deprecated; all others count as drafts.
-/

namespace CaseRouting.Tracker

open Decode
open Json (Value)
open Settings (TrackerSettings)

structure Issue where
  key : String
  summary : String
  status : Option String
  priority : Option String
  labels : List String
  updated : Option String
  deriving DecidableEq

namespace Issue

/-- A value that is known by its name. -/
def namedDecoder : Decoder String := record "name" ((Fields.of id) |>.field (required "name" text))

def contentFields : Fields (String → Issue) :=
  (Fields.of fun summary status priority labels updated key =>
      (⟨key, summary, status, priority, labels, updated⟩ : Issue))
    |>.field (defaulted "summary" "" text)
    |>.field (nullable "status" namedDecoder)
    |>.field (nullable "priority" namedDecoder)
    |>.field (defaulted "labels" [] (list text))
    |>.field (nullable "updated" text)

def contentDecoder : Decoder (String → Issue) := record "fields" contentFields

def fields : Fields Issue :=
  (Fields.of fun key (content : String → Issue) => content key)
    |>.field (required "key" text)
    |>.field (required "fields" contentDecoder)

def decoder : Decoder Issue := record "issue" fields

/-- The issues of a search. -/
def foundDecoder : Decoder (List Issue) :=
  record "found" ((Fields.of id) |>.field (defaulted "issues" [] (list decoder)))

end Issue

/-- The status that a name of the tracker stands for, in any case of ASCII letters. -/
def statusOf (s : TrackerSettings) (name : Option String) : Status :=
  match name with
  | some n =>
    if Text.sameIgnoringAsciiCase n s.activeName then .active
    else if Text.sameIgnoringAsciiCase n s.deprecatedName then .deprecated
    else .draft
  | none => .draft

def Issue.toTestCase (s : TrackerSettings) (i : Issue) : TestCase where
  id := i.key
  title := i.summary
  status := statusOf s i.status
  priority := i.priority
  labels := i.labels
  updatedAt := i.updated.bind Instant.ofTracker?

/-- The fields that an update sets. -/
def updateFields (changes : Changes) : List (String × Value) :=
  (changes.labels.map fun ls => ("labels", Value.texts ls)).toList ++
    (changes.priority.map fun p => ("priority", Value.object [("name", .text p)])).toList ++
    (changes.title.map fun t => ("summary", Value.text t)).toList

/-! ## Complaints -/

mutual

/-- A document as a value, with the last member of each name in the order of names. -/
def valueOf? : Doc → Option Value
  | .null => some .null
  | .bool b => some (.bool b)
  | .number (some (.whole n)) => some (.whole n)
  | .number (some (.real d)) => some (.real d)
  | .number none => none
  | .text s => s.map .text
  | .array ds closed => if closed then (valuesOf? ds).map .list else none
  | .object ms closed => if closed then (membersOf? ms).map .object else none
  | .broken => none

def valuesOf? : List Doc → Option (List Value)
  | [] => some []
  | d :: rest => do
    let v ← valueOf? d
    let vs ← valuesOf? rest
    pure (v :: vs)

def membersOf? : List (Doc × Doc) → Option (List (String × Value))
  | [] => some []
  | (.text (some key), d) :: rest => do
    let v ← valueOf? d
    let vs ← membersOf? rest
    if vs.any (·.1 == key) then pure vs
    else
      pure (vs.takeWhile (decide <| ·.1 < key) ++ (key, v) :: vs.dropWhile (decide <| ·.1 < key))
  | _ :: _ => none

end

mutual

def depthOf : Doc → Nat
  | .array ds _ => depthOfAll ds + 1
  | .object ms _ => depthOfMembers ms + 1
  | _ => 0

def depthOfAll : List Doc → Nat
  | [] => 0
  | d :: rest => max (depthOf d) (depthOfAll rest)

def depthOfMembers : List (Doc × Doc) → Nat
  | [] => 0
  | (_, d) :: rest => max (depthOf d) (depthOfMembers rest)

end

/-- Any members with any values, nested no deeper than can be held. -/
def membersDecoder : Decoder (List (String × Value))
  | form, d =>
    match d with
    | .object ms closed =>
      match (if closed && depthOf d < 127 then membersOf? ms else none) with
      | some members => .ok members
      | none => .error .malformed
    | _ => .error (mismatch form "a map" d)

/-- What the tracker says about a request that it refuses. -/
structure Complaint where
  messages : List String
  fields : List (String × Value)

def Complaint.decoder : Decoder Complaint :=
  record "complaint" ((Fields.of Complaint.mk)
    |>.field (defaulted "errorMessages" [] (list text))
    |>.field (defaulted "errors" [] membersDecoder))

def Complaint.parts (c : Complaint) : List String :=
  c.messages ++ c.fields.map fun m => m.1 ++ ": " ++
    match m.2 with
    | .text s => s
    | v => v.compact

/-- The complaint in one line; a reply in another form is taken as it is. -/
def complaintText (body : String) : String :=
  match Json.decodeText Complaint.decoder body with
  | .ok c => if c.parts.isEmpty then Text.trim body else "; ".intercalate c.parts
  | .error _ => Text.trim body

end CaseRouting.Tracker
