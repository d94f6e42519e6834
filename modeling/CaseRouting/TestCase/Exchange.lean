import CaseRouting.Instant.Parse
import CaseRouting.Json.Reader
import CaseRouting.Json.Value
import CaseRouting.TestCase.Filter

/-!
# Test cases in exchange

The documents that stand for test cases, changes and filters, and the JSON values they are written
as. Fields are written in their order of declaration, and an absent value as `null`.
-/

namespace CaseRouting

open Json (Value)

namespace Source

def decoder : Decoder Source := fun form d => do
  let s ← Decode.text form d
  match ofName s with
  | .ok source => pure source
  | .error fault => throw (.refused fault.message)

def toJson (s : Source) : Value := .text s.name

end Source

namespace Status

def decoder : Decoder Status := Decode.variant (all.map fun s => (s.name, s))

def toJson (s : Status) : Value := .text s.name

end Status

namespace Instant

def decoder : Decoder Instant := fun form d => do
  let s ← Decode.textFor "an RFC 3339 formatted date and time string" form d
  match ofLenient s with
  | .ok t => pure t
  | .error e => throw (.refused e.message)

def toJson (t : Instant) : Value := .text t.zulu

end Instant

open Decode

/-- Counts are held in 64 bits. -/
def countDecoder : Decoder Nat := natural (Nat.pow 2 64) "usize"

namespace TestCase

def fields : Fields TestCase :=
  (Fields.of TestCase.mk)
    |>.field (required "id" text)
    |>.field (required "title" text)
    |>.field (required "status" Status.decoder)
    |>.field (nullable "priority" text)
    |>.field (required "labels" (list text))
    |>.field (nullable "updated_at" Instant.decoder)

def decoder : Decoder TestCase := record "TestCase" fields

/-- A test case as it is shown to a caller has the same fields under another name. -/
def viewDecoder : Decoder TestCase := record "TestCaseView" fields

def toJson (c : TestCase) : Value := .object [
  ("id", .text c.id),
  ("title", .text c.title),
  ("status", c.status.toJson),
  ("priority", Value.option .text c.priority),
  ("labels", Value.texts c.labels),
  ("updated_at", Value.option Instant.toJson c.updatedAt)]

end TestCase

namespace Changes

def fields : Fields Changes :=
  (Fields.of Changes.mk)
    |>.field (nullable "title" text)
    |>.field (nullable "priority" text)
    |>.field (nullable "labels" (list text))

def decoder : Decoder Changes := record "TestCaseUpdate" fields

def toJson (c : Changes) : Value := .object [
  ("title", Value.option .text c.title),
  ("priority", Value.option .text c.priority),
  ("labels", Value.option Value.texts c.labels)]

end Changes

namespace Filter

def fields : Fields Filter :=
  (Fields.of Filter.mk)
    |>.field (nullable "status" Status.decoder)
    |>.field (nullable "label" text)
    |>.field (nullable "title_contains" text)
    |>.field (nullable "limit" countDecoder)

def decoder : Decoder Filter := record "TestCaseFilter" fields

def toJson (f : Filter) : Value := .object [
  ("status", Value.option Status.toJson f.status),
  ("label", Value.option .text f.label),
  ("title_contains", Value.option .text f.titleContains),
  ("limit", Value.option (fun n => .whole (n : Int)) f.limit)]

end Filter

end CaseRouting
