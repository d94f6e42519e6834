import CaseRouting.TestCase.Exchange

/-!
# Requests and replies

What a caller sends, and the data that it gets back. A request names its test case and the source
that owns it; a list request has a filter instead of a name.
-/

namespace CaseRouting

open Json (Value)
open Decode

/-- A request to activate, deactivate or get one test case. -/
structure CaseRequest where
  id : String
  source : Source
  deriving DecidableEq

structure UpdateRequest where
  id : String
  changes : Changes
  source : Source
  deriving DecidableEq

structure ListRequest where
  filter : Filter
  source : Source
  deriving DecidableEq

/-- Tells of an activation or deactivation. -/
structure Receipt where
  id : String
  status : Status
  updatedAt : Option Instant
  deriving DecidableEq

/-- The test cases that a source lists, and how many. -/
structure Listing where
  source : Source
  items : List TestCase
  total : Nat
  deriving DecidableEq

def TestCase.receipt (c : TestCase) : Receipt := ⟨c.id, c.status, c.updatedAt⟩

namespace CaseRequest

def fields : Fields CaseRequest :=
  (Fields.of CaseRequest.mk)
    |>.field (required "test_case_id" text)
    |>.field (required "source" Source.decoder)

def activateDecoder : Decoder CaseRequest := record "ActivateTestCaseRequest" fields

def deactivateDecoder : Decoder CaseRequest := record "DeactivateTestCaseRequest" fields

def getDecoder : Decoder CaseRequest := record "GetTestCaseRequest" fields

def toJson (r : CaseRequest) : Value :=
  .object [("test_case_id", .text r.id), ("source", r.source.toJson)]

end CaseRequest

namespace UpdateRequest

def fields : Fields UpdateRequest :=
  (Fields.of UpdateRequest.mk)
    |>.field (required "test_case_id" text)
    |>.field (required "changes" Changes.decoder)
    |>.field (required "source" Source.decoder)

def decoder : Decoder UpdateRequest := record "UpdateTestCaseRequest" fields

def toJson (r : UpdateRequest) : Value := .object [
  ("test_case_id", .text r.id), ("changes", r.changes.toJson), ("source", r.source.toJson)]

end UpdateRequest

namespace ListRequest

def fields : Fields ListRequest :=
  (Fields.of ListRequest.mk)
    |>.field (defaulted "filter" Filter.all Filter.decoder)
    |>.field (required "source" Source.decoder)

def decoder : Decoder ListRequest := record "ListTestCasesRequest" fields

def toJson (r : ListRequest) : Value :=
  .object [("filter", r.filter.toJson), ("source", r.source.toJson)]

end ListRequest

namespace Receipt

def fields : Fields Receipt :=
  (Fields.of Receipt.mk)
    |>.field (required "test_case_id" text)
    |>.field (required "status" Status.decoder)
    |>.field (nullable "updated_at" Instant.decoder)

def decoder : Decoder Receipt := record "CommandReceipt" fields

def toJson (r : Receipt) : Value := .object [
  ("test_case_id", .text r.id),
  ("status", r.status.toJson),
  ("updated_at", Value.option Instant.toJson r.updatedAt)]

end Receipt

namespace Listing

def fields : Fields Listing :=
  (Fields.of Listing.mk)
    |>.field (required "source" Source.decoder)
    |>.field (required "items" (list TestCase.viewDecoder))
    |>.field (required "total" countDecoder)

def decoder : Decoder Listing := record "TestCaseListView" fields

def toJson (l : Listing) : Value := .object [
  ("source", l.source.toJson),
  ("items", .list (l.items.map TestCase.toJson)),
  ("total", .whole (l.total : Int))]

end Listing

end CaseRouting
