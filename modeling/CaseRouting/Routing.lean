import CaseRouting.Fault
import CaseRouting.Log.Event

/-!
# Routing

A router holds at most one gateway for each source, and selects by nothing but the source. It is
built from bindings; a source that is bound twice is a fault, whatever else is wrong.
-/

namespace CaseRouting

/-- One place for each source. -/
structure Slots (γ : Type) where
  sheet : Option γ
  tracker : Option γ
  database : Option γ
  deriving DecidableEq

namespace Slots

variable {γ : Type}

def empty : Slots γ := ⟨none, none, none⟩

def get? (s : Slots γ) : Source → Option γ
  | .sheet => s.sheet
  | .tracker => s.tracker
  | .database => s.database

def put (s : Slots γ) (source : Source) (g : γ) : Slots γ :=
  match source with
  | .sheet => { s with sheet := some g }
  | .tracker => { s with tracker := some g }
  | .database => { s with database := some g }

/-- The sources whose place is taken. -/
def bound (s : Slots γ) : List Source := Source.all.filter fun source => (s.get? source).isSome

/-- The sources whose place is free. -/
def unbound (s : Slots γ) : List Source := Source.all.filter fun source => (s.get? source).isNone

theorem get?_put (s : Slots γ) (a b : Source) (g : γ) :
    (s.put a g).get? b = if a = b then some g else s.get? b := by
  cases a <;> cases b <;> rfl

end Slots

/-- A router to be. The source that was first bound again is remembered. -/
structure Bindings (γ : Type) where
  slots : Slots γ
  again : Option Source

structure Router (γ : Type) where
  slots : Slots γ

namespace Bindings

variable {γ : Type}

def empty : Bindings γ := ⟨Slots.empty, none⟩

def bind (b : Bindings γ) (source : Source) (g : γ) : Bindings γ where
  slots := b.slots.put source g
  again := if (b.slots.get? source).isSome then b.again.or (some source) else b.again

/-- A router that serves every source. -/
def build (b : Bindings γ) : Except Fault (Router γ) :=
  match b.again with
  | some source => .error (.boundTwice source)
  | none =>
    if b.slots.unbound.isEmpty then .ok ⟨b.slots⟩ else .error (.incomplete b.slots.unbound)

/-- A router that serves at least one source. -/
def buildPartial (b : Bindings γ) : Except Fault (Router γ) :=
  match b.again with
  | some source => .error (.boundTwice source)
  | none =>
    if b.slots.bound.isEmpty then .error (.configuration "router has no gateway bindings")
    else .ok ⟨b.slots⟩

end Bindings

namespace Router

variable {γ : Type}

/-- The gateway that is bound to a source. -/
def select (r : Router γ) (source : Source) : Except Fault γ :=
  match r.slots.get? source with
  | some g => .ok g
  | none => .error (.unbound source)

/-- The router as it is shown in diagnostics. -/
def describe (r : Router γ) : String :=
  "GatewayRouter \x7b bound: [" ++ ", ".intercalate (r.slots.bound.map Source.label) ++ "] \x7d"

/-- A warning for each source that is not served. -/
def warnings (r : Router γ) : List Log.Event :=
  r.slots.unbound.map fun source => {
    level := .warn
    target := "tc_router::app::router"
    message := "No gateway bound, requests for this source will be refused"
    data := [("source", .shown source.name)] }

end Router

end CaseRouting
