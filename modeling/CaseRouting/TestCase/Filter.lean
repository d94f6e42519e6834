import CaseRouting.TestCase.Basic

/-!
# Filters

A filter picks test cases by status, by a label and by a part of the title in any case of letters,
and cuts what is left after a count.
-/

namespace CaseRouting

structure Filter where
  status : Option Status
  label : Option String
  titleContains : Option String
  limit : Option Nat
  deriving DecidableEq

namespace Filter

/-- Picks everything. -/
def all : Filter := ⟨none, none, none, none⟩

def statusFits (f : Filter) (c : TestCase) : Bool := f.status.all (· == c.status)

def labelFits (f : Filter) (c : TestCase) : Bool := f.label.all fun l => c.labels.contains l

def titleFits (f : Filter) (c : TestCase) : Bool :=
  f.titleContains.all fun needle =>
    Text.hasInfix (Text.lower needle).toList (Text.lower c.title).toList

def fits (f : Filter) (c : TestCase) : Bool := f.statusFits c && f.labelFits c && f.titleFits c

def cut {α : Type} (f : Filter) (cs : List α) : List α :=
  match f.limit with
  | some n => cs.take n
  | none => cs

/-- The test cases that fit, as many as the limit allows. -/
def apply (f : Filter) (cs : List TestCase) : List TestCase := f.cut (cs.filter f.fits)

end Filter

end CaseRouting
