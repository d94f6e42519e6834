import CaseRouting.Action
import CaseRouting.TestCase.Filter

/-!
# Gateways

What every source offers: commands on one test case, and queries that change nothing.
-/

namespace CaseRouting

structure Gateway (σ : Type) where
  command : Command → String → Action σ TestCase
  get : String → Action σ TestCase
  list : Filter → Action σ (List TestCase)

/-- The gateway for a part of a larger state. -/
def Gateway.within {σ τ : Type} (part : τ → σ) (replace : σ → τ → τ) (g : Gateway σ) :
    Gateway τ where
  command c id := (g.command c id).within part replace
  get id := (g.get id).within part replace
  list f := (g.list f).within part replace

end CaseRouting
