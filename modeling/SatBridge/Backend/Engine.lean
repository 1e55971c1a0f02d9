import SatBridge.Formula.Satisfaction

/-!
# Decision engines

What decides clauses is not part of a solver: a solver collects literals and keeps its accounts, and
leaves the clauses to an engine. An engine answers from the clauses in their order and from nothing
else.
-/

set_option autoImplicit false

namespace SatBridge

/-- What an engine says about some clauses. -/
inductive Decision where
  /-- The clauses hold under these values; a variable that the engine left open has none. -/
  | satisfiable (values : Nat → Option Bool)
  | unsatisfiable
  /-- The engine gave up, for a reason in its own words. -/
  | stopped (reason : String)

structure Engine where
  decide : List Clause → Decision

end SatBridge
