import SatBridge.Backend.Engine
import SatBridge.Search.Learning
import SatBridge.Search.Splitting

/-!
# Search for a satisfying valuation

The answer of the search by learning counts only as far as it can be checked: a valuation must make
every clause hold, and a refutation must derive the empty clause. What cannot be checked is left to
the search by splitting, so the answer is right whatever the search by learning does.
-/

set_option autoImplicit false

namespace SatBridge.Search

/-- More rounds of propagation than any search takes. -/
def budget : Nat := Nat.pow 2 62

/-- The answer of the search by learning. -/
def learned (clauses : List Clause) : Verdict :=
  match State.ofClauses clauses with
  | (s, some conflict) => .refuted ((s.settle s.trail.codes.size).refutation conflict)
  | (s, none) => s.run budget

/-- A valuation that makes every clause hold, if there is one. -/
def satisfy? (clauses : List Clause) : Option Valuation :=
  match learned clauses with
  | .satisfied trueVars =>
    let v := Valuation.ofTrue trueVars
    if Satisfies v clauses then some v else Splitting.satisfy? clauses
  | .refuted steps =>
    if steps.refutes clauses.toArray then none else Splitting.satisfy? clauses
  | .undecided => Splitting.satisfy? clauses

/-- The search as an engine. It gives every variable a value and never gives up. -/
def engine : Engine where
  decide clauses :=
    match satisfy? clauses with
    | some valuation => .satisfiable fun var => some (valuation var)
    | none => .unsatisfiable

end SatBridge.Search
