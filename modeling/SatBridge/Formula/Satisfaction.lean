import SatBridge.Formula.Literal
import Std.Data.HashSet

/-!
# Satisfaction

Truth under a total valuation of the variables, where every literal is either true or false.
-/

set_option autoImplicit false

namespace SatBridge

abbrev Valuation := Nat → Bool

/-- The valuation under which exactly the given variables are true. -/
def Valuation.ofTrue (vars : Std.HashSet Nat) : Valuation :=
  fun var => vars.contains var

/-- A literal holds when its variable has its polarity. -/
def Literal.holds (v : Valuation) (l : Literal) : Bool :=
  v l.index == l.positive

/-- A clause holds when one of its literals does. -/
def Clause.holds (v : Valuation) (c : Clause) : Bool :=
  c.any (Literal.holds v)

def Satisfies (v : Valuation) (clauses : List Clause) : Prop :=
  ∀ c ∈ clauses, Clause.holds v c = true

/-- Some valuation makes every clause hold. -/
def Satisfiable (clauses : List Clause) : Prop :=
  ∃ v, Satisfies v clauses

instance (v : Valuation) (clauses : List Clause) : Decidable (Satisfies v clauses) :=
  decidable_of_iff (clauses.all (Clause.holds v) = true) List.all_eq_true

@[simp] theorem Literal.holds_negate (v : Valuation) (l : Literal) :
    l.negate.holds v = !l.holds v := by
  simp only [Literal.holds, Literal.index_negate, Literal.positive_negate]
  cases v l.index <;> cases l.positive <;> rfl

end SatBridge
