import SatBridge.Formula.Kleene
import SatBridge.Formula.Literal

/-!
# Formulas in conjunctive normal form

A formula declares a number of variables and lists its clauses. It is evaluated under a partial
assignment in three-valued logic, where an unassigned variable is neither true nor false.
-/

set_option autoImplicit false

namespace SatBridge

/-- A partial assignment: one slot for each variable, `none` while it is unassigned. Slot zero
belongs to no variable. -/
abbrev Assignment := Array (Option Bool)

/-- The value of a variable; one without a slot is unassigned. -/
def Assignment.value? (a : Assignment) (var : Nat) : Option Bool :=
  a[var]?.join

/-- Every value that `a` assigns is kept by `b`. -/
def Assignment.Extends (a b : Assignment) : Prop :=
  ∀ var value, a.value? var = some value → b.value? var = some value

/-- A literal is true when its variable has its polarity. -/
def Literal.eval (a : Assignment) (l : Literal) : Option Bool :=
  (a.value? l.index).map fun value => if l.positive then value else !value

/-- A clause is true when one of its literals is, and false when all of them are. -/
def Clause.eval (a : Assignment) (c : Clause) : Option Bool :=
  Kleene.any (c.map (Literal.eval a))

structure Formula where
  numVars : Nat
  clauses : List Clause
  deriving DecidableEq, Repr, Inhabited

namespace Formula

def ofNumVars (numVars : Nat) : Formula := ⟨numVars, []⟩

/-- Appends a clause and declares its variables. -/
def addClause (f : Formula) (c : Clause) : Formula where
  numVars := (c.map Literal.index).foldl max f.numVars
  clauses := f.clauses ++ [c]

def numLiterals (f : Formula) : Nat :=
  f.clauses.flatten.length

/-- A formula is true when all its clauses are, and false when one of them is. -/
def eval (a : Assignment) (f : Formula) : Option Bool :=
  Kleene.all (f.clauses.map (Clause.eval a))

/-- The index of the first clause that is not true: an unassigned variable makes no clause true. -/
def firstUnsatisfied (a : Assignment) (f : Formula) : Option Nat :=
  f.clauses.findIdx? fun c => Clause.eval a c != some true

/-- A formula is well formed when it declares variables that have literals, and uses no others. -/
def WellFormed (f : Formula) : Prop :=
  f.numVars ≤ maxVar ∧ ∀ c ∈ f.clauses, ∀ l ∈ c, 1 ≤ l.index ∧ l.index ≤ f.numVars

instance (f : Formula) : Decidable f.WellFormed :=
  inferInstanceAs (Decidable (_ ∧ _))

theorem WellFormed.literal {f : Formula} (wellFormed : f.WellFormed) {c : Clause}
    (member : c ∈ f.clauses) {l : Literal} (inClause : l ∈ c) : l.WellFormed := by
  obtain ⟨bounded, declared⟩ := wellFormed
  obtain ⟨proper, below⟩ := declared c member l inClause
  exact ⟨proper, Nat.le_trans below bounded⟩

end Formula

end SatBridge
