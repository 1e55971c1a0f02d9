/-!
# Statistics

Counts over the integers that a solver has accepted: a zero ends a clause, any other integer is
a literal.
-/

set_option autoImplicit false

namespace SatBridge

structure Stats where
  solveCalls : Nat
  clauses : Nat
  literals : Nat
  maxVar : Nat
  deriving DecidableEq, Repr, Inhabited

namespace Stats

def zero : Stats := ⟨0, 0, 0, 0⟩

/-- Counts one accepted integer. -/
def countAdded (stats : Stats) (value : Int) : Stats :=
  if value = 0 then { stats with clauses := stats.clauses + 1 }
  else
    { stats with
      literals := stats.literals + 1
      maxVar := max stats.maxVar value.natAbs }

def countSolve (stats : Stats) : Stats :=
  { stats with solveCalls := stats.solveCalls + 1 }

end Stats

end SatBridge
