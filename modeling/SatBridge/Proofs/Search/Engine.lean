import SatBridge.Proofs.Search.Splitting
import SatBridge.Backend.Resident

/-!
# Engines that decide

What a caller relies on when clauses are left to an engine, and that the search of this project
keeps to it.
-/

set_option autoImplicit false

namespace SatBridge

/-- Clauses over variables that the resident solver takes. -/
def Taken (clauses : List Clause) : Prop :=
  ∀ c ∈ clauses, ∀ l ∈ c, 1 ≤ l.index ∧ l.index ≤ ResidentSolver.maxVar

/-- The engine decides satisfiability of the clauses it may be given, and the values that it answers
with make each of them true. -/
structure Engine.Decides (engine : Engine) : Prop where
  holds : ∀ clauses values, Taken clauses → engine.decide clauses = .satisfiable values →
    ∀ c ∈ clauses, ∃ l ∈ c, values l.index = some l.positive
  refutes : ∀ clauses, Taken clauses → engine.decide clauses = .unsatisfiable →
    ¬ Satisfiable clauses
  answers : ∀ clauses reason, Taken clauses → engine.decide clauses ≠ .stopped reason

namespace Search

theorem satisfy?_sound {clauses : List Clause} {v : Valuation}
    (found : satisfy? clauses = some v) : Satisfies v clauses := by
  simp only [satisfy?] at found
  split at found
  · split at found
    · rename_i checked
      cases found
      exact checked
    · exact Splitting.satisfy?_eq_some found
  · split at found
    · cases found
    · exact Splitting.satisfy?_eq_some found
  · exact Splitting.satisfy?_eq_some found

theorem satisfy?_complete {clauses : List Clause} (none : satisfy? clauses = none) :
    ¬ Satisfiable clauses := by
  have split_ : Splitting.satisfy? clauses = Option.none → ¬ Satisfiable clauses :=
    fun gaveUp satisfiable => Splitting.satisfy?_ne_none satisfiable gaveUp
  simp only [satisfy?] at none
  split at none
  · split at none
    · cases none
    · exact split_ none
  · split at none
    · rename_i steps _ refuted
      intro satisfiable
      obtain ⟨v, satisfies⟩ := satisfiable
      refine steps.not_holds_of_refutes refuted fun c member => satisfies c ?_
      simpa using member
    · exact split_ none
  · exact split_ none

/-- Every answer of the search was checked, or comes from splitting. -/
theorem engine_decides : engine.Decides where
  holds clauses values _ answered c member := by
    simp only [engine] at answered
    split at answered
    · rename_i v found
      cases answered
      obtain ⟨l, inClause, holds⟩ := List.any_eq_true.mp (satisfy?_sound found c member)
      exact ⟨l, inClause, congrArg some (beq_iff_eq.mp holds)⟩
    · cases answered
  refutes clauses _ answered := by
    simp only [engine] at answered
    split at answered
    · cases answered
    · rename_i none
      exact satisfy?_complete none
  answers clauses reason _ := by
    simp only [engine]
    split <;> simp

end Search

end SatBridge
