import SatBridge.Formula.Basic
import SatBridge.Formula.Satisfaction

/-!
# When a clause is true

Truth of literals and clauses under a partial assignment in terms of the slots. A formula whose
clauses are all true is satisfiable, and a check that finds no clause has looked at all of them.
-/

set_option autoImplicit false

namespace SatBridge

/-- Slot zero belongs to no variable. -/
theorem Assignment.value?_of_slots {model : Assignment} {values : List (Option Bool)}
    (slots : model.toList = none :: values) (position : Nat) :
    model.value? (1 + position) = values[position]?.join := by
  rw [Assignment.value?, ← Array.getElem?_toList, slots, Nat.add_comm]
  rfl

theorem Literal.eval_eq_some_true_iff {a : Assignment} {l : Literal} :
    l.eval a = some true ↔ a.value? l.index = some l.positive := by
  unfold Literal.eval
  cases a.value? l.index with
  | none => simp
  | some value => cases value <;> cases l.positive <;> simp

theorem Clause.eval_eq_some_true_iff {a : Assignment} {c : Clause} :
    Clause.eval a c = some true ↔ ∃ l ∈ c, l.eval a = some true := by
  rw [Clause.eval, Kleene.any_eq_some_true_iff, List.mem_map]

namespace Formula

variable {a : Assignment} {f : Formula}

theorem firstUnsatisfied_eq_none_iff :
    f.firstUnsatisfied a = none ↔ ∀ c ∈ f.clauses, Clause.eval a c = some true := by
  simp [firstUnsatisfied, List.findIdx?_eq_none_iff]

theorem firstUnsatisfied_eq_some_iff {index : Nat} :
    f.firstUnsatisfied a = some index ↔
      (∃ c, f.clauses[index]? = some c ∧ Clause.eval a c ≠ some true) ∧
        ∀ c ∈ f.clauses.take index, Clause.eval a c = some true := by
  rw [firstUnsatisfied, List.findIdx?_eq_some_iff_getElem]
  constructor
  · intro found
    obtain ⟨inside, refuted, least⟩ := found
    refine ⟨⟨f.clauses[index], List.getElem?_eq_getElem inside, by simpa using refuted⟩, ?_⟩
    intro c member
    obtain ⟨position, before, rfl⟩ := List.mem_take_iff_getElem.mp member
    have early : position < index := Nat.lt_of_lt_of_le before (Nat.min_le_left _ _)
    simpa using least position early
  · intro first
    obtain ⟨⟨c, found, refuted⟩, least⟩ := first
    obtain ⟨inside, rfl⟩ := List.getElem?_eq_some_iff.mp found
    refine ⟨inside, by simpa using refuted, ?_⟩
    intro position early
    have within := Nat.lt_min.mpr ⟨early, Nat.lt_trans early inside⟩
    have member : f.clauses[position] ∈ f.clauses.take index :=
      List.mem_take_iff_getElem.mpr ⟨position, within, rfl⟩
    simpa using least _ member

end Formula

/-- Unassigned variables may be taken for false. -/
theorem satisfies_of_eval {a : Assignment} {clauses : List Clause}
    (holds : ∀ c ∈ clauses, Clause.eval a c = some true) :
    Satisfies (fun var => a.value? var == some true) clauses := by
  intro c member
  obtain ⟨l, inClause, isTrue⟩ := Clause.eval_eq_some_true_iff.mp (holds c member)
  refine List.any_eq_true.mpr ⟨l, inClause, ?_⟩
  rw [Literal.eval_eq_some_true_iff] at isTrue
  simp [Literal.holds, isTrue]

end SatBridge
