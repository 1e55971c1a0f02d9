import Mathlib.Data.List.Forall2
import SatBridge.Proofs.Formula.Evaluation

/-!
# Partial evaluation

A formula is evaluated while some of its variables are still open. Whatever is assigned to them
later, a value that is known already stays, since each connective of three-valued logic refines its
result when its parts are refined; a valuation is the end of that, where every part is known. Main
statement: the value under a partial assignment is known exactly if the slots force it, and the
search for a clause that is not true finds the first one.
-/

set_option autoImplicit false

namespace SatBridge

/-- The valuation agrees with every value that is assigned. -/
def Assignment.CompletedBy (a : Assignment) (v : Valuation) : Prop :=
  ∀ var value, a.value? var = some value → v var = value

/-- The same clauses with the same literals, in any order. -/
def Reordered (clauses others : List Clause) : Prop :=
  ∃ permuted, clauses.Perm permuted ∧ List.Forall₂ List.Perm permuted others

variable {a b : Assignment} {v : Valuation} {l : Literal} {c : Clause} {f g : Formula}

/-- Open variables may be taken for false. -/
theorem Assignment.completedBy_assigned (a : Assignment) :
    a.CompletedBy fun var => a.value? var == some true := by
  intro var value assigned
  cases value <;> simp [assigned]

section Values

theorem Literal.eval_eq_some_false_iff :
    l.eval a = some false ↔ a.value? l.index = some (!l.positive) := by
  unfold Literal.eval
  cases a.value? l.index with
  | none => simp
  | some value => cases value <;> cases l.positive <;> simp

theorem Clause.eval_eq_some_false_iff :
    Clause.eval a c = some false ↔ ∀ l ∈ c, l.eval a = some false := by
  rw [Clause.eval, Kleene.any_eq_some_false_iff, List.forall_mem_map]

theorem Formula.eval_eq_some_true_iff :
    f.eval a = some true ↔ ∀ c ∈ f.clauses, Clause.eval a c = some true := by
  rw [Formula.eval, Kleene.all_eq_some_true_iff, List.forall_mem_map]

theorem Formula.eval_eq_some_false_iff :
    f.eval a = some false ↔ ∃ c ∈ f.clauses, Clause.eval a c = some false := by
  rw [Formula.eval, Kleene.all_eq_some_false_iff, List.mem_map]

theorem Formula.eval_eq_none_iff :
    f.eval a = none ↔ f.eval a ≠ some true ∧ f.eval a ≠ some false := by
  rcases f.eval a with _ | _ | _ <;> simp

end Values

section Order

theorem Clause.eval_perm {c d : Clause} (permuted : c.Perm d) :
    Clause.eval a c = Clause.eval a d :=
  Kleene.any_congr fun _ => (permuted.map _).mem_iff

theorem map_eval_eq_of_forall₂ {clauses others : List Clause}
    (permuted : List.Forall₂ List.Perm clauses others) :
    clauses.map (Clause.eval a) = others.map (Clause.eval a) := by
  induction permuted with
  | nil => rfl
  | cons first _ ih => rw [List.map_cons, List.map_cons, Clause.eval_perm first, ih]

theorem Formula.eval_reordered (reordered : Reordered f.clauses g.clauses) :
    f.eval a = g.eval a := by
  obtain ⟨permuted, clauses, literals⟩ := reordered
  rw [Formula.eval, Formula.eval, ← map_eval_eq_of_forall₂ literals]
  exact Kleene.all_congr fun _ => (clauses.map _).mem_iff

end Order

section Extension

theorem Literal.eval_refines (extended : a.Extends b) (l : Literal) :
    Kleene.Refines (l.eval a) (l.eval b) := by
  intro value known
  obtain ⟨assigned, found, rfl⟩ := Option.map_eq_some_iff.mp known
  exact Option.map_eq_some_iff.mpr ⟨assigned, extended _ _ found, rfl⟩

theorem Clause.eval_refines (extended : a.Extends b) (c : Clause) :
    Kleene.Refines (Clause.eval a c) (Clause.eval b c) :=
  Kleene.any_refines fun l _ => l.eval_refines extended

theorem Formula.eval_refines (extended : a.Extends b) (f : Formula) :
    Kleene.Refines (f.eval a) (f.eval b) :=
  Kleene.all_refines fun c _ => Clause.eval_refines extended c

end Extension

section Completion

theorem Literal.eval_completed (completed : a.CompletedBy v) (l : Literal) :
    Kleene.Refines (l.eval a) (some (l.holds v)) := by
  intro value known
  obtain ⟨assigned, found, rfl⟩ := Option.map_eq_some_iff.mp known
  rw [Literal.holds, completed _ _ found]
  cases assigned <;> cases l.positive <;> rfl

theorem Clause.any_holds (v : Valuation) (c : Clause) :
    Kleene.any (c.map fun l => some (l.holds v)) = some (Clause.holds v c) := by
  have known := Kleene.any_map_some (c.map (Literal.holds v))
  rwa [List.map_map, List.any_map] at known

theorem Formula.all_holds (v : Valuation) (f : Formula) :
    Kleene.all (f.clauses.map fun c => some (Clause.holds v c)) =
      some (decide (Satisfies v f.clauses)) := by
  have decided : decide (Satisfies v f.clauses) = f.clauses.all (Clause.holds v) := by
    rw [Bool.eq_iff_iff, decide_eq_true_iff]
    exact List.all_eq_true.symm
  have known := Kleene.all_map_some (f.clauses.map (Clause.holds v))
  rwa [List.map_map, List.all_map, Function.id_comp, ← decided] at known

theorem Clause.eval_completed (completed : a.CompletedBy v) (c : Clause) :
    Kleene.Refines (Clause.eval a c) (some (Clause.holds v c)) := by
  rw [← Clause.any_holds]
  exact Kleene.any_refines fun l _ => l.eval_completed completed

theorem Formula.eval_completed (completed : a.CompletedBy v) (f : Formula) :
    Kleene.Refines (f.eval a) (some (decide (Satisfies v f.clauses))) := by
  rw [← Formula.all_holds]
  exact Kleene.all_refines fun c _ => Clause.eval_completed completed c

theorem Literal.eval_covered (completed : a.CompletedBy v)
    (covered : (a.value? l.index).isSome = true) : l.eval a = some (l.holds v) := by
  obtain ⟨assigned, found⟩ := Option.isSome_iff_exists.mp covered
  have known : l.eval a = some (if l.positive then assigned else !assigned) := by
    rw [Literal.eval, found]
    rfl
  rw [known, l.eval_completed completed _ known]

/-- With no open variable, the value is the one of two-valued logic. -/
theorem Formula.eval_covered (completed : a.CompletedBy v)
    (covered : ∀ c ∈ f.clauses, ∀ l ∈ c, (a.value? l.index).isSome = true) :
    f.eval a = some (decide (Satisfies v f.clauses)) := by
  rw [← Formula.all_holds, Formula.eval]
  refine congrArg Kleene.all (List.map_congr_left fun c inFormula => ?_)
  rw [← Clause.any_holds, Clause.eval]
  refine congrArg Kleene.any (List.map_congr_left fun l inClause => ?_)
  exact Literal.eval_covered completed (covered c inFormula l inClause)

end Completion

namespace Formula

theorem firstUnsatisfied_eq_none_iff_eval :
    f.firstUnsatisfied a = none ↔ f.eval a = some true := by
  rw [firstUnsatisfied_eq_none_iff, eval_eq_some_true_iff]

/-- What the value of a formula under a partial assignment tells. -/
structure Tells (f : Formula) (a : Assignment) : Prop where
  true_iff : f.eval a = some true ↔
    ∀ c ∈ f.clauses, ∃ l ∈ c, a.value? l.index = some l.positive
  false_iff : f.eval a = some false ↔
    ∃ c ∈ f.clauses, ∀ l ∈ c, a.value? l.index = some (!l.positive)
  none_iff : f.eval a = none ↔
    ¬ (∀ c ∈ f.clauses, ∃ l ∈ c, a.value? l.index = some l.positive) ∧
      ¬ ∃ c ∈ f.clauses, ∀ l ∈ c, a.value? l.index = some (!l.positive)
  reordered : ∀ g : Formula, Reordered f.clauses g.clauses → f.eval a = g.eval a
  /-- A known value stays while more variables are assigned. -/
  extended : ∀ b, a.Extends b → ∀ value, f.eval a = some value → f.eval b = some value
  completed : ∀ v, a.CompletedBy v → ∀ value, f.eval a = some value →
    decide (Satisfies v f.clauses) = value
  covered : (∀ c ∈ f.clauses, ∀ l ∈ c, (a.value? l.index).isSome = true) →
    ∀ v, a.CompletedBy v → f.eval a = some (decide (Satisfies v f.clauses))
  /-- Open variables leave room for a valuation. -/
  completable : ∃ v, a.CompletedBy v
  unrefuted_iff : f.firstUnsatisfied a = none ↔ f.eval a = some true
  /-- The clause that is found is the first one that is not true. -/
  refuted_iff : ∀ index, f.firstUnsatisfied a = some index ↔
    (∃ c, f.clauses[index]? = some c ∧ Clause.eval a c ≠ some true) ∧
      ∀ c ∈ f.clauses.take index, Clause.eval a c = some true
  unrefuted_extended : ∀ b, a.Extends b → f.firstUnsatisfied a = none →
    f.firstUnsatisfied b = none

/-- Partial evaluation is exact on the slots, and never takes a value back. -/
theorem eval_tells (f : Formula) (a : Assignment) : f.Tells a := by
  have trueIff : f.eval a = some true ↔
      ∀ c ∈ f.clauses, ∃ l ∈ c, a.value? l.index = some l.positive := by
    simp only [eval_eq_some_true_iff, Clause.eval_eq_some_true_iff, Literal.eval_eq_some_true_iff]
  have falseIff : f.eval a = some false ↔
      ∃ c ∈ f.clauses, ∀ l ∈ c, a.value? l.index = some (!l.positive) := by
    simp only [eval_eq_some_false_iff, Clause.eval_eq_some_false_iff,
      Literal.eval_eq_some_false_iff]
  exact {
    true_iff := trueIff
    false_iff := falseIff
    none_iff := by rw [eval_eq_none_iff, ne_eq, ne_eq, trueIff, falseIff]
    reordered := fun g reordered => eval_reordered reordered
    extended := fun b extended value known => f.eval_refines extended value known
    completed := fun v completed value known =>
      Option.some.inj (f.eval_completed completed value known)
    covered := fun covered v completed => eval_covered completed covered
    completable := ⟨_, a.completedBy_assigned⟩
    unrefuted_iff := firstUnsatisfied_eq_none_iff_eval
    refuted_iff := fun index => firstUnsatisfied_eq_some_iff
    unrefuted_extended := fun b extended found => by
      rw [firstUnsatisfied_eq_none_iff_eval] at found ⊢
      exact f.eval_refines extended true found }

/-- An open literal does not hide a clause behind it that is false. -/
example : eval #[none, none, some true] ⟨2, [[⟨1, true⟩], [⟨2, false⟩]]⟩ = some false ∧
    firstUnsatisfied #[none, none, some true] ⟨2, [[⟨1, true⟩], [⟨2, false⟩]]⟩ = some 0 := by
  decide

end Formula

end SatBridge
