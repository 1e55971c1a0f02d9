import Mathlib.Data.List.Induction
import SatBridge.Formula.ClauseStream

/-!
# Clauses cut from integers

A stream that takes integers one after the other holds at every moment what is cut from the
integers so far: a clause for each zero, and the literals after the last one.
-/

set_option autoImplicit false

namespace SatBridge

theorem mapM_eq_ok_map {ε α β : Type} {f : α → Except ε β} {g : α → β} {xs : List α}
    (each : ∀ x ∈ xs, f x = .ok (g x)) : xs.mapM f = .ok (xs.map g) := by
  induction xs with
  | nil => rfl
  | cons x xs ih =>
      obtain ⟨first, later⟩ := List.forall_mem_cons.mp each
      rw [List.mapM_cons, first, ih later]
      rfl

theorem exists_first {α : Type} (holds : α → Prop) {xs : List α} (found : ∃ x ∈ xs, holds x) :
    ∃ before x after, xs = before ++ x :: after ∧ (∀ y ∈ before, ¬ holds y) ∧ holds x := by
  induction xs with
  | nil => simp at found
  | cons first rest ih =>
      by_cases here : holds first
      · exact ⟨[], first, rest, rfl, by simp, here⟩
      · have later : ∃ x ∈ rest, holds x := by simpa [here] using found
        obtain ⟨before, x, after, rfl, earlier, holdsThere⟩ := ih later
        exact ⟨first :: before, x, after, rfl, List.forall_mem_cons.mpr ⟨here, earlier⟩, holdsThere⟩

theorem foldl_max_le_iff {values : List Nat} {start bound : Nat} :
    values.foldl max start ≤ bound ↔ start ≤ bound ∧ ∀ value ∈ values, value ≤ bound := by
  induction values generalizing start with
  | nil => simp
  | cons value rest ih =>
      rw [List.foldl_cons, ih, Nat.max_le, List.forall_mem_cons, and_assoc]

namespace ClauseStream

/-- Zero closes the open clause, and any other integer joins it as a literal. -/
def take (s : ClauseStream) (value : Int) : ClauseStream :=
  if value = 0 then s.close else s.push (.ofSigned value)

def ofInts (values : List Int) : ClauseStream :=
  values.foldl take empty

section Cut

theorem cut_snoc (values : List Int) (value : Int) :
    cut (values ++ [value]) =
      if value = 0 then ((cut values).1 ++ [(cut values).2], [])
      else ((cut values).1, (cut values).2 ++ [value]) := by
  induction values with
  | nil => by_cases zero : value = 0 <;> simp [cut, zero]
  | cons first rest ih =>
      rw [List.cons_append, cut, ih]
      rcases cutRest : cut rest with ⟨runs, last⟩
      by_cases zero : value = 0
      · by_cases ends : first = 0
        · simp [cut, cutRest, zero, ends]
        · cases runs <;> simp [cut, cutRest, zero, ends]
      · by_cases ends : first = 0
        · simp [cut, cutRest, zero, ends]
        · cases runs <;> simp [cut, cutRest, zero, ends]

theorem cut_append_zero {run : List Int} (unended : 0 ∉ run) (rest : List Int) :
    cut (run ++ 0 :: rest) = (run :: (cut rest).1, (cut rest).2) := by
  induction run with
  | nil => rfl
  | cons value run ih =>
      rw [List.mem_cons, not_or] at unended
      obtain ⟨nonzero, later⟩ := unended
      have nonzero : value ≠ 0 := fun same => nonzero same.symm
      rw [List.cons_append, cut, ih later]
      simp [nonzero]

theorem cut_flatMap_zero {runs : List (List Int)} (unended : ∀ run ∈ runs, 0 ∉ run) :
    cut (runs.flatMap fun run => run ++ [0]) = (runs, []) := by
  induction runs with
  | nil => rfl
  | cons run runs ih =>
      obtain ⟨first, later⟩ := List.forall_mem_cons.mp unended
      rw [List.flatMap_cons, List.append_assoc, List.singleton_append, cut_append_zero first,
        ih later]

theorem length_cut (values : List Int) : (cut values).1.length = values.count 0 := by
  induction values with
  | nil => rfl
  | cons value rest ih =>
      rw [cut, List.count_cons]
      rcases cutRest : cut rest with ⟨runs, last⟩
      rw [cutRest] at ih
      by_cases zero : value = 0
      · simpa [zero] using ih
      · cases runs <;> simpa [zero] using ih

theorem cut_closed_iff (values : List Int) :
    (cut values).2 = [] ↔ values = [] ∨ values.getLast? = some 0 := by
  induction values using List.reverseRecOn with
  | nil => simp [cut]
  | append_singleton rest value _ =>
      rw [cut_snoc]
      by_cases zero : value = 0 <;> simp [zero]

/-- Cutting loses the zeros and nothing else. -/
theorem flatten_cut (values : List Int) :
    (cut values).1.flatten ++ (cut values).2 = values.filter (· ≠ 0) := by
  induction values with
  | nil => rfl
  | cons value rest ih =>
      rw [cut]
      rcases cutRest : cut rest with ⟨runs, last⟩
      rw [cutRest] at ih
      by_cases zero : value = 0
      · simpa [zero] using ih
      · cases runs <;> simpa [zero] using ih

theorem mem_of_mem_cut {values run : List Int} (closed : run ∈ (cut values).1) {value : Int}
    (inRun : value ∈ run) : value ∈ values ∧ value ≠ 0 := by
  have kept : value ∈ values.filter (· ≠ 0) := by
    rw [← flatten_cut]
    exact List.mem_append_left _ (List.mem_flatten.mpr ⟨run, closed, inRun⟩)
  simpa using kept

end Cut

section Stream

@[simp] theorem ofInts_snoc (values : List Int) (value : Int) :
    ofInts (values ++ [value]) = (ofInts values).take value := by
  simp [ofInts]

/-- The closed clauses are the runs before the zeros, and the open one is the run after them. -/
theorem clauses_ofInts (values : List Int) :
    (ofInts values).clauses = (cut values).1.map (List.map Literal.ofSigned) ∧
      (ofInts values).openClause = (cut values).2.map Literal.ofSigned := by
  induction values using List.reverseRecOn with
  | nil => exact ⟨rfl, rfl⟩
  | append_singleton rest value ih =>
      obtain ⟨closed, opened⟩ := ih
      rw [ofInts_snoc, cut_snoc]
      by_cases zero : value = 0
      · simp [take, zero, closed, opened]
      · simp [take, zero, closed, opened]

theorem isOpen_eq_false_iff (s : ClauseStream) : s.isOpen = false ↔ s.openClause = [] := by
  simp [isOpen, openClause]

theorem length_closed (s : ClauseStream) : s.closed.length = s.clauses.length := by
  simp [clauses]

end Stream

section Clauses

/-- The integers of clauses that follow each other, each of them ended by a zero. -/
def integers (clauses : List Clause) : List Int :=
  (clauses.map (List.map Literal.signed)).flatMap fun run => run ++ [0]

theorem mem_integers {clauses : List Clause} {value : Int} (member : value ∈ integers clauses) :
    value = 0 ∨ ∃ c ∈ clauses, ∃ l ∈ c, value = l.signed := by
  obtain ⟨run, inRuns, inRun⟩ := List.mem_flatMap.mp member
  obtain ⟨c, inClauses, rfl⟩ := List.mem_map.mp inRuns
  rcases List.mem_append.mp inRun with literal | terminator
  · obtain ⟨l, inClause, rfl⟩ := List.mem_map.mp literal
    exact .inr ⟨c, inClauses, l, inClause, rfl⟩
  · exact .inl (List.mem_singleton.mp terminator)

theorem cut_integers {clauses : List Clause} (proper : ∀ c ∈ clauses, ∀ l ∈ c, 1 ≤ l.index) :
    cut (integers clauses) = (clauses.map (List.map Literal.signed), []) := by
  refine cut_flatMap_zero fun run member zero => ?_
  obtain ⟨c, inClauses, rfl⟩ := List.mem_map.mp member
  obtain ⟨l, inClause, vanishes⟩ := List.mem_map.mp zero
  have positive := proper c inClauses l inClause
  rw [← Literal.natAbs_signed, vanishes] at positive
  exact absurd positive (by decide)

theorem count_zero_integers {clauses : List Clause}
    (proper : ∀ c ∈ clauses, ∀ l ∈ c, 1 ≤ l.index) :
    (integers clauses).count 0 = clauses.length := by
  rw [← length_cut, cut_integers proper, List.length_map]

theorem filter_integers {clauses : List Clause} (proper : ∀ c ∈ clauses, ∀ l ∈ c, 1 ≤ l.index) :
    (integers clauses).filter (· ≠ 0) = clauses.flatten.map Literal.signed := by
  rw [← flatten_cut, cut_integers proper, List.append_nil, List.map_flatten]

theorem map_ofSigned_signed {clauses : List Clause}
    (proper : ∀ c ∈ clauses, ∀ l ∈ c, 1 ≤ l.index) :
    (clauses.map (List.map Literal.signed)).map (List.map Literal.ofSigned) = clauses := by
  rw [List.map_map]
  refine (List.map_congr_left fun c inClauses => ?_).trans (List.map_id clauses)
  change (c.map Literal.signed).map Literal.ofSigned = c
  rw [List.map_map]
  refine (List.map_congr_left fun l inClause => ?_).trans (List.map_id c)
  exact Literal.ofSigned_signed (proper c inClauses l inClause)

/-- Cutting and decoding the integers of clauses gives the clauses back. -/
theorem mapM_ofInt?_cut_integers {clauses : List Clause}
    (proper : ∀ c ∈ clauses, ∀ l ∈ c, l.WellFormed) :
    (cut (integers clauses)).2 = [] ∧
      (cut (integers clauses)).1.mapM (List.mapM Literal.ofInt?) = .ok clauses := by
  have positive : ∀ c ∈ clauses, ∀ l ∈ c, 1 ≤ l.index :=
    fun c inClauses l inClause => (proper c inClauses l inClause).1
  rw [cut_integers positive]
  refine ⟨rfl, (mapM_eq_ok_map fun run inRuns => ?_).trans
    (congrArg Except.ok (map_ofSigned_signed positive))⟩
  obtain ⟨c, inClauses, rfl⟩ := List.mem_map.mp inRuns
  refine mapM_eq_ok_map fun value inRun => ?_
  obtain ⟨l, inClause, rfl⟩ := List.mem_map.mp inRun
  obtain ⟨nonzero, bounded⟩ := proper c inClauses l inClause
  rw [← Literal.natAbs_signed] at nonzero bounded
  exact if_neg (by omega)

end Clauses

end ClauseStream

end SatBridge
