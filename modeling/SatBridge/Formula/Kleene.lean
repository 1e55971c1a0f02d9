/-!
# Three-valued truth

`Option Bool` as the truth values of strong Kleene logic: `none` is "not known yet". A disjunction
is true as soon as one part is, a conjunction false as soon as one part is, and neither depends on
the order of its parts. Main statements: when each of the three values arises, and that learning
more never changes a value once it is known.
-/

set_option autoImplicit false

namespace SatBridge.Kleene

def or : Option Bool → Option Bool → Option Bool
  | some true, _ | _, some true => some true
  | some false, some false => some false
  | _, _ => none

def and : Option Bool → Option Bool → Option Bool
  | some false, _ | _, some false => some false
  | some true, some true => some true
  | _, _ => none

/-- The disjunction of a list; the empty one is false. -/
def any (values : List (Option Bool)) : Option Bool :=
  values.foldr or (some false)

/-- The conjunction of a list; the empty one is true. -/
def all (values : List (Option Bool)) : Option Bool :=
  values.foldr and (some true)

/-- What `a` knows is known to `b`, with the same value. -/
def Refines (a b : Option Bool) : Prop :=
  ∀ value, a = some value → b = some value

@[simp] theorem or_eq_some_true_iff {a b : Option Bool} :
    or a b = some true ↔ a = some true ∨ b = some true := by
  rcases a with _ | _ | _ <;> rcases b with _ | _ | _ <;> simp [or]

@[simp] theorem or_eq_some_false_iff {a b : Option Bool} :
    or a b = some false ↔ a = some false ∧ b = some false := by
  rcases a with _ | _ | _ <;> rcases b with _ | _ | _ <;> simp [or]

@[simp] theorem and_eq_some_true_iff {a b : Option Bool} :
    and a b = some true ↔ a = some true ∧ b = some true := by
  rcases a with _ | _ | _ <;> rcases b with _ | _ | _ <;> simp [and]

@[simp] theorem and_eq_some_false_iff {a b : Option Bool} :
    and a b = some false ↔ a = some false ∨ b = some false := by
  rcases a with _ | _ | _ <;> rcases b with _ | _ | _ <;> simp [and]

theorem any_eq_some_true_iff {values : List (Option Bool)} :
    any values = some true ↔ some true ∈ values := by
  induction values with
  | nil => simp [any]
  | cons a rest ih =>
      simp only [any, List.foldr_cons] at ih ⊢
      rw [or_eq_some_true_iff, ih, List.mem_cons, eq_comm]

theorem any_eq_some_false_iff {values : List (Option Bool)} :
    any values = some false ↔ ∀ a ∈ values, a = some false := by
  induction values with
  | nil => simp [any]
  | cons a rest ih =>
      simp only [any, List.foldr_cons] at ih ⊢
      rw [or_eq_some_false_iff, ih, List.forall_mem_cons]

theorem all_eq_some_true_iff {values : List (Option Bool)} :
    all values = some true ↔ ∀ a ∈ values, a = some true := by
  induction values with
  | nil => simp [all]
  | cons a rest ih =>
      simp only [all, List.foldr_cons] at ih ⊢
      rw [and_eq_some_true_iff, ih, List.forall_mem_cons]

theorem all_eq_some_false_iff {values : List (Option Bool)} :
    all values = some false ↔ some false ∈ values := by
  induction values with
  | nil => simp [all]
  | cons a rest ih =>
      simp only [all, List.foldr_cons] at ih ⊢
      rw [and_eq_some_false_iff, ih, List.mem_cons, eq_comm]

theorem ext_iff {a b : Option Bool} :
    a = b ↔ (a = some true ↔ b = some true) ∧ (a = some false ↔ b = some false) := by
  rcases a with _ | _ | _ <;> rcases b with _ | _ | _ <;> simp

/-- The order of the parts does not matter. -/
theorem any_congr {values others : List (Option Bool)} (same : ∀ a, a ∈ values ↔ a ∈ others) :
    any values = any others := by
  rw [ext_iff]
  simp only [any_eq_some_true_iff, any_eq_some_false_iff, same, and_self]

theorem all_congr {values others : List (Option Bool)} (same : ∀ a, a ∈ values ↔ a ∈ others) :
    all values = all others := by
  rw [ext_iff]
  simp only [all_eq_some_true_iff, all_eq_some_false_iff, same, and_self]

section Refinement

variable {a b c d : Option Bool}

theorem or_refines (left : Refines a c) (right : Refines b d) : Refines (or a b) (or c d) := by
  intro value known
  cases value with
  | false =>
      rw [or_eq_some_false_iff] at known ⊢
      exact ⟨left false known.1, right false known.2⟩
  | true =>
      rw [or_eq_some_true_iff] at known ⊢
      exact known.imp (left true) (right true)

theorem and_refines (left : Refines a c) (right : Refines b d) : Refines (and a b) (and c d) := by
  intro value known
  cases value with
  | false =>
      rw [and_eq_some_false_iff] at known ⊢
      exact known.imp (left false) (right false)
  | true =>
      rw [and_eq_some_true_iff] at known ⊢
      exact ⟨left true known.1, right true known.2⟩

theorem any_refines {α : Type} {items : List α} {first second : α → Option Bool}
    (each : ∀ item ∈ items, Refines (first item) (second item)) :
    Refines (any (items.map first)) (any (items.map second)) := by
  induction items with
  | nil => exact fun _ known => known
  | cons item rest ih =>
      obtain ⟨here, later⟩ := List.forall_mem_cons.mp each
      exact or_refines here (ih later)

theorem all_refines {α : Type} {items : List α} {first second : α → Option Bool}
    (each : ∀ item ∈ items, Refines (first item) (second item)) :
    Refines (all (items.map first)) (all (items.map second)) := by
  induction items with
  | nil => exact fun _ known => known
  | cons item rest ih =>
      obtain ⟨here, later⟩ := List.forall_mem_cons.mp each
      exact and_refines here (ih later)

end Refinement

section Known

/-- Where every part is known, the disjunction is the classical one. -/
theorem any_map_some (values : List Bool) : any (values.map some) = some (values.any id) := by
  induction values with
  | nil => rfl
  | cons value rest ih =>
      simp only [any, List.map_cons, List.foldr_cons] at ih ⊢
      rw [ih, List.any_cons]
      cases value <;> cases rest.any id <;> rfl

theorem all_map_some (values : List Bool) : all (values.map some) = some (values.all id) := by
  induction values with
  | nil => rfl
  | cons value rest ih =>
      simp only [all, List.map_cons, List.foldr_cons] at ih ⊢
      rw [ih, List.all_cons]
      cases value <;> cases rest.all id <;> rfl

end Known

end SatBridge.Kleene
