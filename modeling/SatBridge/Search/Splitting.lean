import SatBridge.Formula.Satisfaction

/-!
# Search by splitting

Splitting on one literal at a time. A literal that stands alone in a clause is split on first: its
opposite branch is refuted at once, so such a split only propagates the literal. Each split removes
an occurrence of its literal, so the search ends when no clause is left.
-/

set_option autoImplicit false

namespace SatBridge.Search.Splitting

def occurrences (clauses : List Clause) : Nat :=
  clauses.flatten.length

/-- What is left to satisfy once a literal is taken for true: the clauses without it, each without
the opposite literal. -/
def assume (l : Literal) (clauses : List Clause) : List Clause :=
  clauses.filterMap fun c => if l ∈ c then none else some (c.filter (· != l.negate))

/-- The literal to split on: one that stands alone in a clause, else the first of all. -/
def pick? (clauses : List Clause) : Option Literal :=
  match clauses.find? fun c => c.length == 1 with
  | some (l :: _) => some l
  | _ => clauses.flatten.head?

@[simp] theorem occurrences_cons (c : Clause) (rest : List Clause) :
    occurrences (c :: rest) = c.length + occurrences rest := by
  simp [occurrences]

theorem assume_cons_of_mem {l : Literal} {c : Clause} (member : l ∈ c) (rest : List Clause) :
    assume l (c :: rest) = assume l rest := by
  simp [assume, member]

theorem assume_cons_of_not_mem {l : Literal} {c : Clause} (absent : l ∉ c) (rest : List Clause) :
    assume l (c :: rest) = c.filter (· != l.negate) :: assume l rest := by
  simp [assume, absent]

theorem mem_of_pick? {clauses : List Clause} {l : Literal} (picked : pick? clauses = some l) :
    l ∈ clauses.flatten := by
  unfold pick? at picked
  split at picked
  · rename_i literal rest found
    cases picked
    exact List.mem_flatten.mpr ⟨_, List.mem_of_find?_eq_some found, List.mem_cons_self⟩
  · exact List.mem_of_head? picked

/-- Assuming a literal never adds an occurrence. -/
theorem occurrences_assume_le (l : Literal) (clauses : List Clause) :
    occurrences (assume l clauses) ≤ occurrences clauses := by
  induction clauses with
  | nil => exact Nat.le_refl _
  | cons c rest ih =>
      by_cases member : l ∈ c
      · rw [assume_cons_of_mem member, occurrences_cons]
        omega
      · have shorter := List.length_filter_le (· != l.negate) c
        rw [assume_cons_of_not_mem member, occurrences_cons, occurrences_cons]
        omega

/-- Assuming a literal removes its own occurrences. -/
theorem occurrences_assume_lt {l : Literal} {clauses : List Clause}
    (member : l ∈ clauses.flatten) :
    occurrences (assume l clauses) < occurrences clauses := by
  induction clauses with
  | nil => simp at member
  | cons c rest ih =>
      by_cases inHead : l ∈ c
      · have filled := List.length_pos_of_mem inHead
        have restSmaller := occurrences_assume_le l rest
        rw [assume_cons_of_mem inHead, occurrences_cons]
        omega
      · have shorter := List.length_filter_le (· != l.negate) c
        have restSmaller := ih (by simpa [inHead] using member)
        rw [assume_cons_of_not_mem inHead, occurrences_cons, occurrences_cons]
        omega

/-- Assuming the opposite of a literal removes the occurrences of the literal. -/
theorem occurrences_assume_negate_lt {l : Literal} {clauses : List Clause}
    (member : l ∈ clauses.flatten) :
    occurrences (assume l.negate clauses) < occurrences clauses := by
  induction clauses with
  | nil => simp at member
  | cons c rest ih =>
      have restNotLarger := occurrences_assume_le l.negate rest
      by_cases inHead : l ∈ c
      · have filled := List.length_pos_of_mem inHead
        by_cases satisfied : l.negate ∈ c
        · rw [assume_cons_of_mem satisfied, occurrences_cons]
          omega
        · have shorter : (c.filter (· != l.negate.negate)).length < c.length :=
            List.length_filter_lt_length_iff_exists.mpr ⟨l, inHead, by simp⟩
          rw [assume_cons_of_not_mem satisfied, occurrences_cons, occurrences_cons]
          omega
      · have restSmaller := ih (by simpa [inHead] using member)
        by_cases satisfied : l.negate ∈ c
        · rw [assume_cons_of_mem satisfied, occurrences_cons]
          omega
        · have shorter := List.length_filter_le (· != l.negate.negate) c
          rw [assume_cons_of_not_mem satisfied, occurrences_cons, occurrences_cons]
          omega

/-- Literals that make every clause true, if there are any. -/
def literals? (clauses : List Clause) : Option (List Literal) :=
  if clauses.any List.isEmpty then none
  else
    match picked : pick? clauses with
    | none => some []
    | some l =>
      have member := mem_of_pick? picked
      have := occurrences_assume_lt member
      have := occurrences_assume_negate_lt member
      match literals? (assume l clauses) with
      | some literals => some (l :: literals)
      | none => (literals? (assume l.negate clauses)).map (l.negate :: ·)
termination_by occurrences clauses

/-- A valuation that makes every clause hold, if there is one. -/
def satisfy? (clauses : List Clause) : Option Valuation :=
  (literals? clauses).map fun literals =>
    .ofTrue (.ofList ((literals.filter Literal.positive).map Literal.index))

end SatBridge.Search.Splitting
