import SatBridge.Search.Splitting

/-!
# Splitting finds a valuation if there is one

Clauses hold under a valuation that makes a literal true exactly when what is left after assuming
the literal holds. Both directions of the search follow from this one equivalence: what it finds is
a valuation of the clauses, and clauses with a valuation are never given up.
-/

set_option autoImplicit false

namespace SatBridge

theorem Literal.eq_or_eq_negate {l m : Literal} (sameVar : m.index = l.index) :
    m = l ∨ m = l.negate := by
  obtain ⟨var, positive⟩ := l
  obtain ⟨otherVar, otherPositive⟩ := m
  obtain rfl : otherVar = var := UInt32.toNat_inj.mp sameVar
  cases positive <;> cases otherPositive <;> simp [Literal.negate]

namespace Search.Splitting

theorem mem_assume_iff {l : Literal} {clauses : List Clause} {c : Clause} :
    c ∈ assume l clauses ↔ ∃ d ∈ clauses, l ∉ d ∧ d.filter (· != l.negate) = c := by
  simp [assume, List.mem_filterMap]

theorem holds_filter {v : Valuation} {l : Literal} (isTrue : l.holds v = true) (c : Clause) :
    Clause.holds v (c.filter (· != l.negate)) = Clause.holds v c := by
  have isFalse : l.negate.holds v = false := by simp [isTrue]
  rw [Bool.eq_iff_iff, Clause.holds, Clause.holds, List.any_eq_true, List.any_eq_true]
  constructor
  · intro kept
    obtain ⟨m, member, holds⟩ := kept
    exact ⟨m, (List.mem_filter.mp member).1, holds⟩
  · intro given
    obtain ⟨m, member, holds⟩ := given
    refine ⟨m, List.mem_filter.mpr ⟨member, ?_⟩, holds⟩
    rw [bne_iff_ne]
    rintro rfl
    exact absurd holds (by simp [isFalse])

/-- Assuming a literal changes nothing for a valuation that makes it true. -/
theorem satisfies_assume_iff {v : Valuation} {l : Literal} (isTrue : l.holds v = true)
    {clauses : List Clause} : Satisfies v (assume l clauses) ↔ Satisfies v clauses := by
  constructor
  · intro holds c member
    by_cases inClause : l ∈ c
    · exact List.any_eq_true.mpr ⟨l, inClause, isTrue⟩
    · rw [← holds_filter isTrue c]
      exact holds _ (mem_assume_iff.mpr ⟨c, member, inClause, rfl⟩)
  · intro holds c member
    obtain ⟨d, inClauses, _, rfl⟩ := mem_assume_iff.mp member
    rw [holds_filter isTrue d]
    exact holds d inClauses

theorem index_ne_of_mem_assume {l m : Literal} {clauses : List Clause} {c : Clause}
    (member : c ∈ assume l clauses) (inClause : m ∈ c) : m.index ≠ l.index := by
  obtain ⟨d, _, absent, rfl⟩ := mem_assume_iff.mp member
  obtain ⟨inside, kept⟩ := List.mem_filter.mp inClause
  intro sameVar
  rcases Literal.eq_or_eq_negate sameVar with rfl | rfl
  · exact absent inside
  · simp at kept

theorem mem_flatten_of_assume {l m : Literal} {clauses : List Clause}
    (member : m ∈ (assume l clauses).flatten) : m ∈ clauses.flatten ∧ m.index ≠ l.index := by
  obtain ⟨c, inAssumed, inClause⟩ := List.mem_flatten.mp member
  have different := index_ne_of_mem_assume inAssumed inClause
  obtain ⟨d, inClauses, _, rfl⟩ := mem_assume_iff.mp inAssumed
  exact ⟨List.mem_flatten.mpr ⟨d, inClauses, (List.mem_filter.mp inClause).1⟩, different⟩

theorem eq_nil_of_pick? {clauses : List Clause} (nonempty : clauses.any List.isEmpty = false)
    (none : pick? clauses = none) : clauses = [] := by
  cases clauses with
  | nil => rfl
  | cons c rest =>
      cases c with
      | nil => simp at nonempty
      | cons l others =>
          unfold pick? at none
          split at none
          · cases none
          · cases none

/-- What the search finds: literals that no valuation can make true without making the clauses
hold, at most one for each variable. -/
structure Settles (clauses : List Clause) (literals : List Literal) : Prop where
  satisfies : ∀ v : Valuation, (∀ l ∈ literals, l.holds v = true) → Satisfies v clauses
  known : ∀ l ∈ literals, ∃ m ∈ clauses.flatten, m.index = l.index
  consistent : ∀ l ∈ literals, ∀ m ∈ literals, l.index = m.index → l = m

theorem Settles.cons {l : Literal} {clauses : List Clause} {literals : List Literal}
    (settles : Settles (assume l clauses) literals)
    (occurs : ∃ m ∈ clauses.flatten, m.index = l.index) : Settles clauses (l :: literals) := by
  have others : ∀ m ∈ literals, m.index ≠ l.index := by
    intro m member
    obtain ⟨k, occursLater, sameVar⟩ := settles.known m member
    rw [← sameVar]
    exact (mem_flatten_of_assume occursLater).2
  refine ⟨fun v holds => ?_, fun m member => ?_, fun m inFirst k inSecond sameVar => ?_⟩
  · have isTrue := holds l List.mem_cons_self
    have later := settles.satisfies v fun m member => holds m (List.mem_cons_of_mem _ member)
    exact (satisfies_assume_iff isTrue).mp later
  · rcases List.mem_cons.mp member with rfl | later
    · exact occurs
    · obtain ⟨k, occursLater, sameVar⟩ := settles.known m later
      exact ⟨k, (mem_flatten_of_assume occursLater).1, sameVar⟩
  · rcases List.mem_cons.mp inFirst with rfl | first <;>
      rcases List.mem_cons.mp inSecond with rfl | second
    · rfl
    · exact absurd sameVar.symm (others k second)
    · exact absurd sameVar (others m first)
    · exact settles.consistent m first k second sameVar

theorem settles_of_literals? {clauses : List Clause} {literals : List Literal}
    (found : literals? clauses = some literals) : Settles clauses literals := by
  fun_induction literals? clauses generalizing literals with
  | case1 clauses empty => cases found
  | case2 clauses nonempty none =>
      cases found
      have nil := eq_nil_of_pick? (Bool.not_eq_true _ ▸ nonempty) none
      subst nil
      exact ⟨fun _ _ c member => (List.not_mem_nil member).elim, by simp, by simp⟩
  | case3 clauses nonempty l picked member _ _ rest foundRest ih =>
      cases found
      exact (ih foundRest).cons ⟨l, mem_of_pick? picked, rfl⟩
  | case4 clauses nonempty l picked member _ _ refuted ih ihNegated =>
      obtain ⟨rest, foundRest, rfl⟩ := Option.map_eq_some_iff.mp found
      exact (ihNegated foundRest).cons ⟨l, mem_of_pick? picked, (l.index_negate).symm⟩

/-- A literal is true or its opposite is, so one of the branches of a split keeps a valuation. -/
theorem literals?_ne_none {clauses : List Clause} {v : Valuation}
    (satisfies : Satisfies v clauses) : literals? clauses ≠ none := by
  fun_induction literals? clauses with
  | case1 clauses empty =>
      obtain ⟨c, member, isEmpty⟩ := List.any_eq_true.mp empty
      have holds := satisfies c member
      rw [List.isEmpty_iff.mp isEmpty] at holds
      cases holds
  | case2 => simp
  | case3 => simp
  | case4 clauses nonempty l picked member _ _ refuted ih ihNegated =>
      cases isTrue : l.holds v with
      | true => exact absurd refuted (ih ((satisfies_assume_iff isTrue).mpr satisfies))
      | false =>
          have negated : l.negate.holds v = true := by simp [isTrue]
          simpa using ihNegated ((satisfies_assume_iff negated).mpr satisfies)

theorem holds_ofTrue {literals : List Literal}
    (consistent : ∀ l ∈ literals, ∀ m ∈ literals, l.index = m.index → l = m) {l : Literal}
    (member : l ∈ literals) :
    l.holds (.ofTrue (.ofList ((literals.filter Literal.positive).map Literal.index))) = true := by
  simp only [Literal.holds, Valuation.ofTrue, Std.HashSet.contains_ofList, beq_iff_eq]
  cases sign : l.positive with
  | true =>
      simp only [List.contains_iff_mem, List.mem_map]
      exact ⟨l, List.mem_filter.mpr ⟨member, sign⟩, rfl⟩
  | false =>
      refine Bool.eq_false_iff.mpr fun listed => ?_
      simp only [List.contains_iff_mem, List.mem_map] at listed
      obtain ⟨m, positives, sameVar⟩ := listed
      obtain ⟨other, positive⟩ := List.mem_filter.mp positives
      rw [consistent m other l member sameVar, sign] at positive
      cases positive

/-- The search is right when it finds a valuation, and it finds one whenever there is one. -/
theorem satisfy?_eq_some {clauses : List Clause} {v : Valuation}
    (found : satisfy? clauses = some v) : Satisfies v clauses := by
  obtain ⟨literals, foundLiterals, rfl⟩ := Option.map_eq_some_iff.mp found
  have settles := settles_of_literals? foundLiterals
  exact settles.satisfies _ fun l member => holds_ofTrue settles.consistent member

theorem satisfy?_ne_none {clauses : List Clause} (satisfiable : Satisfiable clauses) :
    satisfy? clauses ≠ none := by
  obtain ⟨v, satisfies⟩ := satisfiable
  rw [satisfy?, ne_eq, Option.map_eq_none_iff]
  exact literals?_ne_none satisfies

end Search.Splitting

end SatBridge
