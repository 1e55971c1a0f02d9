import Mathlib
import SatBridge.Pattern.Basic

/-!
# What a pattern describes

A pattern describes stretches of a text, given by the places where they start and end. Main
statement: matching finds exactly the described stretches, although it follows sets of places, stops
where a round adds none, and takes no more rounds than the text has characters.
-/

set_option autoImplicit false

namespace SatBridge.Pattern

def Rounds (step : Nat → Nat → Prop) : Nat → Nat → Nat → Prop
  | 0, i, j => i = j
  | count + 1, i, j => ∃ k, step i k ∧ Rounds step count k j

/-- The pattern describes the stretch from the place `i` up to the place `j`. -/
def Describes (text : Array Char) : Pattern → Nat → Nat → Prop
  | .empty, i, j => i = j
  | .character accepts, i, j => ∃ c, text[i]? = some c ∧ accepts c = true ∧ j = i + 1
  | .anchor holds, i, j =>
    i = j ∧ holds (if i = 0 then none else text[i - 1]?) text[i]? = true
  | .sequence first second, i, j => ∃ k, Describes text first i k ∧ Describes text second k j
  | .either first second, i, j => Describes text first i j ∨ Describes text second i j
  | .repeated body least most, i, j =>
    ∃ count, least ≤ count ∧ (∀ bound, most = some bound → count ≤ max least bound) ∧
      Rounds (Describes text body) count i j

abbrev Ascending (places : List Nat) : Prop :=
  places.Pairwise (· < ·)

section Places

variable {places others : List Nat} {i : Nat}

theorem mem_union : i ∈ union places others ↔ i ∈ places ∨ i ∈ others := by
  fun_induction union places others with
  | case1 others => simp
  | case2 places _ => simp
  | case3 a rest b others _ ih => simp [ih, or_assoc]
  | case4 a rest b others _ _ ih =>
      simp only [List.mem_cons, ih]
      tauto
  | case5 a rest b others notLess notGreater ih =>
      obtain rfl : a = b := by omega
      simp only [List.mem_cons, ih]
      tauto

theorem Ascending.union (ascending : Ascending places) (other : Ascending others) :
    Ascending (union places others) := by
  fun_induction Pattern.union places others with
  | case1 others => exact other
  | case2 places _ => exact ascending
  | case3 a rest b others less ih =>
      obtain ⟨first, later⟩ := List.pairwise_cons.mp ascending
      refine List.pairwise_cons.mpr ⟨fun k member => ?_, ih later other⟩
      rcases mem_union.mp member with here | there
      · exact first k here
      · rcases List.mem_cons.mp there with rfl | behind
        · exact less
        · exact less.trans ((List.pairwise_cons.mp other).1 k behind)
  | case4 a rest b others _ less ih =>
      obtain ⟨first, later⟩ := List.pairwise_cons.mp other
      refine List.pairwise_cons.mpr ⟨fun k member => ?_, ih ascending later⟩
      rcases mem_union.mp member with here | there
      · rcases List.mem_cons.mp here with rfl | behind
        · exact less
        · exact less.trans ((List.pairwise_cons.mp ascending).1 k behind)
      · exact first k there
  | case5 a rest b others notLess notGreater ih =>
      obtain rfl : a = b := by omega
      obtain ⟨first, later⟩ := List.pairwise_cons.mp ascending
      obtain ⟨firstOther, laterOther⟩ := List.pairwise_cons.mp other
      refine List.pairwise_cons.mpr ⟨fun k member => ?_, ih later laterOther⟩
      rcases mem_union.mp member with here | there
      · exact first k here
      · exact firstOther k there

theorem without_sublist (places others : List Nat) : (without places others).Sublist places := by
  fun_induction without places others with
  | case1 others => exact .slnil
  | case2 places _ => exact List.Sublist.refl _
  | case3 a rest b others _ ih => exact ih.cons_cons a
  | case4 a rest b others _ _ ih => exact ih
  | case5 a rest b others _ _ ih => exact ih.cons a

theorem Ascending.not_mem_of_lt {a b : Nat} (ascending : Ascending (b :: others)) (less : a < b) :
    a ∉ b :: others := by
  intro member
  rcases List.mem_cons.mp member with rfl | behind
  · exact Nat.lt_irrefl _ less
  · exact Nat.lt_asymm less ((List.pairwise_cons.mp ascending).1 a behind)

theorem mem_without (ascending : Ascending places) (other : Ascending others) :
    i ∈ without places others ↔ i ∈ places ∧ i ∉ others := by
  fun_induction without places others with
  | case1 others => simp
  | case2 places _ => simp
  | case3 a rest b others less ih =>
      have absent := other.not_mem_of_lt less
      rw [List.mem_cons, ih (List.pairwise_cons.mp ascending).2 other]
      constructor
      · rintro (rfl | ⟨member, missing⟩)
        · exact ⟨List.mem_cons_self, absent⟩
        · exact ⟨List.mem_cons_of_mem a member, missing⟩
      · rintro ⟨member, missing⟩
        rcases List.mem_cons.mp member with rfl | behind
        · exact .inl rfl
        · exact .inr ⟨behind, missing⟩
  | case4 a rest b others _ less ih =>
      have absent := ascending.not_mem_of_lt less
      rw [ih ascending (List.pairwise_cons.mp other).2, List.mem_cons (a := i) (b := b), not_or]
      constructor
      · rintro ⟨member, missing⟩
        exact ⟨member, fun same => absent (same ▸ member), missing⟩
      · rintro ⟨member, _, missing⟩
        exact ⟨member, missing⟩
  | case5 a rest b others notLess notGreater ih =>
      obtain rfl : a = b := by omega
      obtain ⟨first, later⟩ := List.pairwise_cons.mp ascending
      rw [ih later (List.pairwise_cons.mp other).2]
      simp only [List.mem_cons, not_or]
      constructor
      · rintro ⟨member, missing⟩
        exact ⟨.inr member, (first i member).ne', missing⟩
      · rintro ⟨rfl | member, different, missing⟩
        · exact absurd rfl different
        · exact ⟨member, missing⟩

end Places

section Steps

variable {length : Nat} {next : List Nat → List Nat} {step : Nat → Nat → Prop}
  {places fresh reached : List Nat} {j : Nat}

theorem rounds_add {first second i : Nat} :
    Rounds step (first + second) i j ↔ ∃ k, Rounds step first i k ∧ Rounds step second k j := by
  induction first generalizing i with
  | zero => simp [Rounds]
  | succ first ih =>
      rw [Nat.succ_add]
      simp only [Rounds, ih]
      constructor
      · rintro ⟨k, taken, middle, before, behind⟩
        exact ⟨middle, ⟨k, taken, before⟩, behind⟩
      · rintro ⟨middle, ⟨k, taken, before⟩, behind⟩
        exact ⟨k, taken, middle, before, behind⟩

theorem le_of_rounds (forward : ∀ i j, step i j → i ≤ j) {count i : Nat}
    (rounds : Rounds step count i j) : i ≤ j := by
  induction count generalizing i with
  | zero => exact Nat.le_of_eq rounds
  | succ count ih =>
      obtain ⟨k, taken, rounds⟩ := rounds
      exact (forward i k taken).trans (ih rounds)

theorem mem_iff_rounds_of_fixed (fixed : ∀ j, j ∈ places ↔ ∃ i ∈ places, step i j) (count : Nat) :
    j ∈ places ↔ ∃ i ∈ places, Rounds step count i j := by
  induction count with
  | zero => simp [Rounds]
  | succ count ih =>
      rw [ih]
      constructor
      · rintro ⟨k, member, rounds⟩
        obtain ⟨i, start, taken⟩ := (fixed k).mp member
        exact ⟨i, start, k, taken, rounds⟩
      · rintro ⟨i, start, k, taken, rounds⟩
        exact ⟨k, (fixed k).mpr ⟨i, start, taken⟩, rounds⟩

theorem mem_of_rounds_of_closed (closed : ∀ i ∈ places, ∀ j, step i j → j ∈ places)
    {count i : Nat} (member : i ∈ places) (rounds : Rounds step count i j) : j ∈ places := by
  induction count generalizing i with
  | zero => exact rounds ▸ member
  | succ count ih =>
      obtain ⟨k, taken, rounds⟩ := rounds
      exact ih (closed i member k taken) rounds

structure Placed (length : Nat) (places : List Nat) : Prop where
  ascending : Ascending places
  inside : ∀ i ∈ places, i ≤ length

theorem Placed.nodup (placed : Placed length places) : places.Nodup :=
  placed.ascending.imp Nat.ne_of_lt

theorem Placed.union (placed : Placed length places) (other : Placed length reached) :
    Placed length (union places reached) where
  ascending := placed.ascending.union other.ascending
  inside i member := (mem_union.mp member).elim (placed.inside i) (other.inside i)

theorem Placed.sublist (placed : Placed length places) (sublist : reached.Sublist places) :
    Placed length reached where
  ascending := placed.ascending.sublist sublist
  inside i member := placed.inside i (sublist.subset member)

theorem placed_singleton {i : Nat} (inside : i ≤ length) : Placed length [i] where
  ascending := List.pairwise_singleton _ i
  inside := List.forall_mem_singleton.mpr inside

/-- A text has one place more than characters. -/
theorem Placed.mem_of_full (placed : Placed length places) (full : length + 1 ≤ places.length)
    (inside : j ≤ length) : j ∈ places := by
  have counted : (Finset.range (length + 1)).card ≤ places.toFinset.card := by
    rwa [Finset.card_range, List.toFinset_card_of_nodup placed.nodup]
  have bounded : places.toFinset ⊆ Finset.range (length + 1) := by
    intro i member
    exact Finset.mem_range.mpr (Nat.lt_succ_of_le (placed.inside i (List.mem_toFinset.mp member)))
  rw [← List.mem_toFinset, Finset.eq_of_subset_of_card_le bounded counted]
  exact Finset.mem_range.mpr (Nat.lt_succ_of_le inside)

theorem Placed.length_lt (placed : Placed length places) (larger : Placed length reached)
    (subset : places ⊆ reached) (new : j ∈ reached) (absent : j ∉ places) :
    places.length < reached.length := by
  have inside : places.toFinset ⊆ reached.toFinset := by
    intro i member
    exact List.mem_toFinset.mpr (subset (List.mem_toFinset.mp member))
  rw [← List.toFinset_card_of_nodup placed.nodup, ← List.toFinset_card_of_nodup larger.nodup]
  refine Finset.card_lt_card ((Finset.ssubset_iff_of_subset inside).mpr ⟨j, ?_, ?_⟩)
  · exact List.mem_toFinset.mpr new
  · exact fun member => absent (List.mem_toFinset.mp member)

/-- The function takes every step from every place of a set. -/
structure Follows (length : Nat) (step : Nat → Nat → Prop) (next : List Nat → List Nat) : Prop where
  placed : ∀ {places}, Placed length places → Placed length (next places)
  mem : ∀ {places}, Placed length places → ∀ j, j ∈ next places ↔ ∃ i ∈ places, step i j

/-- The places whose steps have not been taken yet are the fresh ones. -/
structure Pending (length : Nat) (step : Nat → Nat → Prop) (fresh reached : List Nat) : Prop where
  start : Placed length fresh
  known : Placed length reached
  subset : fresh ⊆ reached
  settled : ∀ i ∈ reached, i ∉ fresh → ∀ j, step i j → j ∈ reached

theorem Placed.pending (placed : Placed length places) : Pending length step places places :=
  ⟨placed, placed, List.Subset.refl _, fun _ member new => absurd member new⟩

variable (follows : Follows length step next)

include follows

theorem placed_stepExactly (placed : Placed length places) (count : Nat) :
    Placed length (stepExactly next count places) := by
  induction count generalizing places with
  | zero => exact placed
  | succ count ih =>
      simp only [stepExactly]
      split
      · exact placed
      · exact ih (follows.placed placed)

theorem mem_stepExactly (placed : Placed length places) (count : Nat) :
    j ∈ stepExactly next count places ↔ ∃ i ∈ places, Rounds step count i j := by
  induction count generalizing places with
  | zero => simp [stepExactly, Rounds]
  | succ count ih =>
      simp only [stepExactly]
      split
      · rename_i same
        have fixed (j : Nat) : j ∈ places ↔ ∃ i ∈ places, step i j := by
          rw [← follows.mem placed, same]
        exact mem_iff_rounds_of_fixed fixed (count + 1)
      · rw [ih (follows.placed placed)]
        constructor
        · rintro ⟨k, member, rounds⟩
          obtain ⟨i, start, taken⟩ := (follows.mem placed k).mp member
          exact ⟨i, start, k, taken, rounds⟩
        · rintro ⟨i, start, k, taken, rounds⟩
          exact ⟨k, (follows.mem placed k).mpr ⟨i, start, taken⟩, rounds⟩

theorem Pending.mem_of_step (pending : Pending length step fresh reached) {i : Nat}
    (member : i ∈ reached) (taken : step i j) :
    j ∈ Pattern.union reached (without (next fresh) reached) := by
  have stepped := follows.placed pending.start
  rw [mem_union, mem_without stepped.ascending pending.known.ascending, follows.mem pending.start]
  by_cases known : j ∈ reached
  · exact .inl known
  · have inFresh : i ∈ fresh := by
      by_contra old
      exact known (pending.settled i member old j taken)
    exact .inr ⟨⟨i, inFresh, taken⟩, known⟩

/-- A round leaves the places pending that it adds. -/
theorem Pending.round (pending : Pending length step fresh reached) :
    Pending length step (without (next fresh) reached)
      (Pattern.union reached (without (next fresh) reached)) := by
  have added := (follows.placed pending.start).sublist (without_sublist (next fresh) reached)
  refine ⟨added, pending.known.union added, fun i member => mem_union.mpr (.inr member),
    fun i member old j taken => ?_⟩
  have before : i ∈ reached := (mem_union.mp member).resolve_right old
  exact pending.mem_of_step follows before taken

/-- Where a round adds no place, no step leads to another one. -/
theorem Pending.closed (pending : Pending length step fresh reached)
    (finished : without (next fresh) reached = []) :
    ∀ i ∈ reached, ∀ j, step i j → j ∈ reached := by
  intro i member j taken
  have found := pending.mem_of_step follows member taken
  rw [finished] at found
  exact (mem_union.mp found).resolve_right List.not_mem_nil

theorem placed_stepUpTo (pending : Pending length step fresh reached) (count : Nat) :
    Placed length (stepUpTo next count fresh reached) := by
  induction count generalizing fresh reached with
  | zero => exact pending.known
  | succ count ih =>
      simp only [stepUpTo]
      split
      · exact pending.known
      · exact ih (pending.round follows)

/-- Each round takes one more step from the places that were there at the start. -/
theorem mem_stepUpTo (pending : Pending length step fresh reached) (count : Nat) :
    j ∈ stepUpTo next count fresh reached ↔
      ∃ i ∈ reached, ∃ taken ≤ count, Rounds step taken i j := by
  induction count generalizing fresh reached with
  | zero => simp [stepUpTo, Rounds]
  | succ count ih =>
      simp only [stepUpTo]
      split
      · rename_i finished
        constructor
        · intro member
          exact ⟨j, member, 0, Nat.zero_le _, rfl⟩
        · rintro ⟨i, member, taken, _, rounds⟩
          exact mem_of_rounds_of_closed (pending.closed follows finished) member rounds
      · rw [ih (pending.round follows)]
        constructor
        · rintro ⟨k, member, taken, bounded, rounds⟩
          rcases mem_union.mp member with old | added
          · exact ⟨k, old, taken, Nat.le_succ_of_le bounded, rounds⟩
          · have stepped := (without_sublist (next fresh) reached).subset added
            obtain ⟨i, start, first⟩ := (follows.mem pending.start k).mp stepped
            exact ⟨i, pending.subset start, taken + 1, Nat.succ_le_succ bounded, k, first, rounds⟩
        · rintro ⟨i, member, taken, bounded, rounds⟩
          cases taken with
          | zero => exact ⟨i, mem_union.mpr (.inl member), 0, Nat.zero_le _, rounds⟩
          | succ taken =>
              obtain ⟨k, first, rounds⟩ := rounds
              exact ⟨k, pending.mem_of_step follows member first, taken,
                Nat.le_of_succ_le_succ bounded, rounds⟩

/-- With a round for each place that is missing, no step leads out of the places reached: a round
that adds no place is the last one, and any other leaves fewer places missing. -/
theorem closed_stepUpTo (pending : Pending length step fresh reached) {count : Nat}
    (enough : length + 1 ≤ reached.length + count) :
    ∀ i ∈ stepUpTo next count fresh reached, ∀ j, step i j →
      j ∈ stepUpTo next count fresh reached := by
  induction count generalizing fresh reached with
  | zero =>
      intro i member j taken
      have single := placed_singleton (pending.known.inside i member)
      have stepped : j ∈ next [i] := (follows.mem single j).mpr ⟨i, List.mem_cons_self, taken⟩
      exact pending.known.mem_of_full enough ((follows.placed single).inside j stepped)
  | succ count ih =>
      simp only [stepUpTo]
      split
      · rename_i finished
        exact pending.closed follows finished
      · rename_i added
        obtain ⟨j, new⟩ := List.exists_mem_of_ne_nil _ added
        have stepped := follows.placed pending.start
        have after := pending.round follows
        have absent := ((mem_without stepped.ascending pending.known.ascending).mp new).2
        have grown := pending.known.length_lt after.known
          (fun i member => mem_union.mpr (.inl member)) (mem_union.mpr (.inr new)) absent
        exact ih after (by omega)

/-- As many rounds as the text has characters are as good as any number. -/
theorem mem_stepUpTo_length (placed : Placed length places) :
    j ∈ stepUpTo next length places places ↔ ∃ i ∈ places, ∃ taken, Rounds step taken i j := by
  have pending : Pending length step places places := placed.pending
  rw [mem_stepUpTo follows pending]
  constructor
  · rintro ⟨i, member, taken, _, rounds⟩
    exact ⟨i, member, taken, rounds⟩
  · rintro ⟨i, member, taken, rounds⟩
    have enough : length + 1 ≤ places.length + length := by
      have filled := List.length_pos_of_mem member
      omega
    have start : i ∈ stepUpTo next length places places :=
      (mem_stepUpTo follows pending length).mpr ⟨i, member, 0, Nat.zero_le _, rfl⟩
    exact (mem_stepUpTo follows pending length).mp
      (mem_of_rounds_of_closed (closed_stepUpTo follows pending enough) start rounds)

end Steps

section Patterns

variable {text : Array Char}

theorem ends_character (accepts : Char → Bool) (places : List Nat) :
    ends text (.character accepts) places =
      places.filterMap fun i =>
        text[i]?.bind fun c => if accepts c then some (i + 1) else none := by
  refine List.filterMap_congr fun i _ => ?_
  cases text[i]? <;> rfl

/-- A step over one character takes each place to at most one, the next. -/
theorem follows_character (accepts : Char → Bool) :
    Follows text.size (Describes text (.character accepts)) (ends text (.character accepts)) := by
  have stepped (i j : Nat) : (text[i]?.bind fun c => if accepts c then some (i + 1) else none) =
      some j ↔ Describes text (.character accepts) i j := by
    rw [Describes]
    cases text[i]? with
    | none => simp
    | some c =>
        by_cases accepted : accepts c = true
        · simp [accepted, eq_comm (a := j)]
        · simp [accepted]
  refine ⟨fun placed => ⟨?_, fun j member => ?_⟩, fun placed j => ?_⟩
  · rw [ends_character]
    refine List.pairwise_filterMap.mpr (placed.ascending.imp fun {i k} less b first d second => ?_)
    obtain ⟨_, _, _, rfl⟩ := (stepped i b).mp first
    obtain ⟨_, _, _, rfl⟩ := (stepped k d).mp second
    exact Nat.succ_lt_succ less
  · rw [ends_character] at member
    obtain ⟨i, _, taken⟩ := List.mem_filterMap.mp member
    obtain ⟨c, found, _, rfl⟩ := (stepped i j).mp taken
    exact Nat.succ_le_of_lt (Array.getElem?_eq_some_iff.mp found).1
  · rw [ends_character, List.mem_filterMap]
    exact exists_congr fun i => and_congr_right fun _ => stepped i j

theorem follows_anchor (holds : Option Char → Option Char → Bool) :
    Follows text.size (Describes text (.anchor holds)) (ends text (.anchor holds)) := by
  refine ⟨fun placed => placed.sublist List.filter_sublist, fun placed j => ?_⟩
  simp only [ends, Describes, List.mem_filter]
  constructor
  · rintro ⟨member, told⟩
    exact ⟨j, member, rfl, told⟩
  · rintro ⟨i, member, rfl, told⟩
    exact ⟨member, told⟩

theorem follows_repeated {body : Pattern} (follows : Follows text.size (Describes text body)
      (ends text body)) (least : Nat) (most : Option Nat) :
    Follows text.size (Describes text (.repeated body least most))
      (ends text (.repeated body least most)) where
  placed placed := placed_stepUpTo follows (placed_stepExactly follows placed least).pending _
  mem {places} placed j := by
    have start := placed_stepExactly follows placed least
    cases most with
    | none =>
        simp only [ends, Option.elim_none, Describes]
        rw [mem_stepUpTo_length follows start]
        simp only [mem_stepExactly follows placed]
        constructor
        · rintro ⟨k, ⟨i, member, before⟩, taken, behind⟩
          exact ⟨i, member, least + taken, Nat.le_add_right .., by simp,
            rounds_add.mpr ⟨k, before, behind⟩⟩
        · rintro ⟨i, member, count, enough, _, rounds⟩
          obtain ⟨taken, rfl⟩ := Nat.exists_eq_add_of_le enough
          obtain ⟨k, before, behind⟩ := rounds_add.mp rounds
          exact ⟨k, ⟨i, member, before⟩, taken, behind⟩
    | some bound =>
        simp only [ends, Option.elim_some, Describes, Option.some.injEq, forall_eq']
        rw [mem_stepUpTo follows start.pending]
        simp only [mem_stepExactly follows placed]
        constructor
        · rintro ⟨k, ⟨i, member, before⟩, taken, bounded, behind⟩
          exact ⟨i, member, least + taken, Nat.le_add_right .., by omega,
            rounds_add.mpr ⟨k, before, behind⟩⟩
        · rintro ⟨i, member, count, enough, bounded, rounds⟩
          obtain ⟨taken, rfl⟩ := Nat.exists_eq_add_of_le enough
          obtain ⟨k, before, behind⟩ := rounds_add.mp rounds
          exact ⟨k, ⟨i, member, before⟩, taken, by omega, behind⟩

/-- Matching goes from the starts of the described stretches to their ends. -/
theorem follows_ends (text : Array Char) (p : Pattern) :
    Follows text.size (Describes text p) (ends text p) := by
  induction p with
  | empty => exact ⟨id, fun _ j => by simp [ends, Describes]⟩
  | character accepts => exact follows_character accepts
  | anchor holds => exact follows_anchor holds
  | sequence first second firstIH secondIH =>
      refine ⟨fun placed => secondIH.placed (firstIH.placed placed), fun placed j => ?_⟩
      simp only [ends, Describes, secondIH.mem (firstIH.placed placed), firstIH.mem placed]
      constructor
      · rintro ⟨k, ⟨i, member, before⟩, behind⟩
        exact ⟨i, member, k, before, behind⟩
      · rintro ⟨i, member, k, before, behind⟩
        exact ⟨k, ⟨i, member, before⟩, behind⟩
  | either first second firstIH secondIH =>
      refine ⟨fun placed => (firstIH.placed placed).union (secondIH.placed placed),
        fun placed j => ?_⟩
      simp only [ends, Describes, mem_union, firstIH.mem placed, secondIH.mem placed]
      constructor
      · rintro (⟨i, member, described⟩ | ⟨i, member, described⟩)
        · exact ⟨i, member, .inl described⟩
        · exact ⟨i, member, .inr described⟩
      · rintro ⟨i, member, described | described⟩
        · exact .inl ⟨i, member, described⟩
        · exact .inr ⟨i, member, described⟩
  | repeated body least most ih => exact follows_repeated ih least most

/-- Matching from some places finds the ends of the stretches that start there. -/
theorem mem_ends_iff {p : Pattern} {places : List Nat} (placed : Placed text.size places)
    (j : Nat) : j ∈ ends text p places ↔ ∃ i ∈ places, Describes text p i j :=
  (follows_ends text p).mem placed j

theorem placed_range (length : Nat) : Placed length (List.range (length + 1)) where
  ascending := List.pairwise_lt_range
  inside _ member := Nat.le_of_lt_succ (List.mem_range.mp member)

/-- A text contains a pattern exactly if the pattern describes one of its stretches. -/
theorem isIn_iff {p : Pattern} {text : String} :
    p.isIn text = true ↔
      ∃ i j, i ≤ text.toList.length ∧ Describes text.toList.toArray p i j := by
  have found := mem_ends_iff (p := p) (placed_range text.toList.toArray.size)
  simp only [List.mem_range, List.size_toArray, Nat.lt_succ_iff] at found
  simp only [isIn, Bool.not_eq_true', List.isEmpty_eq_false_iff_exists_mem, List.size_toArray,
    found]
  exact exists_comm

theorem Describes.inside {p : Pattern} {i j : Nat} (described : Describes text p i j)
    (start : i ≤ text.size) : j ≤ text.size := by
  have placed := placed_singleton start
  have found := (mem_ends_iff placed j).mpr ⟨i, List.mem_cons_self, described⟩
  exact ((follows_ends text p).placed placed).inside j found

/-- A described stretch does not end before it starts. -/
theorem Describes.le {p : Pattern} {i j : Nat} (described : Describes text p i j) : i ≤ j := by
  induction p generalizing i j with
  | empty => exact Nat.le_of_eq described
  | character accepts =>
      obtain ⟨_, _, _, rfl⟩ := described
      exact Nat.le_succ i
  | anchor holds => exact Nat.le_of_eq described.1
  | sequence first second firstIH secondIH =>
      obtain ⟨k, before, behind⟩ := described
      exact (firstIH before).trans (secondIH behind)
  | either first second firstIH secondIH => exact described.elim firstIH secondIH
  | repeated body least most ih =>
      obtain ⟨count, _, _, rounds⟩ := described
      exact le_of_rounds (fun i j => ih) rounds

end Patterns

end SatBridge.Pattern
