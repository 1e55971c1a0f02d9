import Mathlib
import SatBridge.Log.Filter
import SatBridge.Proofs.Pattern.Matching

/-!
# What a log filter lets pass

Of the directives with one name the last one stays, and of those that fit a target the longest one
decides. Main statement: an event passes exactly if the deciding directive admits its level and the
pattern describes a stretch of its message.
-/

set_option autoImplicit false

namespace SatBridge.LogFilter

/-- The directive is the last of the longest ones that fit the target. -/
def Decides (directives : List Directive) (target : List Char) (d : Directive) : Prop :=
  d.fits target = true ∧ ∃ before behind, directives = before ++ d :: behind ∧
    (∀ other ∈ before, other.fits target = true → other.weight ≤ d.weight) ∧
    ∀ other ∈ behind, other.fits target = true → other.weight < d.weight

/-- The directive is the last one with its name. -/
def Stands (directives : List Directive) (d : Directive) : Prop :=
  ∃ before behind, directives = before ++ d :: behind ∧ ∀ other ∈ behind, other.name ≠ d.name

section Deciding

variable {directives : List Directive} {target : List Char} {d last : Directive}

theorem Decides.mem (decides : Decides directives target d) : d ∈ directives := by
  obtain ⟨_, before, behind, rfl, _⟩ := decides
  exact List.mem_append_right before List.mem_cons_self

theorem Decides.bound {other : Directive} (decides : Decides directives target d)
    (member : other ∈ directives) (fits : other.fits target = true) : other.weight ≤ d.weight := by
  obtain ⟨_, before, behind, rfl, less, greater⟩ := decides
  rcases List.mem_append.mp member with member | member
  · exact less other member fits
  · rcases List.mem_cons.mp member with rfl | member
    · exact Nat.le_refl _
    · exact (greater other member fits).le

theorem Decides.unique {other : Directive} (decides : Decides directives target d)
    (also : Decides directives target other) : d = other := by
  obtain ⟨fits, before, behind, whole, less, greater⟩ := decides
  obtain ⟨alsoFits, before', behind', whole', less', greater'⟩ := also
  rcases List.append_eq_append_iff.mp (whole.symm.trans whole') with
    ⟨between, rfl, split⟩ | ⟨between, rfl, split⟩
  · cases between with
    | nil => exact (List.cons.inj split).1
    | cons first between =>
        obtain ⟨rfl, rfl⟩ := List.cons.inj split
        have shorter := greater other (by simp) alsoFits
        have longer := less' d (by simp) fits
        omega
  · cases between with
    | nil => exact (List.cons.inj split).1.symm
    | cons first between =>
        obtain ⟨rfl, rfl⟩ := List.cons.inj split
        have shorter := greater' d (by simp) fits
        have longer := less other (by simp) alsoFits
        omega

theorem Decides.concat (decides : Decides directives target d)
    (shorter : last.fits target = true → last.weight < d.weight) :
    Decides (directives ++ [last]) target d := by
  obtain ⟨fits, before, behind, rfl, less, greater⟩ := decides
  refine ⟨fits, before, behind ++ [last], by simp, less, ?_⟩
  intro other member
  rcases List.mem_append.mp member with member | member
  · exact greater other member
  · rw [List.mem_singleton.mp member]
    exact shorter

theorem decides_last (fits : last.fits target = true)
    (longest : ∀ other ∈ directives, other.fits target = true → other.weight ≤ last.weight) :
    Decides (directives ++ [last]) target last :=
  ⟨fits, directives, [], rfl, longest, fun _ member => by cases member⟩

/-- The search finds a directive if any fits, and then the deciding one. -/
theorem directive?_spec (directives : List Directive) (pattern : Option Pattern)
    (target : List Char) :
    match directive? ⟨directives, pattern⟩ target with
    | some d => Decides directives target d
    | none => ∀ d ∈ directives, d.fits target = false := by
  induction directives using List.reverseRecOn with
  | nil => exact fun _ member => by cases member
  | append_singleton directives last ih =>
      have found : directive? ⟨directives ++ [last], pattern⟩ target =
          if last.fits target then
            match directive? ⟨directives, pattern⟩ target with
            | some other =>
              if other.weight ≤ last.weight then some last
              else directive? ⟨directives, pattern⟩ target
            | none => some last
          else directive? ⟨directives, pattern⟩ target :=
        List.foldl_concat _ _ _ _
      rw [found]
      cases former : directive? ⟨directives, pattern⟩ target with
      | none =>
          rw [former] at ih
          split_ifs with fits
          · exact decides_last fits fun other member otherFits => by
              rw [ih other member] at otherFits
              cases otherFits
          · intro d member
            rcases List.mem_append.mp member with member | member
            · exact ih d member
            · rw [List.mem_singleton.mp member]
              exact Bool.eq_false_iff.mpr fits
      | some best =>
          rw [former] at ih
          simp only
          split_ifs with fits shorter
          · exact decides_last fits fun other member otherFits =>
              (ih.bound member otherFits).trans shorter
          · exact ih.concat fun _ => Nat.lt_of_not_le shorter
          · exact ih.concat fun lastFits => absurd lastFits fits

theorem directive?_eq_some_iff {filter : LogFilter} :
    filter.directive? target = some d ↔ Decides filter.directives target d := by
  have spec := directive?_spec filter.directives filter.pattern target
  constructor
  · intro found
    rwa [found] at spec
  · intro decides
    split at spec
    · rename_i other found
      rw [found, spec.unique decides]
    · exact absurd ((spec d decides.mem).symm.trans decides.1) Bool.false_ne_true

theorem directive?_eq_none_iff {filter : LogFilter} :
    filter.directive? target = none ↔ ∀ d ∈ filter.directives, d.fits target = false := by
  have spec := directive?_spec filter.directives filter.pattern target
  constructor
  · intro found
    rwa [found] at spec
  · intro misfits
    by_contra found
    obtain ⟨d, found⟩ := Option.ne_none_iff_exists'.mp found
    have decides := directive?_eq_some_iff.mp found
    exact absurd ((misfits d decides.mem).symm.trans decides.1) Bool.false_ne_true

/-- An event passes if the directive that decides on its target admits its level, and if a stretch
of its message is described by the pattern. -/
theorem passes_iff {filter : LogFilter} {elapsed : Duration} {event : LogEvent} :
    filter.passes elapsed event = true ↔
      ∃ d, Decides filter.directives event.target.toList d ∧ event.level.rank ≤ d.rank ∧
        ∀ p, filter.pattern = some p → ∃ i j, i ≤ (event.message elapsed).toList.length ∧
          p.Describes (event.message elapsed).toList.toArray i j := by
  simp only [← directive?_eq_some_iff, ← Pattern.isIn_iff]
  unfold passes
  cases filter.directive? event.target.toList with
  | none => simp
  | some d => simp [Option.all_eq_true]

/-- Each step of verbosity admits one level more, up to the most detailed one. -/
theorem passes_ofVerbosity_iff {verbosity : Nat} {elapsed : Duration} {event : LogEvent} :
    (ofVerbosity verbosity).passes elapsed event = true ↔
      event.level.rank ≤ min verbosity 3 + 2 := by
  have level : ofVerbosity verbosity = ⟨[⟨none, min verbosity 3 + 2⟩], none⟩ := by
    match verbosity with
    | 0 | 1 | 2 => rfl
    | more + 3 =>
        rw [Nat.min_eq_right (Nat.le_add_left ..)]
        rfl
  rw [level]
  simp [passes, directive?, Directive.fits]

end Deciding

section Inserting

variable {directives : List Directive} {d e : Directive}

theorem mem_insert_iff :
    e ∈ insert directives d ↔ e = d ∨ e ∈ directives ∧ e.name ≠ d.name := by
  unfold insert
  split
  · rename_i present
    obtain ⟨same, member, equal⟩ := List.any_eq_true.mp present
    grind
  · rename_i absent
    simp at absent
    grind

theorem stands_concat_iff :
    Stands (directives ++ [d]) e ↔ e = d ∨ Stands directives e ∧ e.name ≠ d.name := by
  constructor
  · rintro ⟨before, behind, whole, last⟩
    rcases List.eq_nil_or_concat behind with rfl | ⟨behind, other, rfl⟩
    · obtain ⟨rfl, same⟩ := List.append_inj' whole rfl
      cases same
      exact .inl rfl
    · rw [List.concat_eq_append, ← List.cons_append, ← List.append_assoc] at whole
      obtain ⟨rfl, same⟩ := List.append_inj' whole rfl
      cases same
      refine .inr ⟨⟨before, behind, rfl, fun other member => last other (by simp [member])⟩, ?_⟩
      exact (last d (by simp)).symm
  · rintro (rfl | ⟨⟨before, behind, rfl, last⟩, other⟩)
    · exact ⟨directives, [], rfl, fun _ member => by cases member⟩
    · refine ⟨before, behind ++ [d], by simp, fun next member => ?_⟩
      rcases List.mem_append.mp member with member | member
      · exact last next member
      · rw [List.mem_singleton.mp member]
        exact other.symm

/-- Of the directives with one name the last one stays. -/
theorem mem_foldl_insert_iff : d ∈ directives.foldl insert [] ↔ Stands directives d := by
  induction directives using List.reverseRecOn with
  | nil => simp [Stands]
  | append_singleton directives last ih =>
      rw [List.foldl_concat, mem_insert_iff, ih, stands_concat_iff]

theorem foldl_insert_of_nodup {directives more : List Directive}
    (distinct : ((directives ++ more).map Directive.name).Nodup) :
    more.foldl insert directives = directives ++ more := by
  induction more generalizing directives with
  | nil => rw [List.append_nil]; rfl
  | cons d more ih =>
      have added : insert directives d = directives ++ [d] := by
        refine if_neg fun present => ?_
        obtain ⟨same, member, equal⟩ := List.any_eq_true.mp present
        rw [List.map_append, List.nodup_append] at distinct
        exact distinct.2.2 same.name (List.mem_map_of_mem member) d.name (by simp)
          (beq_iff_eq.mp equal)
      rw [List.append_cons] at distinct
      rw [List.foldl_cons, added, ih distinct, ← List.append_cons]

end Inserting

end SatBridge.LogFilter
