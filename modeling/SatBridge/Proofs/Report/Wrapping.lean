import SatBridge.Proofs.Report.Lines

/-!
# Wrapped models

The integers of a model stand on lines that are filled from left to right. What `wrap` does to text
is done here to lists of words, one list for each line, and read off the text again. Main statement:
the lines of a model carry one literal for each of its variables and then a zero, fit into the line
length, and are broken only where the next integer would not have fitted.
-/

set_option autoImplicit false

namespace SatBridge.Report

section Groups

variable {limit : Nat} {group words : List String}

/-- The line with some words on it. -/
def lineOf (words : List String) : String :=
  words.foldl (fun line word => line ++ " " ++ word) "v"

/-- The words of each line, if the first line has some words on it already. -/
def groups (limit : Nat) : (group : List String) → List String → List (List String)
  | group, [] => [group]
  | group, word :: words =>
    if limit < (lineOf group).length + 1 + word.length then group :: groups limit [word] words
    else groups limit (group ++ [word]) words

theorem lineOf_snoc (words : List String) (word : String) :
    lineOf (words ++ [word]) = lineOf words ++ " " ++ word := by
  simp [lineOf]

theorem length_lineOf_snoc (words : List String) (word : String) :
    (lineOf (words ++ [word])).length = (lineOf words).length + 1 + word.length := by
  have space : " ".length = 1 := rfl
  rw [lineOf_snoc, String.length_append, String.length_append, space]

theorem length_lineOf_singleton (word : String) : (lineOf [word]).length = word.length + 2 := by
  rw [← List.nil_append [word], length_lineOf_snoc]
  exact Nat.add_comm 2 word.length

/-- Each line is written word by word. -/
theorem wrap_eq_map_groups (limit : Nat) (group words : List String) :
    wrap limit "v" (lineOf group) words = (groups limit group words).map lineOf := by
  induction words generalizing group with
  | nil => rfl
  | cons word rest ih =>
      unfold wrap groups
      split
      · exact congrArg (lineOf group :: ·) (ih [word])
      · rw [← lineOf_snoc]
        exact ih (group ++ [word])

theorem flatten_groups (limit : Nat) (group words : List String) :
    (groups limit group words).flatten = group ++ words := by
  induction words generalizing group with
  | nil => simp [groups]
  | cons word rest ih =>
      unfold groups
      split
      · rw [List.flatten_cons, ih, List.singleton_append]
      · rw [ih, List.append_assoc, List.singleton_append]

theorem groups_extends (limit : Nat) (group words : List String) :
    ∃ more later, groups limit group words = (group ++ more) :: later := by
  induction words generalizing group with
  | nil => exact ⟨[], [], by simp [groups]⟩
  | cons word rest ih =>
      unfold groups
      split
      · exact ⟨[], _, by rw [List.append_nil]⟩
      · obtain ⟨more, later, extended⟩ := ih (group ++ [word])
        exact ⟨word :: more, later, by rw [extended, List.append_assoc, List.singleton_append]⟩

theorem ne_nil_of_mem_groups (filled : group ≠ []) : ∀ line ∈ groups limit group words, line ≠ [] := by
  induction words generalizing group with
  | nil => simpa [groups] using filled
  | cons word rest ih =>
      unfold groups
      split
      · exact List.forall_mem_cons.mpr ⟨filled, ih (by simp)⟩
      · exact ih (by simp)

theorem length_le_of_mem_groups (short : (lineOf group).length ≤ limit)
    (fits : ∀ word ∈ words, word.length + 2 ≤ limit) :
    ∀ line ∈ groups limit group words, (lineOf line).length ≤ limit := by
  induction words generalizing group with
  | nil => simpa [groups] using short
  | cons word rest ih =>
      obtain ⟨wordFits, restFit⟩ := List.forall_mem_cons.mp fits
      unfold groups
      split
      · have alone : (lineOf [word]).length ≤ limit := by rwa [length_lineOf_singleton]
        exact List.forall_mem_cons.mpr ⟨short, ih alone restFit⟩
      · rename_i enough
        exact ih (by rw [length_lineOf_snoc]; omega) restFit

/-- The first word of a line did not fit on the line before. -/
theorem isChain_groups (limit : Nat) (group words : List String) :
    (groups limit group words).IsChain fun line next =>
      ∃ word ∈ next.head?, limit < (lineOf line).length + 1 + word.length := by
  induction words generalizing group with
  | nil => exact List.isChain_singleton group
  | cons word rest ih =>
      unfold groups
      split
      · rename_i full
        obtain ⟨more, later, extended⟩ := groups_extends limit [word] rest
        have chained := ih [word]
        rw [extended] at chained ⊢
        exact List.isChain_cons_cons.mpr ⟨⟨word, rfl, full⟩, chained⟩
      · exact ih (group ++ [word])

end Groups

section Models

variable {model other : Assignment}

/-- The literal of each variable in turn, an open variable being false. -/
def completion (model : Assignment) : List Int :=
  (List.range' 1 (model.size - 1)).map fun var =>
    if model.value? var = some true then (var : Int) else -(var : Int)

theorem values_eq_completion (model : Assignment) : values model = completion model ++ [0] := by
  refine congrArg (· ++ [0]) (List.ext_getElem? fun position => ?_)
  rw [completion, List.getElem?_map, List.getElem?_map, List.getElem?_drop, List.getElem?_zipIdx,
    Array.getElem?_toList, Nat.zero_add]
  by_cases inside : position < model.size - 1
  · have slot : 1 + position < model.size := by omega
    rw [List.getElem?_range' inside, Nat.one_mul, Option.map_some, Assignment.value?,
      Array.getElem?_eq_getElem slot]
    rfl
  · have outside : model.size ≤ 1 + position := by omega
    have behind : (List.range' 1 (model.size - 1)).length ≤ position := by
      rw [List.length_range']
      omega
    rw [Array.getElem?_eq_none outside, List.getElem?_eq_none behind]
    rfl

theorem natAbs_completion (model : Assignment) :
    (completion model).map Int.natAbs = List.range' 1 (model.size - 1) := by
  rw [completion, List.map_map]
  refine (List.map_congr_left fun var _ => ?_).trans (List.map_id _)
  simp only [Function.comp_apply, id_eq]
  split <;> simp

theorem zero_not_mem_completion (model : Assignment) : 0 ∉ completion model := by
  intro member
  have size := List.mem_map_of_mem (f := Int.natAbs) member
  rw [natAbs_completion, List.mem_range'_1] at size
  exact absurd size.1 (by decide)

theorem completion_eq_iff : completion other = completion model ↔
    other.size - 1 = model.size - 1 ∧ ∀ var, 1 ≤ var → var < model.size →
      (other.value? var = some true ↔ model.value? var = some true) := by
  have shown_iff {var : Nat} (positive : 1 ≤ var) (first second : Prop) [Decidable first]
      [Decidable second] : (if first then (var : Int) else -(var : Int)) =
        (if second then (var : Int) else -(var : Int)) ↔ (first ↔ second) := by
    by_cases isFirst : first <;> by_cases isSecond : second <;> simp [isFirst, isSecond] <;> omega
  constructor
  · intro same
    have sizes := congrArg List.length same
    rw [completion, completion, List.length_map, List.length_map, List.length_range',
      List.length_range'] at sizes
    rw [completion, completion, sizes, List.map_inj_left] at same
    refine ⟨sizes, fun var positive inside => (shown_iff positive _ _).mp (same var ?_)⟩
    rw [List.mem_range'_1]
    omega
  · rintro ⟨sizes, values⟩
    rw [completion, completion, sizes, List.map_inj_left]
    intro var member
    rw [List.mem_range'_1] at member
    exact (shown_iff member.1 _ _).mpr (values var member.1 (by omega))

theorem valueWords_lineOf {words : List String} (filled : ∀ word ∈ words, word.toList ≠ [])
    (unblank : ∀ word ∈ words, ∀ c ∈ word.toList, Text.isBlank c = false) :
    valueWords (lineOf words).toList = words.map String.toList := by
  refine Opens.valueWords ?_
  induction words using List.reverseRecOn with
  | nil => exact opens_start
  | append_singleton rest word ih =>
      rw [List.forall_mem_append] at filled unblank
      have before := ih filled.1 unblank.1
      rw [lineOf_snoc, List.map_append]
      exact before.append (filled.2 word List.mem_cons_self) (unblank.2 word List.mem_cons_self)

/-- The first word stands on the first line, since it is shorter than a line. -/
theorem valueLines_eq_groups (bounded : model.size < 2 ^ 63) :
    ∃ first rest, wordsOf model = first :: rest ∧
      (∀ word ∈ first :: rest, word.length + 2 ≤ maxLine) ∧
      valueLines model = (groups maxLine [first] rest).map lineOf := by
  have fits : ∀ word ∈ wordsOf model, word.length + 2 ≤ maxLine := by
    intro word member
    obtain ⟨value, shown, rfl⟩ := List.mem_map.mp member
    exact fits_of_mem_values bounded shown
  have wrapped : valueLines model = wrap maxLine "v" (lineOf []) (wordsOf model) := rfl
  cases listed : wordsOf model with
  | nil => simp [wordsOf, values] at listed
  | cons first rest =>
      rw [listed] at fits wrapped
      have short : ¬ maxLine < (lineOf []).length + 1 + first.length := by
        have alone : (lineOf []).length = 1 := rfl
        have fitsAlone := fits first List.mem_cons_self
        omega
      refine ⟨first, rest, rfl, fits, wrapped.trans ?_⟩
      rw [wrap_eq_map_groups, groups, if_neg short, List.nil_append]

/-- Lines that carry the literals of a model. -/
structure Carries (lines : List String) (model : Assignment) : Prop where
  marked : ∀ line ∈ lines, ['v', ' '] <+: line.toList
  short : ∀ line ∈ lines, line.length ≤ 78
  filled : ∀ line ∈ lines, valueWords line.toList ≠ []
  /-- Wherever a line ends, the words are one literal for each variable in turn, then a zero. -/
  words : lines.flatMap (fun line => valueWords line.toList) =
    (completion model ++ [0]).map Text.Decimal.ofInt
  /-- There is one zero, and it is the last word of the last line. -/
  ended : 0 ∉ completion model ∧ ∃ before last, lines = before ++ [last] ∧
    (valueWords last.toList).getLast? = some ['0']
  /-- A line ends only where the next word would have made it too long. -/
  greedy : ∀ before line next after, lines = before ++ line :: next :: after →
    ∃ word later, valueWords next.toList = word :: later ∧ 78 < line.length + 1 + word.length
  recovered : readValues? (textOfLines lines) = some (completion model ++ [0])
  /-- The lines tell the true variables from the others, and nothing else but their number. -/
  determined : ∀ other, valueLines other = lines ↔ other.size - 1 = model.size - 1 ∧
    ∀ var, 1 ≤ var → var < model.size →
      (other.value? var = some true ↔ model.value? var = some true)

theorem completion_eq_of_valueLines (same : valueLines other = valueLines model) :
    completion other = completion model := by
  have words := valueWords_valueLines other
  rw [same, valueWords_valueLines] at words
  have read := congrArg (List.mapM Text.Decimal.signed?) words
  rw [mapM_signed?_ofInt, mapM_signed?_ofInt, values_eq_completion, values_eq_completion] at read
  exact (List.append_cancel_right (Option.some.inj read)).symm

/-- The last of the words on some lines stands on the last line, if no line is empty. -/
theorem getLast?_of_flatMap_eq_snoc {parts : String → List (List Char)} {lines : List String}
    {shown : List (List Char)} {final : List Char} (filled : ∀ line ∈ lines, parts line ≠ [])
    (words : lines.flatMap parts = shown ++ [final]) :
    ∃ before last, lines = before ++ [last] ∧ (parts last).getLast? = some final := by
  obtain rfl | ⟨before, last, rfl⟩ := List.eq_nil_or_concat lines
  · simp at words
  · refine ⟨before, last, List.concat_eq_append, ?_⟩
    have nonempty : parts last ≠ [] := filled last (by simp)
    have same := congrArg List.getLast? words
    rw [List.concat_eq_append, List.flatMap_append, List.flatMap_singleton,
      List.getLast?_append_of_ne_nil _ nonempty, List.getLast?_concat] at same
    exact same

/-- A model is shown on as few lines as its integers need, and can be read off them again. -/
theorem valueLines_carry {model : Assignment} (bounded : model.size < 2 ^ 63) :
    Carries (valueLines model) model := by
  obtain ⟨first, rest, listed, fits, lines⟩ := valueLines_eq_groups bounded
  have clean : ∀ group ∈ groups maxLine [first] rest, ∀ word ∈ group, word ∈ wordsOf model := by
    intro group inGroups word inGroup
    rw [listed, ← List.singleton_append, ← flatten_groups maxLine]
    exact List.mem_flatten.mpr ⟨group, inGroups, inGroup⟩
  have spelled : ∀ group ∈ groups maxLine [first] rest,
      valueWords (lineOf group).toList = group.map String.toList := fun group member =>
    valueWords_lineOf (fun word inGroup => ne_nil_of_mem_wordsOf word (clean group member word inGroup))
      fun word inGroup => not_blank_of_mem_wordsOf word (clean group member word inGroup)
  have filled : ∀ line ∈ valueLines model, valueWords line.toList ≠ [] := by
    rw [lines, List.forall_mem_map]
    intro group member
    rw [spelled group member]
    simpa using ne_nil_of_mem_groups (by simp) group member
  have words := (valueWords_valueLines model).trans
    (congrArg (List.map Text.Decimal.ofInt) (values_eq_completion model))
  refine {
    marked := space_of_mem_valueLines bounded
    short := ?short
    filled := filled
    words := words
    ended := ⟨zero_not_mem_completion model, ?ended⟩
    greedy := ?greedy
    recovered := ?recovered
    determined := ?determined }
  case short =>
    have alone : (lineOf [first]).length ≤ maxLine := by
      rw [length_lineOf_singleton]
      exact fits first List.mem_cons_self
    rw [lines, List.forall_mem_map]
    exact length_le_of_mem_groups alone fun word member => fits word (List.mem_cons_of_mem _ member)
  case ended =>
    rw [List.map_append] at words
    exact getLast?_of_flatMap_eq_snoc filled words
  case greedy =>
    have chained : (valueLines model).IsChain fun line next =>
        ∃ word later, valueWords next.toList = word :: later ∧ 78 < line.length + 1 + word.length := by
      rw [lines, List.isChain_map]
      refine (isChain_groups maxLine [first] rest).imp_of_mem_imp ?_
      rintro group next - member ⟨word, leads, full⟩
      obtain ⟨later, rfl⟩ := List.head?_eq_some_iff.mp leads
      exact ⟨word.toList, later.map String.toList, spelled _ member, full⟩
    intro before line next after split
    exact List.isChain_iff_forall_rel_of_append_cons_cons.mp chained split
  case recovered =>
    rw [readValues?_textOfLines (newline_not_mem_valueLines model), words]
    exact mapM_signed?_ofInt _
  case determined =>
    intro other
    rw [← completion_eq_iff]
    refine ⟨completion_eq_of_valueLines, fun same => ?_⟩
    rw [valueLines, valueLines, values_eq_completion, values_eq_completion, same]

/-- Twenty-four variables, of which two are true, need a second line. -/
private def longModel : Assignment :=
  #[none, some true] ++ Array.replicate 22 (some false) ++ #[some true]

theorem valueLines_carry_longModel :
    longModel.size < 2 ^ 63 ∧ (valueLines longModel).length = 2 ∧
      Carries (valueLines longModel) longModel :=
  ⟨by decide, by decide +kernel, valueLines_carry (by decide)⟩

end Models

end SatBridge.Report
