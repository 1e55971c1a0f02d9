import SatBridge.Proofs.Text.Lexical
import SatBridge.Result.Report

/-!
# Reading a report back

A reader of the result format looks at the lines whose first word is `v` and reads the words behind
it as integers, wherever a line ends. Main statement: from the text of an outcome such a reader gets
exactly the integers of its model, however long the model is.
-/

set_option autoImplicit false

namespace SatBridge.Report

/-- The words of a value line behind its `v`; another line has none. -/
def valueWords (line : List Char) : List (List Char) :=
  match Text.words line with
  | ['v'] :: rest => rest
  | _ => []

/-- The integers on the value lines of a text, if all their words are integers. -/
def readValues? (text : String) : Option (List Int) :=
  ((text.toList.splitOn '\n').flatMap valueWords).mapM Text.Decimal.signed?

section Lines

theorem newline_not_mem_toDigits (n : Nat) : '\n' ∉ Nat.toDigits 10 n := by
  refine Text.newline_not_mem_of_not_blank fun c member => Text.not_blank_of_isDigit ?_
  exact Text.Decimal.isDigit_of_mem_ofNat (n := n) member

theorem newline_not_mem_ofUnits (places units : Nat) :
    '\n' ∉ Text.FixedPlaces.ofUnits places units := by
  simp [Text.FixedPlaces.ofUnits, newline_not_mem_toDigits]

theorem newline_not_mem_toString (n : Nat) : '\n' ∉ (toString n).toList := by
  simpa using newline_not_mem_toDigits n

theorem newline_not_mem_append {first second : String} (inFirst : '\n' ∉ first.toList)
    (inSecond : '\n' ∉ second.toList) : '\n' ∉ (first ++ second).toList := by
  rw [String.toList_append, List.mem_append]
  exact not_or.mpr ⟨inFirst, inSecond⟩

theorem newline_not_mem_summary (elapsed : Duration) (stats : Stats) :
    '\n' ∉ (summary elapsed stats).toList := by
  have lead : '\n' ∉ "solved in ".toList := by decide
  have seconds : '\n' ∉ elapsed.secondsText.toList := by
    simpa [Duration.secondsText, Text.FixedPlaces.ofFloat] using newline_not_mem_ofUnits 3 _
  have unit : '\n' ∉ " s (".toList := by decide
  have clauses : '\n' ∉ " clauses, ".toList := by decide
  have literals : '\n' ∉ " literals, max variable ".toList := by decide
  have last : '\n' ∉ ")".toList := by decide
  refine newline_not_mem_append
    (newline_not_mem_append (newline_not_mem_append ?_ literals) ?_) last
  · refine newline_not_mem_append (newline_not_mem_append (newline_not_mem_append ?_ ?_) clauses) ?_
    · exact newline_not_mem_append (newline_not_mem_append lead seconds) unit
    · exact newline_not_mem_toString stats.clauses
    · exact newline_not_mem_toString stats.literals
  · exact newline_not_mem_toString stats.maxVar

theorem newline_not_mem_commentLine {text : String} (single : '\n' ∉ text.toList) :
    '\n' ∉ (commentLine text).toList := by
  unfold commentLine
  split
  · decide
  · simp [single]

theorem newline_not_mem_verdictLine (status : Status) : '\n' ∉ (verdictLine status).toList := by
  cases status <;> decide

/-- Cutting a text at its newlines gives back the lines it was made of, and an empty rest. -/
theorem splitOn_textOfLines {lines : List String}
    (single : ∀ line ∈ lines, '\n' ∉ line.toList) :
    (textOfLines lines).toList.splitOn '\n' = lines.map String.toList ++ [[]] := by
  induction lines with
  | nil => simp [textOfLines]
  | cons line rest ih =>
      have headSingle := single line List.mem_cons_self
      have restSingle := ih fun other member => single other (List.mem_cons_of_mem _ member)
      have noBreak : ∀ c ∈ line.toList, (c == '\n') = false := by
        intro c member
        rw [beq_eq_false_iff_ne]
        rintro rfl
        exact headSingle member
      have firstLine : (textOfLines (line :: rest)).toList =
          line.toList ++ '\n' :: (textOfLines rest).toList := by
        simp [textOfLines, String.toList_join]
      rw [firstLine, List.splitOn_eq_splitOnP,
        List.splitOnP_append_cons_of_forall_mem noBreak '\n' rfl, ← List.splitOn_eq_splitOnP,
        restSingle]
      rfl

theorem valueWords_verdictLine (status : Status) :
    valueWords (verdictLine status).toList = [] := by
  cases status <;> decide

theorem valueWords_commentLine (text : String) : valueWords (commentLine text).toList = [] := by
  unfold commentLine
  split
  · decide
  · have spaced : ("c " ++ text).toList = ['c'] ++ ' ' :: text.toList := by simp
    have first : Text.words ['c'] = [['c']] := by decide
    rw [valueWords, spaced, Text.words_append_blank (by decide), first]
    rfl

end Lines

section Wrapping

/-- A line that a value line can be extended from. -/
def Opens (line : String) (behind : List (List Char)) : Prop :=
  Text.words line.toList = ['v'] :: behind

theorem opens_start : Opens "v" [] := by
  unfold Opens
  decide

theorem Opens.append {line : String} {behind : List (List Char)} (opens : Opens line behind)
    {word : String} (filled : word.toList ≠ [])
    (unblank : ∀ c ∈ word.toList, Text.isBlank c = false) :
    Opens (line ++ " " ++ word) (behind ++ [word.toList]) := by
  have spaced : (line ++ " " ++ word).toList = line.toList ++ ' ' :: word.toList := by simp
  have before : Text.words line.toList = ['v'] :: behind := opens
  rw [Opens, spaced, Text.words_append_blank (by decide), before,
    Text.words_of_not_blank filled unblank]
  rfl

theorem Opens.valueWords {line : String} {behind : List (List Char)}
    (opens : Opens line behind) : Report.valueWords line.toList = behind := by
  have all : Text.words line.toList = ['v'] :: behind := opens
  rw [Report.valueWords, all]
  rfl

/-- Wherever the lines are broken, no word is lost, and the words keep their order. -/
theorem valueWords_wrap (limit : Nat) {line : String} {behind : List (List Char)}
    (opens : Opens line behind) {words : List String}
    (filled : ∀ word ∈ words, word.toList ≠ [])
    (unblank : ∀ word ∈ words, ∀ c ∈ word.toList, Text.isBlank c = false) :
    (wrap limit "v" line words).flatMap (fun line => valueWords line.toList) =
      behind ++ words.map String.toList := by
  induction words generalizing line behind with
  | nil => simp [wrap, opens.valueWords]
  | cons word rest ih =>
      have wordFilled := filled word List.mem_cons_self
      have wordUnblank := unblank word List.mem_cons_self
      have laterFilled := fun other member => filled other (List.mem_cons_of_mem _ member)
      have laterUnblank := fun other member => unblank other (List.mem_cons_of_mem _ member)
      unfold wrap
      split
      · have fresh := opens_start.append wordFilled wordUnblank
        have later := ih fresh laterFilled laterUnblank
        rw [List.flatMap_cons, opens.valueWords, later]
        simp
      · have longer := opens.append wordFilled wordUnblank
        have later := ih longer laterFilled laterUnblank
        rw [later]
        simp

theorem newline_not_mem_wrap (limit : Nat) {line : String} (single : '\n' ∉ line.toList)
    {words : List String} (clean : ∀ word ∈ words, '\n' ∉ word.toList) :
    ∀ wrapped ∈ wrap limit "v" line words, '\n' ∉ wrapped.toList := by
  induction words generalizing line with
  | nil =>
      intro wrapped member
      rw [List.mem_singleton.mp member]
      exact single
  | cons word rest ih =>
      have wordClean := clean word List.mem_cons_self
      have laterClean := fun other member => clean other (List.mem_cons_of_mem _ member)
      intro wrapped member
      unfold wrap at member
      split at member
      · rcases List.mem_cons.mp member with rfl | later
        · exact single
        · exact ih (by simp [wordClean]) laterClean wrapped later
      · exact ih (by simp [single, wordClean]) laterClean wrapped member

end Wrapping

theorem mapM_signed?_ofInt (integers : List Int) :
    (integers.map Text.Decimal.ofInt).mapM Text.Decimal.signed? = some integers := by
  induction integers with
  | nil => rfl
  | cons value rest ih => simp [Text.Decimal.signed?_ofInt, ih]

/-- The words on the lines of a model. -/
def wordsOf (model : Assignment) : List String :=
  (values model).map fun value => String.ofList (Text.Decimal.ofInt value)

theorem ne_nil_of_mem_wordsOf {model : Assignment} : ∀ word ∈ wordsOf model, word.toList ≠ [] := by
  intro word member
  obtain ⟨value, _, rfl⟩ := List.mem_map.mp member
  simpa using Text.Decimal.ofInt_ne_nil value

theorem not_blank_of_mem_wordsOf {model : Assignment} :
    ∀ word ∈ wordsOf model, ∀ c ∈ word.toList, Text.isBlank c = false := by
  intro word member c inWord
  obtain ⟨value, _, rfl⟩ := List.mem_map.mp member
  exact Text.Decimal.not_blank_of_mem_ofInt (by simpa using inWord)

theorem valueWords_valueLines (model : Assignment) :
    (valueLines model).flatMap (fun line => valueWords line.toList) =
      (values model).map Text.Decimal.ofInt := by
  refine (valueWords_wrap maxLine opens_start ne_nil_of_mem_wordsOf
    not_blank_of_mem_wordsOf).trans ?_
  simp [wordsOf]

theorem newline_not_mem_valueLines (model : Assignment) :
    ∀ line ∈ valueLines model, '\n' ∉ line.toList :=
  newline_not_mem_wrap maxLine (by decide) fun word member =>
    Text.newline_not_mem_of_not_blank (not_blank_of_mem_wordsOf word member)

theorem newline_not_mem_outcomeLines (elapsed : Duration) (outcome : Outcome) :
    ∀ line ∈ outcomeLines elapsed outcome, '\n' ∉ line.toList := by
  intro line member
  rcases List.mem_cons.mp member with rfl | member
  · exact newline_not_mem_commentLine (newline_not_mem_summary elapsed outcome.stats)
  rcases List.mem_cons.mp member with rfl | member
  · exact newline_not_mem_verdictLine outcome.status
  cases present : outcome.model with
  | none =>
      rw [present] at member
      cases member
  | some model =>
      rw [present] at member
      exact newline_not_mem_valueLines model line member

theorem readValues?_textOfLines {lines : List String}
    (single : ∀ line ∈ lines, '\n' ∉ line.toList) :
    readValues? (textOfLines lines) =
      (lines.flatMap fun line => valueWords line.toList).mapM Text.Decimal.signed? := by
  have rest : valueWords [] = [] := by decide
  rw [readValues?, splitOn_textOfLines single, List.flatMap_append, List.flatMap_map]
  simp only [List.flatMap_cons, List.flatMap_nil, rest, List.append_nil]

/-- The text of an outcome has the integers of its model on its value lines, in their order, and
no others. -/
theorem readValues?_outcomeLines (elapsed : Duration) (outcome : Outcome) :
    readValues? (textOfLines (outcomeLines elapsed outcome)) =
      some (outcome.model.elim [] values) := by
  have carried : (outcomeLines elapsed outcome).flatMap (fun line => valueWords line.toList) =
      (outcome.model.elim [] values).map Text.Decimal.ofInt := by
    rw [outcomeLines, List.flatMap_cons, valueWords_commentLine, List.flatMap_cons,
      valueWords_verdictLine]
    cases outcome.model with
    | none => rfl
    | some model => exact valueWords_valueLines model
  rw [readValues?_textOfLines (newline_not_mem_outcomeLines elapsed outcome), carried]
  exact mapM_signed?_ofInt _

end SatBridge.Report
