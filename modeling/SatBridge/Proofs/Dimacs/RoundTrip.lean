import SatBridge.Dimacs.Printer
import SatBridge.Proofs.Dimacs.WellFormed

/-!
# Writing and reading back

The text of a formula is analysed as its writer composed it, line by line. Main statement: reading
undoes writing exactly for the well-formed formulas, which are also all that reading ever gives.
-/

set_option autoImplicit false

namespace SatBridge.Dimacs

open Text (firstMark? fields isBlank)
open Text.Decimal (IsLead)

section Encoding

theorem mod_of_newline_eq {n : Nat} (same : newline = UInt8.ofNat n) : n % 256 = 10 := by
  have code := congrArg UInt8.toNat same
  simpa [newline, eq_comm] using code

theorem newline_mem_utf8EncodeChar {c : Char} (member : newline ∈ String.utf8EncodeChar c) :
    c = '\n' := by
  simp only [String.utf8EncodeChar] at member
  split at member
  · rename_i small
    have code := mod_of_newline_eq (List.mem_singleton.mp member)
    have ten : c.val.toNat = 10 := by omega
    exact Char.ext (UInt32.toNat_inj.mp ten)
  -- Every byte of a longer character has its highest bit set.
  · exfalso
    split at member
    · simp only [List.mem_cons, List.not_mem_nil, or_false] at member
      rcases member with same | same <;> have := mod_of_newline_eq same <;> omega
    · split at member
      · simp only [List.mem_cons, List.not_mem_nil, or_false] at member
        rcases member with same | same | same <;> have := mod_of_newline_eq same <;> omega
      · simp only [List.mem_cons, List.not_mem_nil, or_false] at member
        rcases member with same | same | same | same <;> have := mod_of_newline_eq same <;> omega

theorem newline_not_mem_encode {cs : List Char} (single : '\n' ∉ cs) : newline ∉ encode cs := by
  intro member
  obtain ⟨c, inText, byte⟩ := List.mem_flatMap.mp member
  obtain rfl := newline_mem_utf8EncodeChar byte
  exact single inText

theorem encode_append (cs ds : List Char) : encode (cs ++ ds) = encode cs ++ encode ds :=
  List.flatMap_append

theorem encode_newline : encode ['\n'] = [newline] := by decide

theorem toUTF8_ofList (cs : List Char) : (String.ofList cs).toUTF8.data.toList = encode cs := by
  rw [String.toUTF8_eq_toByteArray, String.toByteArray_ofList, toByteArray_encode]

theorem splitOn_encode_lines {lines : List (List Char)} (single : ∀ line ∈ lines, '\n' ∉ line) :
    (encode (lines.flatMap fun line => line ++ ['\n'])).splitOn newline =
      lines.map encode ++ [[]] := by
  induction lines with
  | nil => rfl
  | cons line rest ih =>
      obtain ⟨first, later⟩ := List.forall_mem_cons.mp single
      rw [List.flatMap_cons, encode_append, encode_append, encode_newline, List.append_assoc,
        List.singleton_append,
        List.splitOn_append_cons_self_of_not_mem (newline_not_mem_encode first), ih later]
      rfl

end Encoding

section Writing

/-- The problem line without its end. -/
def headerText (f : Formula) : List Char :=
  ['p'] ++ ' ' :: (['c', 'n', 'f'] ++
    ' ' :: (Text.Decimal.ofNat f.numVars ++ ' ' :: Text.Decimal.ofNat f.clauses.length))

theorem headerLine_eq (f : Formula) : headerLine f = headerText f ++ ['\n'] := by
  unfold headerLine headerText
  -- The digits stay closed, or comparing the two sides unfolds them.
  generalize Text.Decimal.ofNat f.numVars = vars
  generalize Text.Decimal.ofNat f.clauses.length = clauses
  simp

/-- The line of a clause without its end. -/
def clauseText (values : List Int) : List Char :=
  values.flatMap (fun value => Text.Decimal.ofInt value ++ [' ']) ++ ['0']

def clauseTexts (f : Formula) : List (List Char) :=
  (f.clauses.map (List.map Literal.signed)).map clauseText

theorem print_eq_ok {f : Formula} (bounded : ∀ c ∈ f.clauses, ∀ l ∈ c, l.index ≤ maxVar) :
    print f = .ok (String.ofList ((headerText f :: clauseTexts f).flatMap (· ++ ['\n']))) := by
  have integers : f.clauses.mapM (fun c => c.mapM Literal.toInt?) =
      .ok (f.clauses.map (List.map Literal.signed)) :=
    mapM_eq_ok_map fun c inFormula =>
      mapM_eq_ok_map fun l inClause => Literal.toInt?_of_le (bounded c inFormula l inClause)
  have lines (clauses : List (List Int)) :
      clauses.flatMap clauseLine = (clauses.map clauseText).flatMap (· ++ ['\n']) := by
    rw [List.flatMap_map]
    exact List.flatMap_congr fun values _ => by simp [clauseLine, clauseText]
  rw [print, integers]
  simp only [bind, Except.bind, pure, Except.pure, lines, List.flatMap_cons, headerLine_eq,
    clauseTexts]

theorem not_blank_of_mem_ofNat {n : Nat} {c : Char} (member : c ∈ Text.Decimal.ofNat n) :
    isBlank c = false :=
  Text.not_blank_of_isDigit (Text.Decimal.isDigit_of_mem_ofNat member)

theorem fields_ofNat (n : Nat) : fields (Text.Decimal.ofNat n) = [Text.Decimal.ofNat n] :=
  Text.fields_of_not_blank (Text.Decimal.ofNat_ne_nil n) fun _ => not_blank_of_mem_ofNat

theorem fields_headerText (f : Formula) :
    fields (headerText f) =
      [['p'], ['c', 'n', 'f'], Text.Decimal.ofNat f.numVars,
        Text.Decimal.ofNat f.clauses.length] := by
  have first : fields ['p'] = [['p']] := by decide
  have second : fields ['c', 'n', 'f'] = [['c', 'n', 'f']] := by decide
  have blank : isBlank ' ' = true := by decide
  simp only [headerText, Text.fields_append_blank blank, first, second, fields_ofNat]
  rfl

theorem fields_clauseText (values : List Int) :
    fields (clauseText values) = (values ++ [0]).map Text.Decimal.ofInt := by
  induction values with
  | nil => decide
  | cons value rest ih =>
      have spaced : clauseText (value :: rest) =
          Text.Decimal.ofInt value ++ ' ' :: clauseText rest := by simp [clauseText]
      have own : fields (Text.Decimal.ofInt value) = [Text.Decimal.ofInt value] :=
        Text.fields_of_not_blank (Text.Decimal.ofInt_ne_nil value)
          fun _ => Text.Decimal.not_blank_of_mem_ofInt
      rw [spaced, Text.fields_append_blank (by decide), own, ih]
      rfl

/-- The line of a clause starts with an integer, so it is no comment and no mark. -/
theorem firstMark?_clauseText (values : List Int) :
    ∃ c, IsLead c ∧ firstMark? (clauseText values) = some c := by
  have split := fields_clauseText values
  cases integers : values ++ [0] with
  | nil => exact absurd integers (by simp)
  | cons value rest =>
      cases written : Text.Decimal.ofInt value with
      | nil => exact absurd written (Text.Decimal.ofInt_ne_nil value)
      | cons c word =>
          rw [integers, List.map_cons, written] at split
          have member : c ∈ Text.Decimal.ofInt value := by simp [written]
          exact ⟨c, Text.Decimal.isLead_of_mem_ofInt member, Text.firstMark?_of_fields split⟩

theorem firstMark?_clauseText_ne (values : List Int) {c : Char} (other : ¬ IsLead c) :
    firstMark? (clauseText values) ≠ some c := by
  obtain ⟨d, lead, starts⟩ := firstMark?_clauseText values
  rw [starts]
  intro same
  exact other (Option.some.inj same ▸ lead)

theorem not_isLead_of_letter : ¬ IsLead 'p' ∧ ¬ IsLead 'c' ∧ ¬ IsLead '%' := by
  unfold IsLead
  decide

theorem firstMark?_headerText (f : Formula) : firstMark? (headerText f) = some 'p' :=
  Text.firstMark?_of_fields (fields_headerText f)

theorem newline_not_mem_texts (f : Formula) :
    ∀ text ∈ headerText f :: clauseTexts f, '\n' ∉ text := by
  refine List.forall_mem_cons.mpr ⟨?_, fun text member => ?_⟩
  · have digits (n : Nat) : '\n' ∉ Text.Decimal.ofNat n :=
      Text.newline_not_mem_of_not_blank fun _ => not_blank_of_mem_ofNat
    simp only [headerText, List.mem_append, List.mem_cons, List.not_mem_nil, digits, or_false]
    decide
  · obtain ⟨values, _, rfl⟩ := List.mem_map.mp member
    have digits (value : Int) : '\n' ∉ Text.Decimal.ofInt value :=
      Text.newline_not_mem_of_not_blank fun _ => Text.Decimal.not_blank_of_mem_ofInt
    simp [clauseText, digits]

end Writing

section Reading

theorem readAs_encode {texts : List (List Char)}
    (unmarked : ∀ text ∈ texts, firstMark? text ≠ some '%') : ReadAs (texts.map encode) texts := by
  induction texts with
  | nil => exact .done
  | cons text rest ih =>
      obtain ⟨first, later⟩ := List.forall_mem_cons.mp unmarked
      exact .line first (ih later)

theorem effective_texts (f : Formula) :
    effective (headerText f :: clauseTexts f ++ [[]]) = headerText f :: clauseTexts f := by
  have rest : effective (clauseTexts f) = clauseTexts f := by
    refine List.filter_eq_self.mpr fun text member => ?_
    obtain ⟨values, _, rfl⟩ := List.mem_map.mp member
    obtain ⟨c, lead, starts⟩ := firstMark?_clauseText values
    have uncomment := firstMark?_clauseText_ne values not_isLead_of_letter.2.1
    simpa [starts] using uncomment
  have last : effective (clauseTexts f ++ [[]]) = effective (clauseTexts f) := by
    simp [effective, firstMark?]
  rw [List.cons_append, effective_cons, if_neg (by simp [firstMark?_headerText]), last, rest]

theorem declares_headerText {f : Formula} (bounded : f.numVars ≤ maxVar)
    (few : f.clauses.length < 2 ^ 64) :
    Declares (headerText f) ⟨f.numVars, f.clauses.length⟩ where
  marked := firstMark?_headerText f
  counts := ⟨_, _, fields_headerText f,
    Text.Decimal.unsigned?_eq_some_iff.mp (Text.Decimal.unsigned?_ofNat _),
    Text.Decimal.unsigned?_eq_some_iff.mp (Text.Decimal.unsigned?_ofNat _)⟩
  numVars_le := bounded
  numClauses_lt := few

theorem fields_clauseTexts (f : Formula) :
    (clauseTexts f).flatMap fields =
      (ClauseStream.integers f.clauses).map Text.Decimal.ofInt := by
  rw [clauseTexts, List.flatMap_map, ClauseStream.integers, List.map_flatMap]
  exact List.flatMap_congr fun values _ => fields_clauseText values

theorem lists_clauseTexts {f : Formula} (wellFormed : f.WellFormed) :
    Lists f.numVars (clauseTexts f) (ClauseStream.integers f.clauses) where
  unmarked := by
    intro text member
    obtain ⟨values, _, rfl⟩ := List.mem_map.mp member
    exact firstMark?_clauseText_ne values not_isLead_of_letter.1
  signed := by
    rw [fields_clauseTexts, List.forall₂_map_left_iff, List.forall₂_same]
    exact fun value _ => Text.Decimal.signed?_eq_some_iff.mp (Text.Decimal.signed?_ofInt value)
  declared := by
    intro value member
    rcases ClauseStream.mem_integers member with rfl | ⟨c, inFormula, l, inClause, rfl⟩
    · exact Nat.zero_le _
    · rw [Literal.natAbs_signed]
      exact (wellFormed.2 c inFormula l inClause).2

theorem analysis_texts {f : Formula} (wellFormed : f.WellFormed)
    (few : f.clauses.length < 2 ^ 64) :
    Nonempty (Analysis (encode ((headerText f :: clauseTexts f).flatMap (· ++ ['\n']))) f) := by
  have proper : ∀ c ∈ f.clauses, ∀ l ∈ c, 1 ≤ l.index :=
    fun c inFormula l inClause => (wellFormed.2 c inFormula l inClause).1
  have cut := ClauseStream.cut_integers proper
  have unmarked : ∀ text ∈ headerText f :: clauseTexts f ++ [[]], firstMark? text ≠ some '%' := by
    intro text member
    rcases List.mem_append.mp member with line | last
    · rcases List.mem_cons.mp line with rfl | clause
      · simp [firstMark?_headerText]
      · obtain ⟨values, _, rfl⟩ := List.mem_map.mp clause
        exact firstMark?_clauseText_ne values not_isLead_of_letter.2.2
    · simp [List.mem_singleton.mp last, firstMark?]
  refine ⟨{
    texts := headerText f :: clauseTexts f ++ [[]]
    problem := headerText f
    body := clauseTexts f
    header := ⟨f.numVars, f.clauses.length⟩
    values := ClauseStream.integers f.clauses
    readAs := ?_
    split := effective_texts f
    declares := declares_headerText wellFormed.1 few
    lists := lists_clauseTexts wellFormed
    terminated := (ClauseStream.cut_closed_iff _).mp (by rw [cut])
    counted := by rw [← ClauseStream.length_cut, cut, List.length_map]
    formula := by rw [cut, ClauseStream.map_ofSigned_signed proper] }⟩
  -- The last line ends with a newline too, so an empty line follows it.
  rw [splitOn_encode_lines (newline_not_mem_texts f)]
  simpa [encode] using readAs_encode unmarked

theorem parseText_eq_ok_iff {text : List Char} {f : Formula} :
    parseText (.ofList text) = .ok f ↔ Nonempty (Analysis (encode text) f) := by
  rw [parseText, Source.ofBytes, parse_eq_ok_iff_readLines, readLines_eq_ok_iff_analysis,
    toUTF8_ofList, List.flatten_singleton]

theorem parseText_of_print {f : Formula} (wellFormed : f.WellFormed)
    (few : f.clauses.length < 2 ^ 64) : (print f >>= parseText) = .ok f := by
  have written := print_eq_ok fun c inFormula l inClause => (wellFormed.literal inFormula inClause).2
  have read := parseText_eq_ok_iff.mpr (analysis_texts wellFormed few)
  simp only [written, bind, Except.bind, read]

theorem wellFormed_of_bind {f g : Formula} (accepted : (print g >>= parseText) = .ok f) :
    f.WellFormed := by
  obtain ⟨text, _, parsed⟩ := bind_eq_ok accepted
  exact wellFormed_of_parse parsed

theorem length_clauses_lt {text : String} {f : Formula} (parsed : parseText text = .ok f) :
    f.clauses.length < 2 ^ 64 := by
  rw [← String.ofList_toList (s := text), parseText_eq_ok_iff] at parsed
  obtain ⟨analysis⟩ := parsed
  -- The header announced as many clauses as there are, and it cannot announce more.
  have counted := analysis.counted
  rw [← ClauseStream.length_cut] at counted
  rw [analysis.formula, List.length_map, counted]
  exact analysis.declares.numClauses_lt

end Reading

section Building

theorem wellFormed_addClause {f : Formula} (wellFormed : f.WellFormed) {c : Clause}
    (proper : ∀ l ∈ c, l.WellFormed) : (f.addClause c).WellFormed := by
  have bounds := foldl_max_le_iff.mp (Nat.le_refl (f.addClause c).numVars)
  obtain ⟨grows, declared⟩ := bounds
  refine ⟨foldl_max_le_iff.mpr ⟨wellFormed.1, ?_⟩, fun d member l inClause => ?_⟩
  · intro index member
    obtain ⟨l, inClause, rfl⟩ := List.mem_map.mp member
    exact (proper l inClause).2
  · rcases List.mem_append.mp member with earlier | last
    · obtain ⟨positive, below⟩ := wellFormed.2 d earlier l inClause
      exact ⟨positive, Nat.le_trans below grows⟩
    · rw [List.mem_singleton.mp last] at inClause
      exact ⟨(proper l inClause).1, declared _ (List.mem_map_of_mem inClause)⟩

theorem wellFormed_foldl_addClause {clauses : List Clause}
    (proper : ∀ c ∈ clauses, ∀ l ∈ c, l.WellFormed) {f : Formula} (wellFormed : f.WellFormed) :
    (clauses.foldl Formula.addClause f).WellFormed := by
  induction clauses generalizing f with
  | nil => exact wellFormed
  | cons c rest ih =>
      obtain ⟨first, later⟩ := List.forall_mem_cons.mp proper
      exact ih later (wellFormed_addClause wellFormed first)

end Building

/-- Writing and reading are inverse to each other on the well-formed formulas and on no others.
Formulas that are built clause by clause are well formed, and so is everything that is read. -/
theorem print_parse_iff_wellFormed :
    (∀ f : Formula, f.clauses.length < 2 ^ 64 →
      ((print f >>= parseText) = .ok f ↔ f.WellFormed)) ∧
    (∀ (numVars : Nat) (clauses : List Clause), numVars ≤ maxVar →
      (∀ c ∈ clauses, ∀ l ∈ c, l.WellFormed) →
      (clauses.foldl Formula.addClause (.ofNumVars numVars)).WellFormed) ∧
    ∀ (text : String) (f : Formula), parseText text = .ok f →
      f.WellFormed ∧ (print f >>= parseText) = .ok f := by
  refine ⟨fun f few => ?_, fun numVars clauses bounded proper => ?_, fun text f parsed => ?_⟩
  · exact ⟨wellFormed_of_bind, fun wellFormed => parseText_of_print wellFormed few⟩
  · have empty : (Formula.ofNumVars numVars).WellFormed := ⟨bounded, by simp [Formula.ofNumVars]⟩
    exact wellFormed_foldl_addClause proper empty
  · have wellFormed := wellFormed_of_parse parsed
    exact ⟨wellFormed, parseText_of_print wellFormed (length_clauses_lt parsed)⟩

/-- A formula with an empty clause comes back, one that uses variable zero does not. -/
theorem print_parse_samples :
    (∃ text, parseText text = .ok ⟨2, [[⟨1, true⟩, ⟨2, false⟩], []]⟩ ∧
      (print ⟨2, [[⟨1, true⟩, ⟨2, false⟩], []]⟩ >>= parseText) =
        .ok ⟨2, [[⟨1, true⟩, ⟨2, false⟩], []]⟩) ∧
    (print ⟨1, [[⟨0, true⟩]]⟩ >>= parseText) ≠ .ok ⟨1, [[⟨0, true⟩]]⟩ ∧
    ([[⟨3, true⟩], []].foldl Formula.addClause (.ofNumVars 1)).WellFormed := by
  obtain ⟨inverse, built, read⟩ := print_parse_iff_wellFormed
  refine ⟨?_, ?_, built 1 [[⟨3, true⟩], []] (by decide) (by decide)⟩
  · have back := (inverse ⟨2, [[⟨1, true⟩, ⟨2, false⟩], []]⟩ (by decide)).mpr (by decide)
    obtain ⟨text, _, parsed⟩ := bind_eq_ok back
    exact ⟨text, parsed, (read text _ parsed).2⟩
  · intro back
    exact absurd ((inverse ⟨1, [[⟨0, true⟩]]⟩ (by decide)).mp back) (by decide)

end SatBridge.Dimacs
