import Mathlib
import SatBridge.Proofs.Dimacs.Reading

/-!
# The grammar of DIMACS texts

What a text of a formula is, said without reading it from left to right. Main statement: the parser
accepts exactly these texts, and the formula it gives back is the one that the text denotes.
-/

set_option autoImplicit false

namespace SatBridge.Dimacs

open Text (firstMark? fields)
open Text.Decimal (IsSigned IsUnsigned)

/-- Lines as texts, as far as the end mark. The line of the mark has to be a text as well, but those
behind it need not be. -/
inductive ReadAs : List (List UInt8) → List (List Char) → Prop where
  | done : ReadAs [] []
  | mark {cs rest} : firstMark? cs = some '%' → ReadAs (encode cs :: rest) []
  | line {cs rest texts} :
      firstMark? cs ≠ some '%' → ReadAs rest texts → ReadAs (encode cs :: rest) (cs :: texts)

/-- The lines that are neither blank nor a comment. -/
def effective (texts : List (List Char)) : List (List Char) :=
  texts.filter fun cs => firstMark? cs ≠ none ∧ firstMark? cs ≠ some 'c'

/-- A problem line and what it declares. -/
structure Declares (cs : List Char) (header : Header) : Prop where
  marked : firstMark? cs = some 'p'
  counts : ∃ vars clauses, fields cs = [['p'], ['c', 'n', 'f'], vars, clauses] ∧
    IsUnsigned vars header.numVars ∧ IsUnsigned clauses header.numClauses
  numVars_le : header.numVars ≤ 2147483647
  numClauses_lt : header.numClauses < 2 ^ 64

/-- Lines of literals and the integers in them. -/
structure Lists (numVars : Nat) (body : List (List Char)) (values : List Int) : Prop where
  unmarked : ∀ cs ∈ body, firstMark? cs ≠ some 'p'
  signed : List.Forall₂ IsSigned (body.flatMap fields) values
  declared : ∀ value ∈ values, value.natAbs ≤ numVars

/-- How a text denotes a formula: one problem line, then clauses that each end with a zero. -/
structure Analysis (bytes : List UInt8) (f : Formula) where
  texts : List (List Char)
  problem : List Char
  body : List (List Char)
  header : Header
  values : List Int
  readAs : ReadAs (bytes.splitOn newline) texts
  split : effective texts = problem :: body
  declares : Declares problem header
  lists : Lists header.numVars body values
  terminated : values = [] ∨ values.getLast? = some 0
  counted : values.count 0 = header.numClauses
  formula : f = ⟨header.numVars, (ClauseStream.cut values).1.map (List.map Literal.ofSigned)⟩

section Words

theorem bind_eq_ok {ε α β : Type} {first : Except ε α} {next : α → Except ε β} {result : β}
    (accepted : first >>= next = .ok result) :
    ∃ value, first = .ok value ∧ next value = .ok result := by
  cases first with
  | error error => cases accepted
  | ok value => exact ⟨value, rfl, accepted⟩

theorem readToken_eq_ok_iff {numVars : Nat} (bounded : numVars ≤ maxVar) {s t : ClauseStream}
    {token : List Char} :
    readToken numVars s token = .ok t ↔
      ∃ value, IsSigned token value ∧ value.natAbs ≤ numVars ∧ t = s.take value := by
  unfold readToken
  cases read : Text.Decimal.signed? token with
  | none =>
      constructor
      · intro accepted
        cases accepted
      · rintro ⟨value, written, _⟩
        rw [Text.Decimal.signed?_eq_some_iff.mpr written] at read
        cases read
  | some value =>
      have unique : ∀ other, IsSigned token other ↔ value = other := by
        intro other
        rw [← Text.Decimal.signed?_eq_some_iff, read, Option.some.injEq]
      simp only [unique, exists_eq_left']
      by_cases zero : value = 0
      · simp only [zero, if_true, ClauseStream.take, Int.natAbs_zero, Nat.zero_le, true_and]
        exact ⟨fun accepted => (Except.ok.inj accepted).symm, fun same => congrArg Except.ok same.symm⟩
      by_cases large : maxVar < value.natAbs
      · have beyond : ¬ value.natAbs ≤ numVars := by omega
        simp only [zero, Literal.ofInt?, large, or_true, if_true, if_false, beyond, false_and,
          iff_false]
        intro accepted
        cases accepted
      · have small : value.natAbs ≤ 2147483647 := Nat.not_lt.mp large
        have index : (Literal.ofSigned value).index = value.natAbs :=
          Literal.index_ofSigned (by omega)
        simp only [zero, Literal.ofInt?, large, or_false, if_false, index, ClauseStream.take]
        by_cases declared : value.natAbs ≤ numVars
        · simp only [declared, if_true, true_and]
          exact ⟨fun accepted => (Except.ok.inj accepted).symm,
            fun same => congrArg Except.ok same.symm⟩
        · simp only [declared, if_false, false_and, iff_false]
          intro accepted
          cases accepted

theorem readTokens_eq_ok_iff {numVars : Nat} (bounded : numVars ≤ maxVar) {s t : ClauseStream}
    {tokens : List (List Char)} :
    readTokens numVars s tokens = .ok t ↔
      ∃ values, List.Forall₂ IsSigned tokens values ∧
        (∀ value ∈ values, value.natAbs ≤ numVars) ∧ t = values.foldl ClauseStream.take s := by
  induction tokens generalizing s with
  | nil =>
      simp only [List.forall₂_nil_left_iff, exists_eq_left, List.not_mem_nil, false_implies,
        implies_true, true_and, List.foldl_nil]
      exact ⟨fun accepted => (Except.ok.inj accepted).symm, fun same => congrArg Except.ok same.symm⟩
  | cons token rest ih =>
      rw [readTokens, List.foldlM_cons]
      constructor
      · intro accepted
        cases first : readToken numVars s token with
        | error fault =>
            rw [first] at accepted
            cases accepted
        | ok next =>
            rw [first] at accepted
            obtain ⟨value, written, declared, rfl⟩ := (readToken_eq_ok_iff bounded).mp first
            obtain ⟨values, later, laterDeclared, rfl⟩ := ih.mp accepted
            exact ⟨value :: values, .cons written later,
              List.forall_mem_cons.mpr ⟨declared, laterDeclared⟩, rfl⟩
      · rintro ⟨values, written, declared, rfl⟩
        cases written with
        | @cons _ value _ values first later =>
            obtain ⟨firstDeclared, laterDeclared⟩ := List.forall_mem_cons.mp declared
            have taken := (readToken_eq_ok_iff bounded (s := s)).mpr
              ⟨value, first, firstDeclared, rfl⟩
            rw [taken]
            exact ih.mpr ⟨values, later, laterDeclared, rfl⟩

theorem readCount?_eq_ok_iff {limit count : Nat} {fault : Fault} {words rest : List (List Char)} :
    Header.ofWords?.readCount? limit fault words = .ok (count, rest) ↔
      ∃ word, words = word :: rest ∧ IsUnsigned word count ∧ count < limit := by
  cases words with
  | nil =>
      constructor
      · intro accepted
        cases accepted
      · rintro ⟨word, absent, _⟩
        cases absent
  | cons word later =>
      constructor
      · intro accepted
        simp only [Header.ofWords?.readCount?] at accepted
        split at accepted
        · rename_i found read
          split at accepted
          · rename_i small
            cases accepted
            exact ⟨word, rfl, Text.Decimal.unsigned?_eq_some_iff.mp read, small⟩
          · cases accepted
        · cases accepted
      · rintro ⟨found, same, written, small⟩
        cases same
        simp only [Header.ofWords?.readCount?, Text.Decimal.unsigned?_eq_some_iff.mpr written,
          small, if_true]
        rfl

theorem Header.ofWords?_eq_ok_iff {words : List (List Char)} {header : Header} :
    Header.ofWords? words = .ok header ↔
      (∃ vars clauses, words = [['p'], ['c', 'n', 'f'], vars, clauses] ∧
        IsUnsigned vars header.numVars ∧ IsUnsigned clauses header.numClauses) ∧
      header.numVars ≤ 2147483647 ∧ header.numClauses < 2 ^ 64 := by
  constructor
  · intro accepted
    unfold Header.ofWords? at accepted
    split at accepted
    · rename_i rest
      obtain ⟨⟨numVars, afterVars⟩, first, others⟩ := bind_eq_ok accepted
      obtain ⟨⟨numClauses, trailing⟩, second, complete⟩ := bind_eq_ok others
      obtain ⟨vars, rfl, varsWritten, varsSmall⟩ := readCount?_eq_ok_iff.mp first
      obtain ⟨clauses, rfl, clausesWritten, clausesSmall⟩ := readCount?_eq_ok_iff.mp second
      cases trailing with
      | nil =>
          cases complete
          exact ⟨⟨vars, clauses, rfl, varsWritten, clausesWritten⟩,
            Nat.le_of_lt_succ varsSmall, clausesSmall⟩
      | cons word more => cases complete
    · cases accepted
  · rintro ⟨⟨vars, clauses, rfl, varsWritten, clausesWritten⟩, varsSmall, clausesSmall⟩
    have first : Header.ofWords?.readCount? (maxVar + 1) .badVariableCount [vars, clauses] =
        .ok (header.numVars, [clauses]) :=
      readCount?_eq_ok_iff.mpr ⟨vars, rfl, varsWritten, Nat.lt_succ_of_le varsSmall⟩
    have second : Header.ofWords?.readCount? clauseCountLimit .badClauseCount [clauses] =
        .ok (header.numClauses, []) :=
      readCount?_eq_ok_iff.mpr ⟨clauses, rfl, clausesWritten, clausesSmall⟩
    simp only [Header.ofWords?, first, second, bind, Except.bind, List.isEmpty_nil, if_true]
    rfl

theorem declares_iff {cs : List Char} {header : Header} (marked : firstMark? cs = some 'p') :
    Declares cs header ↔ Header.ofWords? (fields cs) = .ok header := by
  rw [Header.ofWords?_eq_ok_iff]
  constructor
  · intro declares
    exact ⟨declares.counts, declares.numVars_le, declares.numClauses_lt⟩
  · rintro ⟨counts, varsSmall, clausesSmall⟩
    exact ⟨marked, counts, varsSmall, clausesSmall⟩

end Words

section Lines

theorem readAs_cons_iff {cs : List Char} {rest : List (List UInt8)} {texts : List (List Char)} :
    ReadAs (encode cs :: rest) texts ↔
      firstMark? cs = some '%' ∧ texts = [] ∨
        firstMark? cs ≠ some '%' ∧ ∃ later, texts = cs :: later ∧ ReadAs rest later := by
  constructor
  · intro read
    generalize same : encode cs :: rest = lines at read
    cases read with
    | done => cases same
    | mark marked =>
        obtain ⟨sameLine, _⟩ := List.cons.inj same
        rw [encode_injective sameLine]
        exact .inl ⟨marked, rfl⟩
    | line unmarked later =>
        obtain ⟨sameLine, rfl⟩ := List.cons.inj same
        rw [encode_injective sameLine]
        exact .inr ⟨unmarked, _, rfl, later⟩
  · rintro (⟨marked, rfl⟩ | ⟨unmarked, later, rfl, read⟩)
    · exact .mark marked
    · exact .line unmarked read

theorem readAs_decodes {line : List UInt8} {rest : List (List UInt8)} {texts : List (List Char)}
    (read : ReadAs (line :: rest) texts) : ∃ cs, decodeLine? line = some cs := by
  cases read with
  | mark _ => exact ⟨_, decodeLine?_encode _⟩
  | line _ _ => exact ⟨_, decodeLine?_encode _⟩

theorem effective_cons (cs : List Char) (texts : List (List Char)) :
    effective (cs :: texts) =
      if firstMark? cs = none ∨ firstMark? cs = some 'c' then effective texts
      else cs :: effective texts := by
  unfold effective
  by_cases blank : firstMark? cs = none
  · simp [blank]
  · by_cases comment : firstMark? cs = some 'c' <;> simp [blank, comment]

theorem lists_cons_iff {numVars : Nat} {cs : List Char} {body : List (List Char)}
    {values : List Int} :
    Lists numVars (cs :: body) values ↔
      firstMark? cs ≠ some 'p' ∧ ∃ own later, values = own ++ later ∧
        List.Forall₂ IsSigned (fields cs) own ∧ (∀ value ∈ own, value.natAbs ≤ numVars) ∧
        Lists numVars body later := by
  constructor
  · rintro ⟨unmarked, signed, declared⟩
    obtain ⟨first, others⟩ := List.forall_mem_cons.mp unmarked
    rw [List.flatMap_cons] at signed
    have own := List.forall₂_take_append _ _ _ signed.flip
    have later := List.forall₂_drop_append _ _ _ signed.flip
    refine ⟨first, _, _, (List.take_append_drop _ values).symm, own.flip, ?_, others, later.flip, ?_⟩
    · exact fun value member => declared value (List.mem_of_mem_take member)
    · exact fun value member => declared value (List.mem_of_mem_drop member)
  · rintro ⟨first, own, later, rfl, ownSigned, ownDeclared, others⟩
    refine ⟨List.forall_mem_cons.mpr ⟨first, others.unmarked⟩, ?_, ?_⟩
    · exact List.rel_append ownSigned others.signed
    · exact List.forall_mem_append.mpr ⟨ownDeclared, others.declared⟩

end Lines

namespace Progress

/-- The stream holds the clauses that the header announces, and no open one. -/
def Completes (header : Header) (stream : ClauseStream) (f : Formula) : Prop :=
  stream.isOpen = false ∧ stream.clauses.length = header.numClauses ∧
    f = ⟨header.numVars, stream.clauses⟩

theorem finish_eq_ok_iff_completes {n : Nat} {header : Header} {stream : ClauseStream}
    {f : Formula} : finish ⟨n, some header, stream⟩ = .ok f ↔ Completes header stream f := by
  rw [finish_eq_ok_iff]
  constructor
  · rintro ⟨other, same, complete⟩
    cases same
    exact complete
  · exact fun complete => ⟨header, rfl, complete⟩

/-- Reads lines that are texts and go on, as far as one of them is refused. -/
def readTexts (p : Progress) : List (List Char) → Reading
  | [] => .more p
  | cs :: rest =>
    match { p with lines := p.lines + 1 }.apply (Line.ofChars cs) with
    | .more q => q.readTexts rest
    | .answer result => .answer result

theorem readLines_not_text {p : Progress} {line : List UInt8} (unreadable : decodeLine? line = none)
    (rest : List (List UInt8)) :
    p.readLines (line :: rest) = .answer (.error (.stream .notUtf8)) := by
  simp only [readLines, readLine, unreadable]

theorem readLines_encode_cons (p : Progress) (cs : List Char) (rest : List (List UInt8)) :
    p.readLines (encode cs :: rest) =
      match { p with lines := p.lines + 1 }.apply (Line.ofChars cs) with
      | .more q => q.readLines rest
      | .answer result => .answer result := by
  cases applied : apply { p with lines := p.lines + 1 } (Line.ofChars cs) with
  | more q => simp only [readLines, readLine, decodeLine?_encode, applied]
  | answer result => simp only [readLines, readLine, decodeLine?_encode, applied]

theorem endMark_of_apply {p : Progress} {line : Line} {f : Formula}
    (accepted : p.apply line = .answer (.ok f)) : line = .endMark := by
  obtain ⟨lines, header, stream⟩ := p
  cases line with
  | skipped => cases accepted
  | endMark => rfl
  | header words =>
      cases header with
      | some header => cases accepted
      | none =>
          simp only [Progress.apply] at accepted
          split at accepted <;> cases accepted
  | literals words =>
      cases header with
      | none => cases accepted
      | some header =>
          simp only [Progress.apply] at accepted
          split at accepted <;> cases accepted

theorem readLines_eq_ok_iff {p : Progress} {lines : List (List UInt8)} {f : Formula} :
    (p.readLines lines).result = .ok f ↔
      ∃ texts, ReadAs lines texts ∧ (p.readTexts texts).result = .ok f := by
  induction lines generalizing p with
  | nil =>
      constructor
      · exact fun accepted => ⟨[], .done, accepted⟩
      · rintro ⟨texts, read, accepted⟩
        cases read
        exact accepted
  | cons line rest ih =>
      cases decoded : decodeLine? line with
      | none =>
          rw [readLines_not_text decoded]
          constructor
          · intro accepted
            cases accepted
          · rintro ⟨texts, read, _⟩
            obtain ⟨cs, found⟩ := readAs_decodes read
            rw [decoded] at found
            cases found
      | some cs =>
          obtain rfl := decodeLine?_eq_some_iff.mp decoded
          rw [readLines_encode_cons]
          simp only [readAs_cons_iff]
          by_cases marked : firstMark? cs = some '%'
          · simp only [marked, ne_eq, not_true_eq_false, true_and, false_and, or_false,
              exists_eq_left, Line.ofChars_eq_endMark_iff.mpr marked]
            -- Whether the line of the mark is counted makes no difference to what is accepted.
            change finish { p with lines := p.lines + 1 } = .ok f ↔ p.finish = .ok f
            rw [finish_eq_ok_iff, finish_eq_ok_iff]
          · simp only [marked, ne_eq, not_false_eq_true, true_and, false_and, false_or]
            cases applied : apply { p with lines := p.lines + 1 } (Line.ofChars cs) with
            | more q =>
                refine ih.trans ⟨?_, ?_⟩
                · rintro ⟨texts, read, accepted⟩
                  exact ⟨cs :: texts, ⟨texts, rfl, read⟩, by simpa [readTexts, applied] using accepted⟩
                · rintro ⟨_, ⟨texts, rfl, read⟩, accepted⟩
                  exact ⟨texts, read, by simpa [readTexts, applied] using accepted⟩
            | answer result =>
                constructor
                · intro accepted
                  obtain rfl : result = .ok f := accepted
                  -- No other line ends the reading with a formula.
                  have ends := endMark_of_apply applied
                  exact absurd (Line.ofChars_eq_endMark_iff.mp ends) marked
                · rintro ⟨_, ⟨texts, rfl, read⟩, accepted⟩
                  simpa [readTexts, applied] using accepted

theorem readTexts_body_iff {n : Nat} {header : Header} (bounded : header.numVars ≤ maxVar)
    {stream : ClauseStream} {texts : List (List Char)}
    (unmarked : ∀ cs ∈ texts, firstMark? cs ≠ some '%') {f : Formula} :
    (readTexts ⟨n, some header, stream⟩ texts).result = .ok f ↔
      ∃ values, Lists header.numVars (effective texts) values ∧
        Completes header (values.foldl ClauseStream.take stream) f := by
  -- Each line hands the stream on to the next, so the induction is over every stream.
  induction texts generalizing n stream with
  | nil =>
      rw [readTexts, Reading.result, finish_eq_ok_iff_completes]
      constructor
      · exact fun complete => ⟨[], ⟨by simp [effective], .nil, by simp⟩, complete⟩
      · rintro ⟨values, lists, complete⟩
        cases lists.signed
        exact complete
  | cons cs rest ih =>
      obtain ⟨first, later⟩ := List.forall_mem_cons.mp unmarked
      obtain ⟨skips, kind⟩ | ⟨marked, kind⟩ | ⟨problem, kind⟩ | ⟨others, kind⟩ :=
        Line.ofChars_cases cs
      · rw [effective_cons, if_pos skips, readTexts, kind]
        exact ih later
      · exact absurd marked first
      · rw [readTexts, kind, effective_cons, if_neg (by simp [problem])]
        constructor
        · intro accepted
          cases accepted
        · rintro ⟨values, lists, _⟩
          exact absurd problem (lists_cons_iff.mp lists).1
      · obtain ⟨filled, uncomment, _, unproblem⟩ := others
        rw [readTexts, kind, effective_cons, if_neg (by simp [filled, uncomment])]
        simp only [Progress.apply, lists_cons_iff]
        constructor
        · intro accepted
          cases taken : readTokens header.numVars stream (fields cs) with
          | error fault =>
              rw [taken] at accepted
              cases accepted
          | ok next =>
              rw [taken] at accepted
              obtain ⟨own, signed, declared, rfl⟩ := (readTokens_eq_ok_iff bounded).mp taken
              obtain ⟨values, lists, complete⟩ := (ih later).mp accepted
              refine ⟨own ++ values, ⟨unproblem, own, values, rfl, signed, declared, lists⟩, ?_⟩
              rwa [List.foldl_append]
        · rintro ⟨_, ⟨_, own, values, rfl, signed, declared, lists⟩, complete⟩
          have taken := (readTokens_eq_ok_iff bounded (s := stream)).mpr ⟨own, signed, declared, rfl⟩
          rw [List.foldl_append] at complete
          rw [taken]
          exact (ih later).mpr ⟨values, lists, complete⟩

/-- Before the problem line there is nothing but what is skipped. -/
theorem readTexts_start_iff {n : Nat} {texts : List (List Char)}
    (unmarked : ∀ cs ∈ texts, firstMark? cs ≠ some '%') {f : Formula} :
    (readTexts ⟨n, none, .empty⟩ texts).result = .ok f ↔
      ∃ problem body header values, effective texts = problem :: body ∧ Declares problem header ∧
        Lists header.numVars body values ∧ Completes header (.ofInts values) f := by
  induction texts generalizing n with
  | nil =>
      constructor
      · intro accepted
        cases accepted
      · rintro ⟨_, _, _, _, absent, _⟩
        cases absent
  | cons cs rest ih =>
      obtain ⟨first, later⟩ := List.forall_mem_cons.mp unmarked
      obtain ⟨skips, kind⟩ | ⟨marked, kind⟩ | ⟨problem, kind⟩ | ⟨others, kind⟩ :=
        Line.ofChars_cases cs
      · rw [effective_cons, if_pos skips, readTexts, kind]
        exact ih later
      · exact absurd marked first
      · rw [readTexts, kind, effective_cons, if_neg (by simp [problem])]
        simp only [Progress.apply]
        constructor
        · intro accepted
          cases declared : Header.ofWords? (fields cs) with
          | error fault =>
              rw [declared] at accepted
              cases accepted
          | ok header =>
              rw [declared] at accepted
              have declares := (declares_iff problem).mpr declared
              obtain ⟨values, lists, complete⟩ :=
                (readTexts_body_iff declares.numVars_le later).mp accepted
              exact ⟨cs, effective rest, header, values, rfl, declares, lists, complete⟩
        · rintro ⟨_, _, header, values, same, declares, lists, complete⟩
          cases same
          rw [(declares_iff problem).mp declares]
          exact (readTexts_body_iff declares.numVars_le later).mpr ⟨values, lists, complete⟩
      · obtain ⟨filled, uncomment, _, unproblem⟩ := others
        rw [readTexts, kind, effective_cons, if_neg (by simp [filled, uncomment])]
        constructor
        · intro accepted
          cases accepted
        · rintro ⟨_, _, _, _, same, declares, _⟩
          cases same
          exact absurd declares.marked unproblem

end Progress

theorem ReadAs.unmarked {lines : List (List UInt8)} {texts : List (List Char)}
    (read : ReadAs lines texts) : ∀ cs ∈ texts, firstMark? cs ≠ some '%' := by
  induction read with
  | done => simp
  | mark _ => simp
  | line first _ ih => exact List.forall_mem_cons.mpr ⟨first, ih⟩

theorem completes_ofInts_iff {header : Header} {values : List Int} {f : Formula} :
    Progress.Completes header (.ofInts values) f ↔
      (values = [] ∨ values.getLast? = some 0) ∧ values.count 0 = header.numClauses ∧
        f = ⟨header.numVars, (ClauseStream.cut values).1.map (List.map Literal.ofSigned)⟩ := by
  obtain ⟨closed, opened⟩ := ClauseStream.clauses_ofInts values
  rw [Progress.Completes, ClauseStream.isOpen_eq_false_iff, opened, closed, List.map_eq_nil_iff,
    ClauseStream.cut_closed_iff, List.length_map, ClauseStream.length_cut]

theorem readLines_eq_ok_iff_analysis {bytes : List UInt8} {f : Formula} :
    (Progress.start.readLines (bytes.splitOn newline)).result = .ok f ↔
      Nonempty (Analysis bytes f) := by
  rw [Progress.readLines_eq_ok_iff]
  constructor
  · rintro ⟨texts, readAs, accepted⟩
    obtain ⟨problem, body, header, values, split, declares, lists, complete⟩ :=
      (Progress.readTexts_start_iff readAs.unmarked).mp accepted
    obtain ⟨terminated, counted, formula⟩ := completes_ofInts_iff.mp complete
    exact ⟨⟨texts, problem, body, header, values, readAs, split, declares, lists, terminated,
      counted, formula⟩⟩
  · rintro ⟨analysis⟩
    have complete := completes_ofInts_iff.mpr
      ⟨analysis.terminated, analysis.counted, analysis.formula⟩
    refine ⟨analysis.texts, analysis.readAs, ?_⟩
    exact (Progress.readTexts_start_iff analysis.readAs.unmarked).mpr
      ⟨_, _, _, _, analysis.split, analysis.declares, analysis.lists, complete⟩

/-- The parser accepts the texts of the grammar, in whatever pieces they arrive, and no others. -/
theorem parse_eq_ok_iff_analysis (pieces : List (List UInt8)) (f : Formula) :
    parse ⟨pieces, none⟩ = .ok f ↔ Nonempty (Analysis pieces.flatten f) :=
  (parse_eq_ok_iff_readLines pieces f).trans readLines_eq_ok_iff_analysis

end SatBridge.Dimacs
