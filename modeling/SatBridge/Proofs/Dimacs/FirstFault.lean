import SatBridge.Proofs.Dimacs.Grammar

/-!
# The first fault of a text

What is wrong with a line depends on the lines before it and on nothing behind it. Main statement:
the parser refuses a text for the first line that is wrong and for the first fault in that line,
with the number of the line and the words for the fault, and only a text without such a line is
judged as a whole.
-/

set_option autoImplicit false

namespace SatBridge.Dimacs

open Text (firstMark? fields)
open Text.Decimal (IsSigned IsUnsigned)

def problem? (texts : List (List Char)) : Option (List Char) :=
  texts.find? fun cs => firstMark? cs = some 'p'

def HoldsLiterals (cs : List Char) : Prop :=
  firstMark? cs ≠ none ∧ firstMark? cs ≠ some 'c' ∧ firstMark? cs ≠ some '%' ∧
    firstMark? cs ≠ some 'p'

/-- The word is zero or an integer for a literal over a declared variable. -/
def Fits (numVars : Nat) (word : List Char) : Prop :=
  ∃ value, IsSigned word value ∧ value.natAbs ≤ numVars

/-- The line may not follow the lines `before`. -/
inductive Violates (before : List (List Char)) (cs : List Char) : Prop where
  | repeated {problem} :
      firstMark? cs = some 'p' → problem? before = some problem → Violates before cs
  | undeclaring :
      firstMark? cs = some 'p' → problem? before = none → (∀ header, ¬ Declares cs header) →
      Violates before cs
  | early : HoldsLiterals cs → problem? before = none → Violates before cs
  | unfit {problem header word} :
      HoldsLiterals cs → problem? before = some problem → Declares problem header →
      word ∈ fields cs → ¬ Fits header.numVars word → Violates before cs

def BeginsWithCount (limit : Nat) (words : List (List Char)) : Prop :=
  ∃ word rest count, words = word :: rest ∧ IsUnsigned word count ∧ count < limit

/-- The first thing that is wrong with the words of a problem line. -/
inductive HeaderFault : List (List Char) → Fault → Prop where
  | malformed {words} :
      (∀ rest, words ≠ ['p'] :: ['c', 'n', 'f'] :: rest) → HeaderFault words .malformedHeader
  | variableCount {rest} :
      ¬ BeginsWithCount (2 ^ 31) rest →
      HeaderFault (['p'] :: ['c', 'n', 'f'] :: rest) .badVariableCount
  | clauseCount {vars numVars rest} :
      IsUnsigned vars numVars → numVars < 2 ^ 31 → ¬ BeginsWithCount (2 ^ 64) rest →
      HeaderFault (['p'] :: ['c', 'n', 'f'] :: vars :: rest) .badClauseCount
  | trailing {vars numVars clauses numClauses word rest} :
      IsUnsigned vars numVars → numVars < 2 ^ 31 →
      IsUnsigned clauses numClauses → numClauses < 2 ^ 64 →
      HeaderFault (['p'] :: ['c', 'n', 'f'] :: vars :: clauses :: word :: rest)
        .trailingHeaderTokens

inductive TokenFault (numVars : Nat) (token : List Char) : Fault → Prop where
  | noLiteral :
      (∀ value, IsSigned token value → 2 ^ 31 ≤ value.natAbs) →
      TokenFault numVars token (.badLiteral (String.ofList token))
  | undeclared {value} :
      IsSigned token value → value.natAbs < 2 ^ 31 → numVars < value.natAbs →
      TokenFault numVars token (.variableTooLarge value.natAbs numVars)

/-- The first thing that is wrong with a line that follows the lines `before`. -/
inductive FaultAt (before : List (List Char)) (cs : List Char) : Fault → Prop where
  | repeated {problem} :
      firstMark? cs = some 'p' → problem? before = some problem →
      FaultAt before cs .duplicateHeader
  | undeclaring {fault} :
      firstMark? cs = some 'p' → problem? before = none → HeaderFault (fields cs) fault →
      FaultAt before cs fault
  | early : HoldsLiterals cs → problem? before = none → FaultAt before cs .literalsBeforeHeader
  | unfit {problem header first token rest fault} :
      HoldsLiterals cs → problem? before = some problem → Declares problem header →
      fields cs = first ++ token :: rest → (∀ word ∈ first, Fits header.numVars word) →
      TokenFault header.numVars token fault → FaultAt before cs fault

/-- Every line may follow those before it, and none is an end mark. -/
inductive Flawless : List (List Char) → Prop where
  | nil : Flawless []
  | snoc {before cs} :
      Flawless before → firstMark? cs ≠ some '%' → ¬ Violates before cs →
      Flawless (before ++ [cs])

section Words

theorem readCount?_eq_error_iff {limit : Nat} {fault found : Fault} {words : List (List Char)} :
    Header.ofWords?.readCount? limit fault words = .error found ↔
      found = fault ∧ ¬ BeginsWithCount limit words := by
  cases read : Header.ofWords?.readCount? limit fault words with
  | ok result =>
      obtain ⟨count, rest⟩ := result
      obtain ⟨word, same, written, small⟩ := readCount?_eq_ok_iff.mp read
      have begins : BeginsWithCount limit words := ⟨word, rest, count, same, written, small⟩
      simp [begins]
  | error other =>
      have absent : ¬ BeginsWithCount limit words := by
        intro begins
        obtain ⟨word, rest, count, same, written, small⟩ := begins
        rw [readCount?_eq_ok_iff.mpr ⟨word, same, written, small⟩] at read
        cases read
      have own : other = fault := by
        cases words with
        | nil =>
            cases read
            rfl
        | cons word rest =>
            simp only [Header.ofWords?.readCount?] at read
            split at read
            · split at read
              · cases read
              · cases read
                rfl
            · cases read
              rfl
      simp [absent, own, eq_comm]

theorem headerFault_of_ofWords? {words : List (List Char)} {fault : Fault}
    (refused : Header.ofWords? words = .error fault) : HeaderFault words fault := by
  unfold Header.ofWords? at refused
  split at refused
  · rename_i rest
    cases first : Header.ofWords?.readCount? (maxVar + 1) .badVariableCount rest with
    | error other =>
        rw [first] at refused
        cases refused
        obtain ⟨rfl, absent⟩ := readCount?_eq_error_iff.mp first
        exact .variableCount absent
    | ok numbered =>
        obtain ⟨numVars, afterVars⟩ := numbered
        obtain ⟨vars, rfl, varsWritten, varsSmall⟩ := readCount?_eq_ok_iff.mp first
        cases second : Header.ofWords?.readCount? clauseCountLimit .badClauseCount afterVars with
        | error other =>
            simp only [first, second, bind, Except.bind] at refused
            cases refused
            obtain ⟨rfl, absent⟩ := readCount?_eq_error_iff.mp second
            exact .clauseCount varsWritten varsSmall absent
        | ok counted =>
            obtain ⟨numClauses, trailing⟩ := counted
            obtain ⟨clauses, rfl, clausesWritten, clausesSmall⟩ := readCount?_eq_ok_iff.mp second
            simp only [first, second, bind, Except.bind] at refused
            cases trailing with
            | nil => cases refused
            | cons word more =>
                cases refused
                exact .trailing varsWritten varsSmall clausesWritten clausesSmall
  · rename_i unstarted
    cases refused
    exact .malformed unstarted

theorem ofWords?_of_headerFault {words : List (List Char)} {fault : Fault}
    (wrong : HeaderFault words fault) : Header.ofWords? words = .error fault := by
  cases wrong with
  | malformed unstarted =>
      unfold Header.ofWords?
      split
      · exact absurd rfl (unstarted _)
      · rfl
  | @variableCount rest absent =>
      have first : Header.ofWords?.readCount? (maxVar + 1) .badVariableCount rest =
          .error .badVariableCount :=
        readCount?_eq_error_iff.mpr ⟨rfl, absent⟩
      simp only [Header.ofWords?, first, bind, Except.bind]
  | @clauseCount vars numVars rest varsWritten varsSmall absent =>
      have first : Header.ofWords?.readCount? (maxVar + 1) .badVariableCount (vars :: rest) =
          .ok (numVars, rest) :=
        readCount?_eq_ok_iff.mpr ⟨vars, rfl, varsWritten, varsSmall⟩
      have second : Header.ofWords?.readCount? clauseCountLimit .badClauseCount rest =
          .error .badClauseCount :=
        readCount?_eq_error_iff.mpr ⟨rfl, absent⟩
      simp only [Header.ofWords?, first, second, bind, Except.bind]
  | @trailing vars numVars clauses numClauses word rest varsWritten varsSmall clausesWritten
      clausesSmall =>
      have first : Header.ofWords?.readCount? (maxVar + 1) .badVariableCount
          (vars :: clauses :: word :: rest) = .ok (numVars, clauses :: word :: rest) :=
        readCount?_eq_ok_iff.mpr ⟨vars, rfl, varsWritten, varsSmall⟩
      have second : Header.ofWords?.readCount? clauseCountLimit .badClauseCount
          (clauses :: word :: rest) = .ok (numClauses, word :: rest) :=
        readCount?_eq_ok_iff.mpr ⟨clauses, rfl, clausesWritten, clausesSmall⟩
      simp only [Header.ofWords?, first, second, bind, Except.bind]
      rfl

theorem Header.ofWords?_eq_error_iff {words : List (List Char)} {fault : Fault} :
    Header.ofWords? words = .error fault ↔ HeaderFault words fault :=
  ⟨headerFault_of_ofWords?, ofWords?_of_headerFault⟩

/-- A problem line without a fault declares a header. -/
theorem exists_headerFault_iff {cs : List Char} (marked : firstMark? cs = some 'p') :
    (∃ fault, HeaderFault (fields cs) fault) ↔ ∀ header, ¬ Declares cs header := by
  simp only [declares_iff marked, ← Header.ofWords?_eq_error_iff]
  cases Header.ofWords? (fields cs) with
  | error fault => simp
  | ok header => simp

theorem TokenFault.readToken {numVars : Nat} {token : List Char} {fault : Fault}
    (wrong : TokenFault numVars token fault) (s : ClauseStream) :
    readToken numVars s token = .error fault := by
  cases wrong with
  | noLiteral unwritten =>
      unfold Dimacs.readToken
      cases read : Text.Decimal.signed? token with
      | none => rfl
      | some value =>
          have large : 2 ^ 31 ≤ value.natAbs :=
            unwritten value (Text.Decimal.signed?_eq_some_iff.mp read)
          have nonzero : value ≠ 0 := by omega
          have beyond : maxVar < value.natAbs := large
          simp only [nonzero, if_false, Literal.ofInt?, beyond, or_true, if_true]
          rfl
  | @undeclared value written small beyond =>
      have nonzero : value ≠ 0 := by omega
      have inRange : ¬ (value = 0 ∨ maxVar < value.natAbs) := by
        unfold maxVar
        omega
      have literal : Literal.ofInt? value = .ok (.ofSigned value) := if_neg inRange
      have index : (Literal.ofSigned value).index = value.natAbs :=
        Literal.index_ofSigned (by omega)
      unfold Dimacs.readToken
      simp only [Text.Decimal.signed?_eq_some_iff.mpr written, nonzero, if_false, literal, index,
        Nat.not_le.mpr beyond]
      rfl

theorem exists_tokenFault {numVars : Nat} {token : List Char} (unfit : ¬ Fits numVars token) :
    ∃ fault, TokenFault numVars token fault := by
  by_cases literal : ∃ value, IsSigned token value ∧ value.natAbs < 2 ^ 31
  · obtain ⟨value, written, small⟩ := literal
    have beyond : numVars < value.natAbs :=
      Nat.not_le.mp fun declared => unfit ⟨value, written, declared⟩
    exact ⟨_, .undeclared written small beyond⟩
  · exact ⟨_, .noLiteral fun value written =>
      Nat.not_lt.mp fun small => literal ⟨value, written, small⟩⟩

theorem fits_iff {numVars : Nat} (bounded : numVars ≤ maxVar) (s : ClauseStream)
    {token : List Char} : Fits numVars token ↔ ∃ t, readToken numVars s token = .ok t := by
  simp only [readToken_eq_ok_iff bounded]
  constructor
  · intro fits
    obtain ⟨value, written, declared⟩ := fits
    exact ⟨_, value, written, declared, rfl⟩
  · intro accepted
    obtain ⟨_, value, written, declared, _⟩ := accepted
    exact ⟨value, written, declared⟩

theorem TokenFault.not_fits {numVars : Nat} (bounded : numVars ≤ maxVar) {token : List Char}
    {fault : Fault} (wrong : TokenFault numVars token fault) : ¬ Fits numVars token := by
  rw [fits_iff bounded .empty, wrong.readToken]
  simp

/-- A line of literals is refused for the first word that does not fit. -/
theorem readTokens_eq_error_iff {numVars : Nat} (bounded : numVars ≤ maxVar) {s : ClauseStream}
    {tokens : List (List Char)} {fault : Fault} :
    readTokens numVars s tokens = .error fault ↔
      ∃ first token rest, tokens = first ++ token :: rest ∧ (∀ word ∈ first, Fits numVars word) ∧
        TokenFault numVars token fault := by
  induction tokens generalizing s with
  | nil =>
      constructor
      · intro refused
        cases refused
      · intro split
        obtain ⟨first, token, rest, same, _⟩ := split
        cases first <;> cases same
  | cons token tokens ih =>
      rw [readTokens, List.foldlM_cons]
      cases read : readToken numVars s token with
      | error other =>
          have unfit : ¬ Fits numVars token := by
            rw [fits_iff bounded s, read]
            simp
          obtain ⟨own, wrong⟩ := exists_tokenFault unfit
          rw [wrong.readToken] at read
          cases read
          constructor
          · intro refused
            cases refused
            exact ⟨[], token, tokens, rfl, by simp, wrong⟩
          · intro split
            obtain ⟨first, other, rest, same, fitting, wrongOther⟩ := split
            cases first with
            | nil =>
                cases same
                exact (wrong.readToken s).symm.trans (wrongOther.readToken s)
            | cons word first =>
                cases same
                exact absurd (List.forall_mem_cons.mp fitting).1 unfit
      | ok next =>
          have fits : Fits numVars token := (fits_iff bounded s).mpr ⟨next, read⟩
          refine (ih (s := next)).trans ⟨?_, ?_⟩
          · intro split
            obtain ⟨first, other, rest, rfl, fitting, wrong⟩ := split
            exact ⟨token :: first, other, rest, rfl,
              List.forall_mem_cons.mpr ⟨fits, fitting⟩, wrong⟩
          · intro split
            obtain ⟨first, other, rest, same, fitting, wrong⟩ := split
            cases first with
            | nil =>
                cases same
                exact absurd fits (wrong.not_fits bounded)
            | cons word first =>
                cases same
                exact ⟨first, other, rest, rfl, (List.forall_mem_cons.mp fitting).2, wrong⟩

theorem exists_values_of_fits {numVars : Nat} {tokens : List (List Char)}
    (fitting : ∀ word ∈ tokens, Fits numVars word) :
    ∃ values, List.Forall₂ IsSigned tokens values ∧ ∀ value ∈ values, value.natAbs ≤ numVars := by
  induction tokens with
  | nil => exact ⟨[], .nil, by simp⟩
  | cons token tokens ih =>
      obtain ⟨first, later⟩ := List.forall_mem_cons.mp fitting
      obtain ⟨value, written, declared⟩ := first
      obtain ⟨values, signed, others⟩ := ih later
      exact ⟨value :: values, .cons written signed, List.forall_mem_cons.mpr ⟨declared, others⟩⟩

end Words

section Lines

theorem ofChars_of_problem {cs : List Char} (marked : firstMark? cs = some 'p') :
    Line.ofChars cs = .header (fields cs) := by
  obtain ⟨skips, _⟩ | ⟨ended, _⟩ | ⟨_, kind⟩ | ⟨others, _⟩ := Line.ofChars_cases cs
  · rcases skips with blank | comment <;> simp_all
  · simp_all
  · exact kind
  · exact absurd marked others.2.2.2

theorem ofChars_of_literals {cs : List Char} (literals : HoldsLiterals cs) :
    Line.ofChars cs = .literals (fields cs) := by
  obtain ⟨filled, uncomment, unmarked, unproblem⟩ := literals
  obtain ⟨skips, _⟩ | ⟨ended, _⟩ | ⟨problem, _⟩ | ⟨_, kind⟩ := Line.ofChars_cases cs
  · rcases skips with blank | comment
    · exact absurd blank filled
    · exact absurd comment uncomment
  · exact absurd ended unmarked
  · exact absurd problem unproblem
  · exact kind

theorem effective_snoc (texts : List (List Char)) (cs : List Char) :
    effective (texts ++ [cs]) =
      if firstMark? cs = none ∨ firstMark? cs = some 'c' then effective texts
      else effective texts ++ [cs] := by
  have last : effective [cs] = if firstMark? cs = none ∨ firstMark? cs = some 'c' then []
      else [cs] := effective_cons cs []
  have split : effective (texts ++ [cs]) = effective texts ++ effective [cs] :=
    List.filter_append ..
  rw [split, last]
  split <;> simp

theorem problem?_effective (texts : List (List Char)) :
    problem? (effective texts) = problem? texts := by
  unfold problem? effective
  rw [List.find?_filter]
  refine congrArg (fun test => texts.find? test) (funext fun cs => ?_)
  by_cases problem : firstMark? cs = some 'p' <;> simp [problem]

theorem lists_snoc {numVars : Nat} {body : List (List Char)} {values own : List Int}
    {cs : List Char} (lists : Lists numVars body values) (unproblem : firstMark? cs ≠ some 'p')
    (signed : List.Forall₂ IsSigned (fields cs) own)
    (declared : ∀ value ∈ own, value.natAbs ≤ numVars) :
    Lists numVars (body ++ [cs]) (values ++ own) where
  unmarked := List.forall_mem_append.mpr ⟨lists.unmarked, by simpa using unproblem⟩
  signed := by
    rw [List.flatMap_append, List.flatMap_singleton]
    exact List.rel_append lists.signed signed
  declared := List.forall_mem_append.mpr ⟨lists.declared, declared⟩

/-- Where reading stands after lines that it did not refuse. -/
inductive Stands : List (List Char) → Progress → Prop where
  | silent {texts} : effective texts = [] → Stands texts ⟨texts.length, none, .empty⟩
  | started {texts problem body header values} :
      effective texts = problem :: body → Declares problem header →
      Lists header.numVars body values →
      Stands texts ⟨texts.length, some header, .ofInts values⟩

variable {texts : List (List Char)} {p : Progress} {cs : List Char} {fault : Fault}

theorem problem?_of_silent (silent : effective texts = []) : problem? texts = none := by
  rw [← problem?_effective, silent]
  rfl

theorem problem?_of_started {problem : List Char} {body : List (List Char)} {header : Header}
    (split : effective texts = problem :: body) (declares : Declares problem header) :
    problem? texts = some problem := by
  rw [← problem?_effective, split, problem?, List.find?_cons_of_pos]
  simpa using declares.marked

theorem Declares.unique {problem : List Char} {header other : Header}
    (declares : Declares problem header) (same : Declares problem other) : header = other := by
  have first := (declares_iff declares.marked).mp declares
  rw [(declares_iff declares.marked).mp same] at first
  exact (Except.ok.inj first).symm

theorem readLine_encode (p : Progress) (cs : List Char) :
    p.readLine (encode cs) = Progress.apply { p with lines := p.lines + 1 } (Line.ofChars cs) := by
  simp only [Progress.readLine, decodeLine?_encode]

theorem Stands.refused (stands : Stands texts p) (wrong : FaultAt texts cs fault) :
    p.readLine (encode cs) = .answer (refuse (texts.length + 1) fault) := by
  rw [readLine_encode]
  cases stands with
  | silent silent =>
      have unstarted := problem?_of_silent silent
      cases wrong with
      | repeated _ found =>
          rw [unstarted] at found
          cases found
      | undeclaring marked _ wrong =>
          simp only [ofChars_of_problem marked, Progress.apply,
            Header.ofWords?_eq_error_iff.mpr wrong]
      | early literals _ => simp only [ofChars_of_literals literals, Progress.apply]
      | unfit _ found =>
          rw [unstarted] at found
          cases found
  | @started _ _ header values split declares _ =>
      have started := problem?_of_started split declares
      cases wrong with
      | repeated marked _ => simp only [ofChars_of_problem marked, Progress.apply]
      | undeclaring _ absent _ =>
          rw [started] at absent
          cases absent
      | early _ absent =>
          rw [started] at absent
          cases absent
      | unfit literals found other words fitting wrong =>
          rw [started] at found
          cases found
          cases declares.unique other
          have refused := (readTokens_eq_error_iff declares.numVars_le (s := .ofInts values)).mpr
            ⟨_, _, _, words, fitting, wrong⟩
          simp only [ofChars_of_literals literals, Progress.apply, refused]

theorem Stands.accepted (stands : Stands texts p) (unmarked : firstMark? cs ≠ some '%')
    (clean : ¬ Violates texts cs) :
    ∃ q, p.readLine (encode cs) = .more q ∧ Stands (texts ++ [cs]) q := by
  have counted : texts.length + 1 = (texts ++ [cs]).length := by simp
  rw [readLine_encode]
  obtain ⟨skips, kind⟩ | ⟨ended, _⟩ | ⟨problem, kind⟩ | ⟨literals, kind⟩ := Line.ofChars_cases cs
  · have same := effective_snoc texts cs
    rw [if_pos skips] at same
    refine ⟨_, by rw [kind]; rfl, ?_⟩
    cases stands with
    | silent silent =>
        rw [counted]
        exact .silent (same.trans silent)
    | started split declares lists =>
        rw [counted]
        exact .started (same.trans split) declares lists
  · exact absurd ended unmarked
  · have grown := effective_snoc texts cs
    rw [if_neg (by simp [problem])] at grown
    cases stands with
    | silent silent =>
        have declared : ∃ header, Declares cs header := by
          by_contra none
          exact clean (.undeclaring problem (problem?_of_silent silent) (not_exists.mp none))
        obtain ⟨header, declares⟩ := declared
        rw [silent] at grown
        refine ⟨⟨texts.length + 1, some header, .empty⟩, ?_, ?_⟩
        · simp only [kind, Progress.apply, (declares_iff problem).mp declares]
        · rw [counted]
          exact .started grown declares ⟨by simp, .nil, by simp⟩
    | started split declares _ =>
        exact absurd (.repeated problem (problem?_of_started split declares)) clean
  · have grown := effective_snoc texts cs
    rw [if_neg (by simp [literals.1, literals.2.1])] at grown
    cases stands with
    | silent silent => exact absurd (.early literals (problem?_of_silent silent)) clean
    | @started problem body header values split declares lists =>
        have fitting : ∀ word ∈ fields cs, Fits header.numVars word := by
          intro word member
          by_contra unfit
          exact clean (.unfit literals (problem?_of_started split declares) declares member unfit)
        obtain ⟨own, signed, declared⟩ := exists_values_of_fits fitting
        have taken := (readTokens_eq_ok_iff declares.numVars_le (s := .ofInts values)).mpr
          ⟨own, signed, declared, rfl⟩
        have joined : own.foldl ClauseStream.take (.ofInts values) = .ofInts (values ++ own) :=
          (List.foldl_append ..).symm
        rw [joined] at taken
        rw [split] at grown
        refine ⟨⟨texts.length + 1, some header, .ofInts (values ++ own)⟩, ?_, ?_⟩
        · simp only [kind, Progress.apply, taken]
        · rw [counted]
          exact .started grown declares (lists_snoc lists literals.2.2.2 signed declared)

theorem Flawless.stands (flawless : Flawless texts) :
    ∃ p, Progress.start.readLines (texts.map encode) = .more p ∧ Stands texts p := by
  induction flawless with
  | nil => exact ⟨.start, rfl, .silent rfl⟩
  | @snoc before cs _ unmarked clean ih =>
      obtain ⟨p, read, stands⟩ := ih
      obtain ⟨q, next, after⟩ := stands.accepted unmarked clean
      refine ⟨q, ?_, after⟩
      rw [List.map_append, Progress.readLines_append, read]
      simp only [List.map_cons, List.map_nil, Progress.readLines, next]

theorem violates_iff : Violates texts cs ↔ ∃ fault, FaultAt texts cs fault := by
  constructor
  · intro violates
    cases violates with
    | repeated marked found => exact ⟨_, .repeated marked found⟩
    | undeclaring marked absent undeclared =>
        obtain ⟨fault, wrong⟩ := (exists_headerFault_iff marked).mpr undeclared
        exact ⟨fault, .undeclaring marked absent wrong⟩
    | early literals absent => exact ⟨_, .early literals absent⟩
    | unfit literals found declares member unfit =>
        obtain ⟨first, token, rest, words, fitting, unfit⟩ :=
          exists_first (fun word => ¬ Fits _ word) ⟨_, member, unfit⟩
        obtain ⟨fault, wrong⟩ := exists_tokenFault unfit
        refine ⟨fault, .unfit literals found declares words (fun word earlier => ?_) wrong⟩
        exact not_not.mp (fitting word earlier)
  · intro faulty
    obtain ⟨fault, wrong⟩ := faulty
    cases wrong with
    | repeated marked found => exact .repeated marked found
    | undeclaring marked absent wrong =>
        exact .undeclaring marked absent ((exists_headerFault_iff marked).mp ⟨fault, wrong⟩)
    | early literals absent => exact .early literals absent
    | unfit literals found declares words _ wrong =>
        exact .unfit literals found declares (by simp [words])
          (wrong.not_fits declares.numVars_le)

theorem flawless_or_violates (unmarked : ∀ cs ∈ texts, firstMark? cs ≠ some '%') :
    Flawless texts ∨
      ∃ before cs after, texts = before ++ cs :: after ∧ Flawless before ∧ Violates before cs := by
  induction texts using List.reverseRecOn with
  | nil => exact .inl .nil
  | append_singleton texts cs ih =>
      obtain ⟨earlier, last⟩ := List.forall_mem_append.mp unmarked
      rcases ih earlier with flawless | violated
      · by_cases violates : Violates texts cs
        · exact .inr ⟨texts, cs, [], rfl, flawless, violates⟩
        · exact .inl (.snoc flawless (last cs List.mem_cons_self) violates)
      · obtain ⟨before, wrong, after, rfl, flawless, violates⟩ := violated
        exact .inr ⟨before, wrong, after ++ [cs], by simp, flawless, violates⟩

end Lines

section Verdict

/-- The words for a fault. -/
inductive Worded : Fault → String → Prop where
  | duplicateHeader : Worded .duplicateHeader "duplicate 'p' line"
  | malformedHeader : Worded .malformedHeader "expected 'p cnf <vars> <clauses>'"
  | badVariableCount : Worded .badVariableCount "invalid variable count"
  | badClauseCount : Worded .badClauseCount "invalid clause count"
  | trailingHeaderTokens : Worded .trailingHeaderTokens "trailing tokens after header"
  | literalsBeforeHeader : Worded .literalsBeforeHeader "missing 'p' line before clauses"
  | badLiteral {token} : Worded (.badLiteral token) ("invalid literal '" ++ token ++ "'")
  | variableTooLarge {var declared} :
      Worded (.variableTooLarge var declared)
        ("variable " ++ toString var ++ " exceeds declared maximum " ++ toString declared)
  | missingHeader : Worded .missingHeader "missing 'p' line"
  | unterminatedClause : Worded .unterminatedClause "last clause is not terminated by 0"
  | clauseCountMismatch {declared found} :
      Worded (.clauseCountMismatch declared found)
        ("header declares " ++ toString declared ++ " clauses but " ++ toString found ++
          " were found")

theorem worded_message (fault : Fault) : Worded fault fault.message := by
  cases fault with
  | duplicateHeader => exact .duplicateHeader
  | malformedHeader => exact .malformedHeader
  | badVariableCount => exact .badVariableCount
  | badClauseCount => exact .badClauseCount
  | trailingHeaderTokens => exact .trailingHeaderTokens
  | literalsBeforeHeader => exact .literalsBeforeHeader
  | badLiteral token => exact .badLiteral
  | variableTooLarge var declared => exact .variableTooLarge
  | missingHeader => exact .missingHeader
  | unterminatedClause => exact .unterminatedClause
  | clauseCountMismatch declared found => exact .clauseCountMismatch

/-- The text is refused for a fault, and the error says in words which one it is and on which
line. -/
structure Refused (line : Nat) (fault : Fault) (result : Except Error Formula) : Prop where
  error : result = .error (.dimacs line fault)
  worded : Worded fault fault.message
  shown : (Error.dimacs line fault).message =
    "dimacs line " ++ toString line ++ ": " ++ fault.message

theorem refused_refuse (line : Nat) (fault : Fault) : Refused line fault (refuse line fault) where
  error := rfl
  worded := worded_message fault
  shown := rfl

/-- What a text without a wrong line comes to, when `count` lines of it were read. -/
inductive Judged (count : Nat) (header : Header) (values : List Int) :
    Except Error Formula → Prop where
  | unterminated {result} :
      values ≠ [] → values.getLast? ≠ some 0 → Refused count .unterminatedClause result →
      Judged count header values result
  | miscounted {result} :
      (values = [] ∨ values.getLast? = some 0) → values.count 0 ≠ header.numClauses →
      Refused count (.clauseCountMismatch header.numClauses (values.count 0)) result →
      Judged count header values result
  | accepted :
      (values = [] ∨ values.getLast? = some 0) → values.count 0 = header.numClauses →
      Judged count header values
        (.ok ⟨header.numVars, (ClauseStream.cut values).1.map (List.map Literal.ofSigned)⟩)

/-- Reading ends with the text or at an end mark. The line of the mark is counted as well. -/
inductive Ends : List (List UInt8) → Nat → Prop where
  | text : Ends [] 0
  | mark {cs rest} : firstMark? cs = some '%' → Ends (encode cs :: rest) 1

theorem judged_finish (count : Nat) (header : Header) (values : List Int) :
    Judged count header values (Progress.finish ⟨count, some header, .ofInts values⟩) := by
  obtain ⟨closed, opened⟩ := ClauseStream.clauses_ofInts values
  have ended : (ClauseStream.ofInts values).isOpen = false ↔
      values = [] ∨ values.getLast? = some 0 := by
    rw [ClauseStream.isOpen_eq_false_iff, opened, List.map_eq_nil_iff, ClauseStream.cut_closed_iff]
  have found : (ClauseStream.ofInts values).closed.length = values.count 0 := by
    rw [ClauseStream.length_closed, closed, List.length_map, ClauseStream.length_cut]
  cases isOpen : (ClauseStream.ofInts values).isOpen with
  | true =>
      have unended := not_or.mp ((not_congr ended).mp (by simp [isOpen]))
      simp only [Progress.finish, isOpen, if_true]
      exact .unterminated unended.1 unended.2 (refused_refuse ..)
  | false =>
      by_cases counted : values.count 0 = header.numClauses
      · simp only [Progress.finish, isOpen, found, counted, if_true, closed]
        exact .accepted (ended.mp isOpen) counted
      · simp only [Progress.finish, isOpen, found, counted, if_false]
        exact .miscounted (ended.mp isOpen) counted (refused_refuse ..)

theorem Ends.result {rest : List (List UInt8)} {marks : Nat}
    {p : Progress} (ends : Ends rest marks) :
    (p.readLines rest).result = Progress.finish { p with lines := p.lines + marks } := by
  cases ends with
  | text => rfl
  | mark marked =>
      simp only [Progress.readLines, readLine_encode, Line.ofChars_eq_endMark_iff.mpr marked,
        Progress.apply, Reading.result]

/-- How the lines of a text decide what is said about it. -/
structure Diagnosed (bytes : List UInt8) (result : Except Error Formula) : Prop where
  /-- The first line that is wrong decides, with the first fault in it and whatever follows. -/
  violated : ∀ before cs rest, linesOf bytes = before.map encode ++ encode cs :: rest →
    Flawless before → Violates before cs →
    (∃! fault, FaultAt before cs fault) ∧
      ∀ fault, FaultAt before cs fault → Refused (before.length + 1) fault result
  headless : ∀ texts rest marks, linesOf bytes = texts.map encode ++ rest → Ends rest marks →
    Flawless texts → problem? texts = none →
    Refused (texts.length + marks) .missingHeader result
  headed : ∀ texts rest marks, linesOf bytes = texts.map encode ++ rest → Ends rest marks →
    Flawless texts → ∀ problem, problem? texts = some problem →
    ∃ body header values, effective texts = problem :: body ∧ Declares problem header ∧
      Lists header.numVars body values ∧ Judged (texts.length + marks) header values result
  /-- There is no third case. -/
  exhaustive : ∀ texts : List (List Char), (∀ cs ∈ texts, firstMark? cs ≠ some '%') →
    Flawless texts ∨
      ∃ before cs after, texts = before ++ cs :: after ∧ Flawless before ∧ Violates before cs

theorem parse_of_flawless {pieces : List (List UInt8)} {texts : List (List Char)}
    {rest : List (List UInt8)} {marks : Nat}
    (split : linesOf pieces.flatten = texts.map encode ++ rest) (ends : Ends rest marks)
    (flawless : Flawless texts) :
    ∃ p, Stands texts p ∧
      parse ⟨pieces, none⟩ = Progress.finish { p with lines := p.lines + marks } := by
  obtain ⟨p, read, stands⟩ := flawless.stands
  refine ⟨p, stands, ?_⟩
  rw [parse_eq_readLines, split, Progress.readLines_append, read]
  exact ends.result

/-- The parser points at the first violation in a text, in whatever pieces the text arrives. -/
theorem parse_diagnosed (pieces : List (List UInt8)) :
    Diagnosed pieces.flatten (parse ⟨pieces, none⟩) where
  violated before cs rest split flawless violates := by
    obtain ⟨p, read, stands⟩ := flawless.stands
    have refused : ∀ fault, FaultAt before cs fault →
        Refused (before.length + 1) fault (parse ⟨pieces, none⟩) := by
      intro fault wrong
      rw [parse_eq_readLines, split, Progress.readLines_append, read]
      simp only [Progress.readLines, stands.refused wrong]
      exact refused_refuse ..
    refine ⟨?_, refused⟩
    obtain ⟨fault, wrong⟩ := violates_iff.mp violates
    refine ⟨fault, wrong, fun other wrongOther => ?_⟩
    have same := (refused other wrongOther).error.symm.trans (refused fault wrong).error
    simpa using same
  headless texts rest marks split ends flawless unstarted := by
    obtain ⟨p, stands, parsed⟩ := parse_of_flawless split ends flawless
    rw [parsed]
    cases stands with
    | silent _ => exact refused_refuse ..
    | started effective declares _ =>
        rw [problem?_of_started effective declares] at unstarted
        cases unstarted
  headed texts rest marks split ends flawless problem found := by
    obtain ⟨p, stands, parsed⟩ := parse_of_flawless split ends flawless
    rw [parsed]
    cases stands with
    | silent silent =>
        rw [problem?_of_silent silent] at found
        cases found
    | started effective declares lists =>
        rw [problem?_of_started effective declares] at found
        cases found
        exact ⟨_, _, _, effective, declares, lists, judged_finish _ _ _⟩
  exhaustive _ := flawless_or_violates

end Verdict

end SatBridge.Dimacs
