import SatBridge.Proofs.Dimacs.Grammar

/-!
# Parsed formulas are well formed

While a text is read, every literal in the clause stream has a variable that the problem line
declares, and before the problem line there is no literal at all. This is kept by each line, so the
formula that comes out declares every variable it uses.
-/

set_option autoImplicit false

namespace SatBridge.Dimacs

/-- All literals of the stream, those of the open clause included, have a declared variable. -/
def Declared (numVars : Nat) (stream : ClauseStream) : Prop :=
  (∀ c ∈ stream.closed, ∀ l ∈ c, 1 ≤ l.index ∧ l.index ≤ numVars) ∧
    ∀ l ∈ stream.opened, 1 ≤ l.index ∧ l.index ≤ numVars

theorem declared_empty (numVars : Nat) : Declared numVars .empty := by
  simp [Declared, ClauseStream.empty]

theorem Declared.push {numVars : Nat} {stream : ClauseStream} {l : Literal}
    (declared : Declared numVars stream) (proper : 1 ≤ l.index) (bounded : l.index ≤ numVars) :
    Declared numVars (stream.push l) := by
  refine ⟨declared.1, fun other member => ?_⟩
  rcases List.mem_cons.mp member with rfl | earlier
  · exact ⟨proper, bounded⟩
  · exact declared.2 other earlier

theorem Declared.close {numVars : Nat} {stream : ClauseStream}
    (declared : Declared numVars stream) : Declared numVars stream.close := by
  refine ⟨fun c member => ?_, by simp [ClauseStream.close]⟩
  rcases List.mem_cons.mp member with rfl | earlier
  · exact fun l inOpen => declared.2 l (List.mem_reverse.mp inOpen)
  · exact declared.1 c earlier

theorem Declared.readToken {numVars : Nat} {stream next : ClauseStream} {token : List Char}
    (declared : Declared numVars stream) (accepted : readToken numVars stream token = .ok next) :
    Declared numVars next := by
  unfold Dimacs.readToken at accepted
  split at accepted
  · cases accepted
  · split at accepted
    · cases accepted
      exact declared.close
    · split at accepted
      · cases accepted
      · rename_i l given
        split at accepted
        · rename_i bounded
          cases accepted
          exact declared.push (Literal.wellFormed_of_ofInt? given).1 bounded
        · cases accepted

theorem Declared.readTokens {numVars : Nat} {stream final : ClauseStream}
    (declared : Declared numVars stream) (tokens : List (List Char))
    (accepted : readTokens numVars stream tokens = .ok final) : Declared numVars final := by
  induction tokens generalizing stream with
  | nil =>
      cases accepted
      exact declared
  | cons token rest ih =>
      rw [Dimacs.readTokens, List.foldlM_cons] at accepted
      cases first : Dimacs.readToken numVars stream token with
      | error fault =>
          rw [first] at accepted
          cases accepted
      | ok next =>
          rw [first] at accepted
          exact ih (declared.readToken first) accepted

theorem Header.numVars_le {words : List (List Char)} {header : Header}
    (accepted : Header.ofWords? words = .ok header) : header.numVars ≤ maxVar :=
  (Header.ofWords?_eq_ok_iff.mp accepted).2.1

namespace Progress

/-- What holds of everything that was read so far. -/
def Bounded (p : Progress) : Prop :=
  match p.header with
  | none => p.stream = .empty
  | some header => header.numVars ≤ maxVar ∧ Declared header.numVars p.stream

/-- Reading goes on in a bounded state, or answers with a well-formed formula or an error. -/
def Sound : Reading → Prop
  | .more p => Bounded p
  | .answer result => ∀ f, result = .ok f → f.WellFormed

theorem sound_refuse (line : Nat) (fault : Fault) : Sound (.answer (refuse line fault)) := by
  intro f accepted
  cases accepted

theorem Bounded.finish {p : Progress} (bounded : Bounded p) : Sound (.answer p.finish) := by
  intro f accepted
  unfold Progress.finish at accepted
  split at accepted
  · cases accepted
  · rename_i header declares
    simp only [Bounded, declares] at bounded
    split at accepted
    · cases accepted
    · split at accepted
      · cases accepted
        refine ⟨bounded.1, fun c member => ?_⟩
        exact bounded.2.1 c (List.mem_reverse.mp member)
      · cases accepted

theorem Bounded.apply {p : Progress} (bounded : Bounded p) (line : Line) :
    Sound (p.apply line) := by
  obtain ⟨lines, header, stream⟩ := p
  cases line with
  | skipped => exact bounded
  | endMark => exact bounded.finish
  | header words =>
      cases header with
      | some header => exact sound_refuse lines _
      | none =>
          cases declares : Header.ofWords? words with
          | error fault =>
              simp only [Progress.apply, declares]
              exact sound_refuse lines fault
          | ok header =>
              have untouched : stream = .empty := bounded
              simp only [Progress.apply, declares, untouched]
              exact ⟨Header.numVars_le declares, declared_empty _⟩
  | literals words =>
      cases header with
      | none => exact sound_refuse lines _
      | some header =>
          cases extended : readTokens header.numVars stream words with
          | error fault =>
              simp only [Progress.apply, extended]
              exact sound_refuse lines fault
          | ok next =>
              simp only [Progress.apply, extended]
              exact ⟨bounded.1, bounded.2.readTokens words extended⟩

theorem Bounded.readLine {p : Progress} (bounded : Bounded p) (bytes : List UInt8) :
    Sound (p.readLine bytes) := by
  unfold Progress.readLine
  split
  · intro f accepted
    cases accepted
  · rename_i cs decoded
    have counted : Bounded { p with lines := p.lines + 1 } := bounded
    exact counted.apply _

theorem Bounded.readLines {p : Progress} (bounded : Bounded p) (lines : List (List UInt8)) :
    Sound (p.readLines lines) := by
  induction lines generalizing p with
  | nil => exact bounded
  | cons line rest ih =>
      have first := bounded.readLine line
      cases read : p.readLine line with
      | more next =>
          rw [read] at first
          simp only [Progress.readLines, read]
          exact ih first
      | answer result =>
          rw [read] at first
          simp only [Progress.readLines, read]
          exact first

theorem Bounded.readLast {p : Progress} (bounded : Bounded p) (bytes : List UInt8) :
    Sound (.answer (p.readLast bytes)) := by
  unfold Progress.readLast
  have last := bounded.readLines (if bytes.isEmpty then [] else [bytes])
  split
  · rename_i final read
    rw [read] at last
    exact Bounded.finish last
  · rename_i result read
    rw [read] at last
    exact last

theorem Bounded.readPieces {p : Progress} (bounded : Bounded p) (pending : List UInt8)
    (failure : Option StreamFault) (pieces : List (List UInt8)) :
    Sound (.answer (p.readPieces pending failure pieces)) := by
  induction pieces generalizing p pending with
  | nil =>
      cases failure with
      | none => exact bounded.readLast pending
      | some fault =>
          intro f accepted
          cases accepted
  | cons piece rest ih =>
      have whole := bounded.readLines (cutLines (pending ++ piece)).1
      unfold Progress.readPieces
      cases read : p.readLines (cutLines (pending ++ piece)).1 with
      | more next =>
          rw [read] at whole
          simp only [read]
          exact ih whole _
      | answer result =>
          rw [read] at whole
          simp only [read]
          exact whole

end Progress

/-- However a text is cut into pieces, the formula it denotes declares the variables it uses. -/
theorem wellFormed_of_parse {source : Source} {f : Formula} (parsed : parse source = .ok f) :
    f.WellFormed := by
  have begins : Progress.Bounded .start := rfl
  exact begins.readPieces [] source.failure source.pieces f parsed

end SatBridge.Dimacs
