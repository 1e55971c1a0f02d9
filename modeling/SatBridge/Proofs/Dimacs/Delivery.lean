import SatBridge.Proofs.Dimacs.FirstFault

/-!
# Delivery of a text

A text may arrive in reads of any size, and its source may fail before the end. Main statement: the
size of the reads does not matter, and a failure shows only where the lines that have ended by then
do not decide the answer.
-/

set_option autoImplicit false

namespace SatBridge.Dimacs

open Text (firstMark?)

/-- The lines that end with a newline. -/
def endedLines (bytes : List UInt8) : List (List UInt8) :=
  (bytes.splitOn newline).dropLast

theorem endedLines_eq (bytes : List UInt8) : endedLines bytes = (cutLines bytes).1 := by
  rw [endedLines, splitOn_newline, List.dropLast_concat]

/-- Reading does not go beyond the line. -/
inductive Stops (before : List (List Char)) (line : List UInt8) : Prop where
  | notText : (∀ cs, line ≠ encode cs) → Stops before line
  | mark {cs} : line = encode cs → firstMark? cs = some '%' → Stops before line
  | wrong {cs} : line = encode cs → Violates before cs → Stops before line

/-- One of the lines is the last that is read. -/
def StopsAmong (lines : List (List UInt8)) : Prop :=
  ∃ before line rest, lines = before.map encode ++ line :: rest ∧ Flawless before ∧
    Stops before line

section Lines

variable {texts : List (List Char)} {p : Progress} {line : List UInt8}

theorem Stands.stopped (stands : Stands texts p) (stops : Stops texts line) :
    ∃ result, p.readLine line = .answer result := by
  cases stops with
  | notText unwritten =>
      cases decoded : decodeLine? line with
      | none => exact ⟨_, by simp only [Progress.readLine, decoded]; rfl⟩
      | some cs => exact absurd (decodeLine?_eq_some_iff.mp decoded) (unwritten cs)
  | mark written marked =>
      rw [written, readLine_encode, Line.ofChars_eq_endMark_iff.mpr marked]
      exact ⟨_, rfl⟩
  | wrong written violates =>
      obtain ⟨fault, wrong⟩ := violates_iff.mp violates
      exact ⟨_, written ▸ stands.refused wrong⟩

theorem flawless_or_stopsAmong (lines : List (List UInt8)) :
    (∃ texts, lines = texts.map encode ∧ Flawless texts) ∨ StopsAmong lines := by
  induction lines using List.reverseRecOn with
  | nil => exact .inl ⟨[], rfl, .nil⟩
  | append_singleton lines line ih =>
      rcases ih with flawless | stops
      · obtain ⟨texts, rfl, flawless⟩ := flawless
        by_cases here : Stops texts line
        · exact .inr ⟨texts, line, [], rfl, flawless, here⟩
        · have written : ∃ cs, line = encode cs := by
            by_contra unwritten
            exact here (.notText (not_exists.mp unwritten))
          obtain ⟨cs, rfl⟩ := written
          refine .inl ⟨texts ++ [cs], by simp, .snoc flawless ?_ ?_⟩
          · exact fun marked => here (.mark rfl marked)
          · exact fun violates => here (.wrong rfl violates)
      · obtain ⟨before, stop, rest, rfl, flawless, stopsThere⟩ := stops
        exact .inr ⟨before, stop, rest ++ [line], by simp, flawless, stopsThere⟩

theorem answer_of_stopsAmong {lines : List (List UInt8)} (stops : StopsAmong lines) :
    ∃ result, Progress.start.readLines lines = .answer result := by
  obtain ⟨before, line, rest, rfl, flawless, here⟩ := stops
  obtain ⟨p, read, stands⟩ := flawless.stands
  obtain ⟨result, answered⟩ := stands.stopped here
  refine ⟨result, ?_⟩
  rw [Progress.readLines_append, read]
  simp only [Progress.readLines, answered]

theorem more_of_not_stopsAmong {lines : List (List UInt8)} (goesOn : ¬ StopsAmong lines) :
    ∃ p, Progress.start.readLines lines = .more p := by
  rcases flawless_or_stopsAmong lines with flawless | stops
  · obtain ⟨texts, rfl, flawless⟩ := flawless
    obtain ⟨p, read, _⟩ := flawless.stands
    exact ⟨p, read⟩
  · exact absurd stops goesOn

end Lines

section Failures

variable {fault : StreamFault}

theorem finish_ne_stream (p : Progress) : p.finish ≠ .error (.stream fault) := by
  unfold Progress.finish
  cases p.header with
  | none => simp [refuse]
  | some header =>
      cases p.stream.isOpen with
      | true => simp [refuse]
      | false =>
          by_cases counted : p.stream.closed.length = header.numClauses <;>
            simp [refuse, counted]

theorem result_apply_ne_stream (fault : StreamFault) (p : Progress) (line : Line) :
    (p.apply line).result ≠ .error (.stream fault) := by
  obtain ⟨lines, header, stream⟩ := p
  cases line with
  | skipped => exact finish_ne_stream _
  | endMark => exact finish_ne_stream _
  | header words =>
      cases header with
      | some header => simp [Progress.apply, Reading.result, refuse]
      | none =>
          cases declared : Header.ofWords? words with
          | error wrong => simp [Progress.apply, Reading.result, refuse, declared]
          | ok header =>
              simp only [Progress.apply, declared]
              exact finish_ne_stream ⟨lines, some header, stream⟩
  | literals words =>
      cases header with
      | none => simp [Progress.apply, Reading.result, refuse]
      | some header =>
          cases taken : readTokens header.numVars stream words with
          | error wrong => simp [Progress.apply, Reading.result, refuse, taken]
          | ok next =>
              simp only [Progress.apply, taken]
              exact finish_ne_stream ⟨lines, some header, next⟩

/-- A line that is not UTF-8 is the only failure that reading finds by itself. -/
theorem notUtf8_of_readLines {p : Progress} {lines : List (List UInt8)}
    (failed : (p.readLines lines).result = .error (.stream fault)) : fault = .notUtf8 := by
  induction lines generalizing p with
  | nil => exact absurd failed (finish_ne_stream p)
  | cons line rest ih =>
      cases decoded : decodeLine? line with
      | none =>
          rw [Progress.readLines_not_text decoded] at failed
          cases failed
          rfl
      | some cs =>
          obtain rfl := decodeLine?_eq_some_iff.mp decoded
          rw [Progress.readLines_encode_cons] at failed
          cases applied : Progress.apply { p with lines := p.lines + 1 } (Line.ofChars cs) with
          | more q =>
              rw [applied] at failed
              exact ih failed
          | answer result =>
              rw [applied] at failed
              have other := result_apply_ne_stream fault
                { p with lines := p.lines + 1 } (Line.ofChars cs)
              rw [applied] at other
              exact absurd failed other

end Failures

section Sources

variable {source : Source} {bytes : List UInt8}

theorem parse_of_delivered (delivered : source.bytes = bytes) (whole : source.failure = none) :
    parse source = (Progress.start.readLines (linesOf bytes)).result := by
  obtain ⟨pieces, failure⟩ := source
  cases whole
  cases delivered
  exact parse_eq_readLines pieces

theorem parse_of_failed {fault : StreamFault} (delivered : source.bytes = bytes)
    (failed : source.failure = some fault) :
    parse source =
      match Progress.start.readLines (endedLines bytes) with
      | .more _ => .error (.stream fault)
      | .answer result => result := by
  obtain ⟨pieces, failure⟩ := source
  cases failed
  cases delivered
  rw [endedLines_eq]
  exact Progress.start.readPieces_eq (List.not_mem_nil (a := newline)) (some fault) pieces

/-- What the lines of a beginning decide is decided for the whole. -/
theorem readLines_of_prefix {count : Nat} {result : Except Error Formula}
    (answered : Progress.start.readLines (endedLines (bytes.take count)) = .answer result) :
    Progress.start.readLines (linesOf bytes) = .answer result := by
  have split := cutLines_append (bytes.take count) (bytes.drop count)
  rw [List.take_append_drop] at split
  rw [endedLines_eq] at answered
  rw [linesOf_eq, split, List.append_assoc, Progress.readLines_append, answered]

/-- What comes of a source that delivers the first `count` bytes of a text and then fails. -/
structure Spared (bytes : List UInt8) (count : Nat) (fault : StreamFault)
    (result : Except Error Formula) : Prop where
  decided : StopsAmong (endedLines (bytes.take count)) → result = parse (.ofBytes bytes)
  undecided : ¬ StopsAmong (endedLines (bytes.take count)) → result = .error (.stream fault)
  /-- A source cannot fail in the way in which a line fails that is not UTF-8. -/
  decided_iff : fault ≠ .notUtf8 →
    (result = parse (.ofBytes bytes) ↔ StopsAmong (endedLines (bytes.take count)))

theorem spared_of_failed {count : Nat} {fault : StreamFault}
    (delivered : source.bytes = bytes.take count) (failed : source.failure = some fault) :
    Spared bytes count fault (parse source) := by
  have whole := parse_of_delivered (Source.bytes_ofBytes bytes) rfl
  have parsed := parse_of_failed delivered failed
  have decided : StopsAmong (endedLines (bytes.take count)) →
      parse source = parse (.ofBytes bytes) := by
    intro stops
    obtain ⟨result, answered⟩ := answer_of_stopsAmong stops
    rw [parsed, whole, answered, readLines_of_prefix answered]
    rfl
  have undecided : ¬ StopsAmong (endedLines (bytes.take count)) →
      parse source = .error (.stream fault) := by
    intro goesOn
    obtain ⟨p, read⟩ := more_of_not_stopsAmong goesOn
    rw [parsed, read]
  refine ⟨decided, undecided, fun foreign => ⟨fun same => ?_, decided⟩⟩
  by_contra goesOn
  rw [undecided goesOn, whole] at same
  exact foreign (notUtf8_of_readLines same.symm)

/-- How a text is delivered makes no difference to what it denotes, and a source that fails early
hides nothing that was decided before. -/
theorem parse_delivered (bytes : List UInt8) :
    (∀ source : Source, source.bytes = bytes → source.failure = none →
      parse source = parse (.ofBytes bytes)) ∧
    (∀ (source : Source) (count : Nat) (fault : StreamFault), source.bytes = bytes.take count →
      source.failure = some fault → Spared bytes count fault (parse source)) ∧
    ∀ size, 0 < size → parse (.dribbling size bytes) = parse (.ofBytes bytes) ∧
      ∀ count ≤ bytes.length, ∀ fault,
        Spared bytes count fault (parse (.failingAfter count fault size bytes)) := by
  have whole := parse_of_delivered (Source.bytes_ofBytes bytes) rfl
  have same : ∀ source : Source, source.bytes = bytes → source.failure = none →
      parse source = parse (.ofBytes bytes) := by
    intro source delivered unfailing
    rw [parse_of_delivered delivered unfailing, whole]
  refine ⟨same, fun source count fault => spared_of_failed, fun size positive => ⟨?_, ?_⟩⟩
  · exact same _ (Source.bytes_dribbling positive bytes) rfl
  · intro count within fault
    exact spared_of_failed (Source.bytes_failingAfter positive count fault bytes)
      (Source.failure_failingAfter positive within fault)

end Sources

end SatBridge.Dimacs
