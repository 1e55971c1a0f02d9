import SatBridge.Dimacs.Parser
import SatBridge.Proofs.Formula.Cutting
import SatBridge.Proofs.Text.Lexical

/-!
# Reading line by line

How a source is cut into pieces, and whether its last line is empty, makes no difference to what
is accepted: reading goes over the lines between the newlines of all bytes. Each line is looked at
through its first character that is not blank.
-/

set_option autoImplicit false

namespace SatBridge.Dimacs

open Text (firstMark? fields)

section Lines

/-- The bytes of a text. -/
def encode (cs : List Char) : List UInt8 :=
  cs.flatMap String.utf8EncodeChar

theorem toByteArray_encode (cs : List Char) : cs.utf8Encode = ⟨(encode cs).toArray⟩ :=
  ByteArray.ext (by simp [List.utf8Encode, encode])

theorem decodeLine?_encode (cs : List Char) : decodeLine? (encode cs) = some cs := by
  rw [decodeLine?, ← toByteArray_encode, List.utf8Decode?_utf8Encode]
  rfl

theorem decodeLine?_eq_some_iff {bytes : List UInt8} {cs : List Char} :
    decodeLine? bytes = some cs ↔ bytes = encode cs := by
  constructor
  · intro decoded
    obtain ⟨chars, given, rfl⟩ := Option.map_eq_some_iff.mp decoded
    have found : (ByteArray.mk bytes.toArray).utf8Decode?.isSome = true := by rw [given]; rfl
    have same := ByteArray.utf8Encode_get_utf8Decode? (h := found)
    simp only [given, Option.get_some, toByteArray_encode] at same
    simpa using (congrArg (fun b : ByteArray => b.data.toList) same).symm
  · rintro rfl
    exact decodeLine?_encode cs

theorem encode_injective {cs ds : List Char} (same : encode cs = encode ds) : cs = ds := by
  have decoded := decodeLine?_encode cs
  rw [same, decodeLine?_encode] at decoded
  exact (Option.some.inj decoded).symm

theorem splitOn_newline (bytes : List UInt8) :
    bytes.splitOn newline = (cutLines bytes).1 ++ [(cutLines bytes).2] := by
  induction bytes with
  | nil => rfl
  | cons byte rest ih =>
      rw [List.splitOn_cons_eq_if_modifyHead, ih, cutLines]
      rcases cutRest : cutLines rest with ⟨lines, last⟩
      by_cases atNewline : byte = newline
      · simp [atNewline]
      · cases lines <;> simp [atNewline]

/-- The bytes after the last newline wait for those that are still to come. -/
theorem cutLines_append (bytes more : List UInt8) :
    cutLines (bytes ++ more) =
      ((cutLines bytes).1 ++ (cutLines ((cutLines bytes).2 ++ more)).1,
        (cutLines ((cutLines bytes).2 ++ more)).2) := by
  induction bytes with
  | nil => rfl
  | cons byte rest ih =>
      rw [List.cons_append, cutLines, ih]
      rcases cutRest : cutLines rest with ⟨lines, last⟩
      by_cases atNewline : byte = newline
      · simp [cutLines, cutRest, atNewline]
      · cases lines with
        | nil =>
            rcases waiting : cutLines (last ++ more) with ⟨moreLines, moreLast⟩
            cases moreLines <;> simp [cutLines, cutRest, atNewline, waiting]
        | cons line lines => simp [cutLines, cutRest, atNewline]

/-- The lines of a text. Behind the last newline there is one only if a byte stands there. -/
def linesOf (bytes : List UInt8) : List (List UInt8) :=
  let runs := bytes.splitOn newline
  if runs.getLast? = some [] then runs.dropLast else runs

theorem linesOf_eq (bytes : List UInt8) :
    linesOf bytes = (cutLines bytes).1 ++
      if (cutLines bytes).2.isEmpty then [] else [(cutLines bytes).2] := by
  rw [linesOf, splitOn_newline]
  cases (cutLines bytes).2 with
  | nil => simp
  | cons byte rest => simp

theorem cutLines_of_not_mem {bytes : List UInt8} (unended : newline ∉ bytes) :
    cutLines bytes = ([], bytes) := by
  induction bytes with
  | nil => rfl
  | cons byte rest ih =>
      rw [List.mem_cons, not_or] at unended
      obtain ⟨other, later⟩ := unended
      have other : byte ≠ newline := fun same => other same.symm
      simp [cutLines, ih later, other]

/-- The first character that is not blank says what kind of line it is. -/
theorem Line.ofChars_cases (cs : List Char) :
    (firstMark? cs = none ∨ firstMark? cs = some 'c') ∧ Line.ofChars cs = .skipped ∨
    firstMark? cs = some '%' ∧ Line.ofChars cs = .endMark ∨
    firstMark? cs = some 'p' ∧ Line.ofChars cs = .header (fields cs) ∨
    (firstMark? cs ≠ none ∧ firstMark? cs ≠ some 'c' ∧ firstMark? cs ≠ some '%' ∧
      firstMark? cs ≠ some 'p') ∧ Line.ofChars cs = .literals (fields cs) := by
  rw [Text.firstMark?_eq_head?, ← Text.words_eq_fields, ← Text.words_trimLeft]
  unfold Line.ofChars
  split
  · rename_i blank
    simp [blank]
  · rename_i rest comment
    simp [comment]
  · rename_i rest mark
    simp [mark]
  · rename_i rest problem
    simp [problem]
  · rename_i filled uncomment unmarked unproblem
    have other (c : Char) (absent : ∀ rest, Text.trimLeft cs ≠ c :: rest) :
        (Text.trimLeft cs).head? ≠ some c := by
      intro starts
      obtain ⟨rest, same⟩ := List.head?_eq_some_iff.mp starts
      exact absent rest same
    have nonempty : (Text.trimLeft cs).head? ≠ none := by simpa using filled
    exact .inr (.inr (.inr ⟨⟨nonempty, other 'c' uncomment, other '%' unmarked,
      other 'p' unproblem⟩, rfl⟩))

theorem Line.ofChars_eq_endMark_iff {cs : List Char} :
    Line.ofChars cs = .endMark ↔ firstMark? cs = some '%' := by
  obtain ⟨skips, kind⟩ | ⟨marked, kind⟩ | ⟨problem, kind⟩ | ⟨others, kind⟩ := Line.ofChars_cases cs
  · rcases skips with blank | comment <;> simp [*]
  · simp [kind, marked]
  · simp [kind, problem]
  · simp [kind, others.2.2.1]

end Lines

/-- What reading has come to when there is no more to read. -/
def Reading.result : Reading → Except Error Formula
  | .more p => p.finish
  | .answer result => result

namespace Progress

theorem readLines_append (p : Progress) (lines more : List (List UInt8)) :
    p.readLines (lines ++ more) =
      match p.readLines lines with
      | .more q => q.readLines more
      | .answer result => .answer result := by
  induction lines generalizing p with
  | nil => rfl
  | cons line rest ih =>
      simp only [List.cons_append, readLines]
      cases p.readLine line with
      | more q => exact ih q
      | answer result => rfl

theorem readLast_eq (p : Progress) (bytes : List UInt8) :
    p.readLast bytes = (p.readLines (if bytes.isEmpty then [] else [bytes])).result := by
  rw [readLast]
  split
  · rename_i read
    rw [read]
    rfl
  · rename_i read
    rw [read]
    rfl

/-- Reads the bytes of a source that has delivered all of them. -/
def readAll (p : Progress) (bytes : List UInt8) : Except Error Formula :=
  match p.readLines (cutLines bytes).1 with
  | .more q => q.readLast (cutLines bytes).2
  | .answer result => result

/-- The lines that have ended decide first, and only if they do not, what comes after the pieces. -/
theorem readPieces_eq (p : Progress) {pending : List UInt8} (unended : newline ∉ pending)
    (failure : Option StreamFault) (pieces : List (List UInt8)) :
    p.readPieces pending failure pieces =
      match p.readLines (cutLines (pending ++ pieces.flatten)).1 with
      | .more q => q.readPieces (cutLines (pending ++ pieces.flatten)).2 failure []
      | .answer result => result := by
  induction pieces generalizing p pending with
  | nil =>
      rw [List.flatten_nil, List.append_nil, cutLines_of_not_mem unended]
      rfl
  | cons piece rest ih =>
      have waiting := (newline_not_mem_cutLines (pending ++ piece)).2
      rw [List.flatten_cons, ← List.append_assoc, cutLines_append, readLines_append, readPieces]
      dsimp only
      cases p.readLines (cutLines (pending ++ piece)).1 with
      | more q => exact ih q waiting
      | answer result => rfl

theorem readPieces_eq_readAll (p : Progress) {pending : List UInt8} (unended : newline ∉ pending)
    (pieces : List (List UInt8)) :
    p.readPieces pending none pieces = p.readAll (pending ++ pieces.flatten) :=
  p.readPieces_eq unended none pieces

theorem readAll_eq_readLines (p : Progress) (bytes : List UInt8) :
    p.readAll bytes = (p.readLines (linesOf bytes)).result := by
  rw [linesOf_eq, readLines_append, readAll]
  cases p.readLines (cutLines bytes).1 with
  | more q => exact q.readLast_eq _
  | answer result => rfl

theorem finish_eq_ok_iff {p : Progress} {f : Formula} :
    p.finish = .ok f ↔ ∃ header, p.header = some header ∧ p.stream.isOpen = false ∧
      p.stream.clauses.length = header.numClauses ∧ f = ⟨header.numVars, p.stream.clauses⟩ := by
  unfold finish
  cases p.header with
  | none => simp [refuse]
  | some header =>
      cases opened : p.stream.isOpen with
      | true => simp [refuse]
      | false =>
          by_cases counted : p.stream.clauses.length = header.numClauses
          · simp [ClauseStream.length_closed, counted, eq_comm]
          · simp [ClauseStream.length_closed, counted, refuse]

theorem readAll_eq_ok_iff {p : Progress} {bytes : List UInt8} {f : Formula} :
    p.readAll bytes = .ok f ↔ (p.readLines (bytes.splitOn newline)).result = .ok f := by
  rw [splitOn_newline, readLines_append, readAll]
  cases p.readLines (cutLines bytes).1 with
  | answer result => rfl
  | more q =>
      simp only [readLast_eq]
      cases (cutLines bytes).2 with
      | nil =>
          -- An empty last line is no line for the reader, but skipping it changes only the count.
          have skipped : q.readLines [[]] = .more { q with lines := q.lines + 1 } := rfl
          rw [skipped]
          simp only [List.isEmpty_nil, if_true, readLines, Reading.result, finish_eq_ok_iff]
      | cons byte rest => rfl

end Progress

theorem parse_eq_readLines (pieces : List (List UInt8)) :
    parse ⟨pieces, none⟩ = (Progress.start.readLines (linesOf pieces.flatten)).result := by
  have whole := Progress.start.readPieces_eq_readAll (List.not_mem_nil (a := newline)) pieces
  rw [parse, whole, List.nil_append, Progress.readAll_eq_readLines]

/-- A text is accepted for its lines, in whatever pieces it arrives. -/
theorem parse_eq_ok_iff_readLines (pieces : List (List UInt8)) (f : Formula) :
    parse ⟨pieces, none⟩ = .ok f ↔
      (Progress.start.readLines (pieces.flatten.splitOn newline)).result = .ok f := by
  have whole := Progress.start.readPieces_eq_readAll (List.not_mem_nil (a := newline)) pieces
  rw [parse, whole, List.nil_append, Progress.readAll_eq_ok_iff]

end SatBridge.Dimacs
