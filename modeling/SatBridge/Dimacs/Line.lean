import SatBridge.Text.Blank

/-!
# Lines of a DIMACS text

A text is cut into lines at the newline byte; each line is decoded on its own. The first character
that is not blank says what kind of line it is.
-/

set_option autoImplicit false

namespace SatBridge.Dimacs

/-- The byte that ends a line. -/
def newline : UInt8 := 10

/-- The lines that end with a newline, without it, and the bytes after the last newline. -/
def cutLines : List UInt8 → List (List UInt8) × List UInt8
  | [] => ([], [])
  | byte :: rest =>
    match cutLines rest with
    | (lines, last) =>
      if byte = newline then ([] :: lines, last)
      else
        match lines with
        | [] => ([], byte :: last)
        | line :: lines => ((byte :: line) :: lines, last)

def decodeLine? (bytes : List UInt8) : Option (List Char) :=
  (ByteArray.mk bytes.toArray).utf8Decode?.map Array.toList

inductive Line where
  | skipped
  /-- The mark that ends the text, whatever follows it. -/
  | endMark
  | header (words : List (List Char))
  /-- Literals and terminators. -/
  | literals (words : List (List Char))
  deriving DecidableEq, Repr

def Line.ofChars (cs : List Char) : Line :=
  match Text.trimLeft cs with
  | [] => .skipped
  | 'c' :: _ => .skipped
  | '%' :: _ => .endMark
  | 'p' :: rest => .header (Text.words ('p' :: rest))
  | rest => .literals (Text.words rest)

/-- Every newline is cut at: neither a line nor the rest holds one. -/
theorem newline_not_mem_cutLines (bytes : List UInt8) :
    (∀ line ∈ (cutLines bytes).1, newline ∉ line) ∧ newline ∉ (cutLines bytes).2 := by
  induction bytes with
  | nil => simp [cutLines]
  | cons byte rest ih =>
      simp only [cutLines]
      rcases cutRest : cutLines rest with ⟨lines, last⟩
      rw [cutRest] at ih
      obtain ⟨linesClean, lastClean⟩ := ih
      by_cases atNewline : byte = newline
      · simpa [atNewline] using And.intro linesClean lastClean
      · have other : ¬ newline = byte := fun same => atNewline same.symm
        cases lines with
        | nil => simpa [atNewline, other] using lastClean
        | cons line lines =>
            simp only [List.forall_mem_cons] at linesClean
            simpa [atNewline, other] using And.intro linesClean lastClean

end SatBridge.Dimacs
