import SatBridge.Text.Decimal

/-!
# Flaws of written patterns

Why a text is no pattern, and the report that shows the place: the text with the place underlined,
then the reason. A text of several lines is shown with line numbers.
-/

set_option autoImplicit false

namespace SatBridge.Pattern

inductive Fault where
  | groupUnclosed
  | groupUnopened
  | groupNameUnclosed
  | groupNameInvalid
  | groupNameEmpty
  | groupNameDuplicate
  | lookAround
  | backreference
  | flagUnrecognized
  | flagDuplicate
  | flagExpected
  | negationRepeated
  | negationDangling
  | repetitionMissing
  | countUnclosed
  | countEmpty
  | countTooLarge
  | countsReversed
  | classUnclosed
  | classEscape
  | rangeReversed
  | rangeBoundary
  | escapeUnfinished
  | escapeUnrecognized
  | hexEmpty
  | hexDigit
  | hexScalar
  | boundaryUnfinished
  | boundaryUnclosed
  | boundaryUnrecognized
  | propertyInvalid
  | propertyUnknown
  | notUnicode
  | notUtf8
  deriving DecidableEq, Repr

def Fault.message : Fault → String
  | .groupUnclosed => "unclosed group"
  | .groupUnopened => "unopened group"
  | .groupNameUnclosed => "unclosed capture group name"
  | .groupNameInvalid => "invalid capture group character"
  | .groupNameEmpty => "empty capture group name"
  | .groupNameDuplicate => "duplicate capture group name"
  | .lookAround => "look-around, including look-ahead and look-behind, is not supported"
  | .backreference => "backreferences are not supported"
  | .flagUnrecognized => "unrecognized flag"
  | .flagDuplicate => "duplicate flag"
  | .flagExpected => "expected flag but got end of regex"
  | .negationRepeated => "flag negation operator repeated"
  | .negationDangling => "dangling flag negation operator"
  | .repetitionMissing => "repetition operator missing expression"
  | .countUnclosed => "unclosed counted repetition"
  | .countEmpty => "repetition quantifier expects a valid decimal"
  | .countTooLarge => "decimal literal invalid"
  | .countsReversed => "invalid repetition count range, the start must be <= the end"
  | .classUnclosed => "unclosed character class"
  | .classEscape => "invalid escape sequence found in character class"
  | .rangeReversed => "invalid character class range, the start must be <= the end"
  | .rangeBoundary => "invalid range boundary, must be a literal"
  | .escapeUnfinished => "incomplete escape sequence, reached end of pattern prematurely"
  | .escapeUnrecognized => "unrecognized escape sequence"
  | .hexEmpty => "hexadecimal literal empty"
  | .hexDigit => "invalid hexadecimal digit"
  | .hexScalar => "hexadecimal literal is not a Unicode scalar value"
  | .boundaryUnfinished =>
    "found either the beginning of a special word boundary or a bounded repetition on a \\b " ++
      "with an opening brace, but no closing brace"
  | .boundaryUnclosed =>
    "special word boundary assertion is either unclosed or contains an invalid character"
  | .boundaryUnrecognized =>
    "unrecognized special word boundary assertion, valid choices are: start, end, start-half " ++
      "or end-half"
  | .propertyInvalid => "invalid Unicode character class"
  | .propertyUnknown => "Unicode property not found"
  | .notUnicode => "Unicode not allowed here"
  | .notUtf8 => "pattern can match invalid UTF-8"

/-- A stretch of a written pattern, from the place `start` up to the place `stop`. -/
structure Span where
  start : Nat
  stop : Nat
  deriving DecidableEq, Repr

structure Flaw where
  fault : Fault
  span : Span
  /-- The place of an earlier part that the faulty one repeats. -/
  earlier : Option Span
  deriving DecidableEq, Repr

/-- Line and column of a place, both counted from one. -/
structure Position where
  line : Nat
  column : Nat

def Position.of (written : List Char) (place : Nat) : Position :=
  let before := written.take place
  ⟨before.count '\n' + 1, (before.reverse.takeWhile (· != '\n')).length + 1⟩

/-- The lines of a text. A line ends with a newline, or with a carriage return and a newline. -/
def lines (cs : List Char) : List (List Char) :=
  let pieces := cs.splitOn '\n'
  let pieces := if pieces.getLast? = some [] then pieces.dropLast else pieces
  let finished := cs.count '\n'
  pieces.mapIdx fun index line =>
    if index < finished ∧ line.getLast? = some '\r' then line.dropLast else line

/-- Carets under the given columns, each a first column and the one after the last. -/
def underline (columns : List (Nat × Nat)) : List Char :=
  columns.foldl (fun marks (first, last) =>
    marks ++ List.replicate (first - 1 - marks.length) ' ' ++
      List.replicate (max 1 (last - first)) '^') []

/-- The lines of a written pattern, indented or numbered, with the spans in one line underlined. -/
def annotate (written : List Char) (spans : List Span) : List (List Char) :=
  let lines := lines written
  let count := lines.length + if written.getLast? = some '\n' then 1 else 0
  let width := if count ≤ 1 then 0 else (Text.Decimal.ofNat count).length
  (lines.mapIdx fun index line =>
    let number := Text.Decimal.ofNat (index + 1)
    let head :=
      if width = 0 then List.replicate 4 ' '
      else List.replicate (width - number.length) ' ' ++ number ++ [':', ' ']
    let columns := spans.filterMap fun span =>
      let start := Position.of written span.start
      let stop := Position.of written span.stop
      if start.line = index + 1 ∧ stop.line = index + 1 then some (start.column, stop.column)
      else none
    let note := if columns.isEmpty then [] else [head.map (fun _ => ' ') ++ underline columns]
    (head ++ line) :: note).flatten

/-- The notes on spans over several lines. -/
def longSpans (written : List Char) (spans : List Span) : List String :=
  spans.filterMap fun span =>
    let start := Position.of written span.start
    let stop := Position.of written span.stop
    if start.line = stop.line then none
    else
      some (s!"on line {start.line} (column {start.column}) through " ++
        s!"line {stop.line} (column {stop.column - 1})")

/-- The report on a flaw of a written pattern. -/
def Flaw.report (written : List Char) (flaw : Flaw) : String :=
  let spans := (flaw.span :: flaw.earlier.toList).mergeSort fun a b =>
    decide (a.start < b.start) || (a.start == b.start && decide (a.stop ≤ b.stop))
  let shown := (annotate written spans).map String.ofList
  let divider := String.ofList (List.replicate 79 '~')
  let frame := if written.contains '\n' then [divider] else []
  "\n".intercalate
    (["regex parse error:"] ++ frame ++ shown ++ frame ++ longSpans written spans ++
      ["error: " ++ flaw.fault.message])

end SatBridge.Pattern
