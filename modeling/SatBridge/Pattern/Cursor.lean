import SatBridge.Pattern.Basic
import SatBridge.Pattern.Flaw
import SatBridge.Text.Blank
import SatBridge.Text.WordCharacter

/-!
# Reading a written pattern

The place up to which a written pattern has been read, with the flags in force there, and the steps
that move it. With the flag for spaced patterns, blanks and comments between parts do not count.
-/

set_option autoImplicit false

namespace SatBridge.Pattern

/-- The flags that a written pattern can set for parts of itself. -/
structure Flags where
  /-- A letter of ASCII stands for both of its cases. -/
  ignoreCase : Bool
  /-- The line anchors hold at each line and not only at the ends of the text. -/
  multiLine : Bool
  /-- The dot stands for a newline as well. -/
  dotAll : Bool
  /-- A carriage return ends a line, too. -/
  carriageReturn : Bool
  /-- Classes and word boundaries go beyond ASCII. -/
  unicode : Bool
  /-- Blanks and comments do not count. -/
  spaced : Bool

namespace Flags

def default : Flags := ⟨false, false, false, false, true, false⟩

/-- Sets the flag with a letter. The flag `U` decides between matches and not whether there is
one. -/
def set? (letter : Char) (value : Bool) (flags : Flags) : Option Flags :=
  match letter with
  | 'i' => some { flags with ignoreCase := value }
  | 'm' => some { flags with multiLine := value }
  | 's' => some { flags with dotAll := value }
  | 'R' => some { flags with carriageReturn := value }
  | 'u' => some { flags with unicode := value }
  | 'x' => some { flags with spaced := value }
  | 'U' => some flags
  | _ => none

/-- A class under these flags. -/
def fold (flags : Flags) (accepts : Char → Bool) : Char → Bool :=
  if flags.ignoreCase then
    fun c => accepts c || accepts (if c.isUpper then c.toLower else c.toUpper)
  else accepts

def isWord (flags : Flags) (c : Char) : Bool :=
  if flags.unicode then Text.isWordCharacter c else c.isAlphanum || c = '_'

end Flags

structure Cursor where
  rest : List Char
  /-- The number of characters that have been read. -/
  place : Nat
  flags : Flags
  names : List (List Char × Span)
  /-- The first part that is well written and yet describes no text. -/
  flaw : Option Flaw

/-- A step of reading: it moves the cursor, or it meets a flaw. -/
abbrev Scan := StateT Cursor (Except Flaw)

namespace Scan

variable {α : Type}

def fail (fault : Fault) (span : Span) : Scan α :=
  throw ⟨fault, span, none⟩

/-- A part repeats an earlier one that may stand there only once. -/
def failAgain (fault : Fault) (span earlier : Span) : Scan α :=
  throw ⟨fault, span, some earlier⟩

/-- Notes a part that describes no text. Reading goes on, because a part that is not well written
is reported first. -/
def note (fault : Fault) (span : Span) : Scan Unit :=
  modify fun cursor => { cursor with flaw := cursor.flaw <|> some ⟨fault, span, none⟩ }

def place : Scan Nat := return (← get).place

def next? : Scan (Option Char) := return (← get).rest.head?

def flags : Scan Flags := return (← get).flags

def setFlags (flags : Flags) : Scan Unit :=
  modify fun cursor => { cursor with flags }

def spanFrom (start : Nat) : Scan Span := return ⟨start, ← place⟩

/-- The empty stretch at the cursor. -/
def spot : Scan Span := do spanFrom (← place)

def nextSpan : Scan Span := do
  let start ← place
  return ⟨start, start + 1⟩

/-- A bound on the steps that are left. -/
def remaining : Scan Nat := return (← get).rest.length + 1

/-- Moves over some characters. -/
def advanceBy (count : Nat) : Scan Unit :=
  modify fun cursor =>
    { cursor with
      rest := cursor.rest.drop count
      place := cursor.place + min count cursor.rest.length }

def advance : Scan Unit := advanceBy 1

/-- The length of the blanks and comments that a text starts with. A comment goes from a number
sign to the end of the line. -/
def blankLength : (inComment : Bool) → List Char → Nat
  | _, [] => 0
  | true, c :: rest => blankLength (c != '\n') rest + 1
  | false, c :: rest =>
    if Text.isBlank c then blankLength false rest + 1
    else if c = '#' then blankLength true rest + 1
    else 0

def skipBlanks : Scan Unit := do
  let cursor ← get
  if cursor.flags.spaced then advanceBy (blankLength false cursor.rest)

def advanceOver : Scan Unit := do
  advance
  skipBlanks

/-- Moves over a word if it comes next. -/
def advanceIf (word : String) : Scan Bool := do
  let word := word.toList
  if word.isPrefixOf (← get).rest then
    advanceBy word.length
    return true
  return false

/-- The character after the next one; in a spaced pattern, blanks and a number sign between them
do not count unless nothing else follows. -/
def second? : Scan (Option Char) := do
  let cursor ← get
  let rest := cursor.rest.drop 1
  let rest' := Text.trimLeft rest
  let rest' := if rest'.head? = some '#' then Text.trimLeft (rest'.drop 1) else rest'
  return if cursor.flags.spaced && !rest'.isEmpty then rest'.head? else rest.head?

/-- Reads characters as long as they are accepted, at most `steps` of them. -/
def gather (accepts : Char → Bool) : (steps : Nat) → Scan (List Char)
  | 0 => return []
  | steps + 1 => do
    match ← next? with
    | some c =>
      if accepts c then
        advanceOver
        return c :: (← gather accepts steps)
      else return []
    | none => return []

end Scan

end SatBridge.Pattern
