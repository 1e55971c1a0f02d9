import SatBridge.Pattern.Cursor
import SatBridge.Pattern.Property

/-!
# Primitive parts of patterns

Single characters, escapes, classes with a letter, and anchors.
-/

set_option autoImplicit false

namespace SatBridge.Pattern

inductive Primitive where
  | literal (c : Char)
  | characters (accepts : Char → Bool)
  | anchor (holds : (previous next : Option Char) → Bool)

namespace Anchor

/-! Tests on the neighbours of a place. -/

def textStart (previous _next : Option Char) : Bool := previous.isNone

def textEnd (_previous next : Option Char) : Bool := next.isNone

def lineStart (flags : Flags) (previous next : Option Char) : Bool :=
  previous.isNone || (flags.multiLine &&
    (previous = some '\n' ||
      (flags.carriageReturn && previous = some '\r' && next != some '\n')))

def lineEnd (flags : Flags) (previous next : Option Char) : Bool :=
  next.isNone || (flags.multiLine &&
    if flags.carriageReturn then next = some '\r' || (next = some '\n' && previous != some '\r')
    else next = some '\n')

def wordBoundary (isWord : Char → Bool) (previous next : Option Char) : Bool :=
  previous.any isWord != next.any isWord

def wordStart (isWord : Char → Bool) (previous next : Option Char) : Bool :=
  !previous.any isWord && next.any isWord

def wordEnd (isWord : Char → Bool) (previous next : Option Char) : Bool :=
  previous.any isWord && !next.any isWord

end Anchor

namespace Scan

/-- The character with a hexadecimal number, if there is one. -/
def hexValue? (digits : List Char) : Option Char :=
  let value := digits.foldl (fun value c =>
    16 * value + if c.isDigit then c.toNat - 48 else c.toLower.toNat - 87) 0
  if value.isValidChar then some (Char.ofNat value) else none

def isHexDigit (c : Char) : Bool :=
  c.isDigit || "abcdefABCDEF".contains c

/-- Reads a fixed number of hexadecimal digits. -/
def hexDigits : (count : Nat) → Scan (List Char)
  | 0 => return []
  | count + 1 => do
    match ← next? with
    | none => fail .escapeUnfinished (← spot)
    | some c =>
      if isHexDigit c then
        advanceOver
        return c :: (← hexDigits count)
      else fail .hexDigit (← nextSpan)

def bracedHexDigits : (steps : Nat) → Scan (List Char)
  | 0 => return []
  | steps + 1 => do
    match ← next? with
    | none => return []
    | some c =>
      if c = '\x7d' then return []
      else if isHexDigit c then
        advanceOver
        return c :: (← bracedHexDigits steps)
      else fail .hexDigit (← nextSpan)

/-- Reads the number of a character, in braces or with `count` digits. -/
def hexLiteral (count : Nat) : Scan Char := do
  advanceOver
  let opening ← place
  match ← next? with
  | none => fail .escapeUnfinished (← spot)
  | some '\x7b' =>
    advanceOver
    let digits ← bracedHexDigits (← remaining)
    if (← next?).isNone then fail .escapeUnfinished (← spanFrom opening)
    let digitsEnd ← place
    advanceOver
    if digits.isEmpty then fail .hexEmpty (← spanFrom opening)
    match hexValue? digits with
    | some c => return c
    | none => fail .hexScalar ⟨opening + 1, digitsEnd⟩
  | some _ =>
    let digits ← hexDigits count
    match hexValue? digits with
    | some c => return c
    | none => fail .hexScalar (← spanFrom opening)

def propertyName : Scan (List Char) := do
  advanceOver
  match ← next? with
  | none => fail .escapeUnfinished (← spot)
  | some '\x7b' =>
    advanceOver
    let name ← gather (· != '\x7d') (← remaining)
    if (← next?).isNone then fail .escapeUnfinished (← spot)
    advance
    return name
  | some '\\' => fail .propertyInvalid (← nextSpan)
  | some c =>
    advanceOver
    return [c]

/-- The characters with a named property, or without it. -/
def propertyClass (start : Nat) (negated : Bool) : Scan Primitive := do
  let name ← propertyName
  let span ← spanFrom start
  if !(← flags).unicode then note .notUnicode span
  match property? name with
  | some accepts => return .characters fun c => accepts c != negated
  | none =>
    note .propertyUnknown span
    return .characters fun _ => false

/-- The class that is named by a letter. The capital letter stands for the other characters. -/
def letterClass (flags : Flags) (letter : Char) : Char → Bool :=
  let accepts := match letter.toLower with
    | 'd' => fun c => Text.isScriptDigit c && (flags.unicode || c.toNat < 128)
    | 's' => fun c => Text.isBlank c && (flags.unicode || c.toNat < 128)
    | _ => flags.isWord
  if letter.isUpper then fun c => !accepts c else accepts

/-- Reads the braces after the letter of a word boundary, if they name a kind of boundary. -/
def boundaryKind (start : Nat) (isWord : Char → Bool) :
    Scan (Option ((previous next : Option Char) → Bool)) := do
  let saved ← get
  let opening ← place
  advanceOver
  let isNameCharacter (c : Char) : Bool := c.isAlpha || c = '-'
  match ← next? with
  | none => fail .boundaryUnfinished (← spanFrom start)
  | some c =>
    if !isNameCharacter c then
      set saved
      return none
    let nameStart ← place
    let name ← gather isNameCharacter (← remaining)
    if (← next?) != some '\x7d' then fail .boundaryUnclosed (← spanFrom opening)
    let nameSpan ← spanFrom nameStart
    advance
    match String.ofList name with
    | "start" => return some (Anchor.wordStart isWord)
    | "end" => return some (Anchor.wordEnd isWord)
    | "start-half" => return some fun previous _ => !previous.any isWord
    | "end-half" => return some fun _ next => !next.any isWord
    | _ => fail .boundaryUnrecognized nameSpan

/-- The control characters that have a letter. -/
def controlCharacter? : Char → Option Char
  | 'a' => some '\x07'
  | 'f' => some '\x0c'
  | 't' => some '\t'
  | 'n' => some '\n'
  | 'r' => some '\r'
  | 'v' => some '\x0b'
  | _ => none

/-- Whether a backslash may stand in front of a character that means itself. -/
def isEscapable (c : Char) : Bool :=
  c.toNat < 128 && !c.isAlphanum && c != '<' && c != '>'

/-- Reads what follows the letter of an escape that is none of the longer ones. -/
def shortEscape (start : Nat) (letter : Char) : Scan Primitive := do
  advance
  let flags ← flags
  if isEscapable letter then return .literal letter
  match controlCharacter? letter with
  | some c => return .literal c
  | none =>
    match letter with
    | 'A' => return .anchor Anchor.textStart
    | 'z' => return .anchor Anchor.textEnd
    | 'b' =>
      let kind ← if (← next?) = some '\x7b' then boundaryKind start flags.isWord else pure none
      return .anchor (kind.getD (Anchor.wordBoundary flags.isWord))
    | 'B' => return .anchor fun previous next => !Anchor.wordBoundary flags.isWord previous next
    | '<' => return .anchor (Anchor.wordStart flags.isWord)
    | '>' => return .anchor (Anchor.wordEnd flags.isWord)
    | _ => fail .escapeUnrecognized (← spanFrom start)

def escape (inClass : Bool) : Scan Primitive := do
  let start ← place
  advance
  match ← next? with
  | none => fail .escapeUnfinished (← spanFrom start)
  | some letter =>
    if letter.isDigit then fail .backreference ⟨start, (← place) + 1⟩
    else if letter = 'x' || letter = 'u' || letter = 'U' then
      let braced := (← get).rest[1]? = some '\x7b'
      let c ← hexLiteral (if letter = 'x' then 2 else if letter = 'u' then 4 else 8)
      let byte := letter = 'x' && !braced && 128 ≤ c.toNat
      if byte && !inClass && !(← flags).unicode then note .notUtf8 (← spanFrom start)
      return .literal c
    else if letter = 'p' || letter = 'P' then propertyClass start (letter = 'P')
    else if "dswDSW".contains letter then
      advance
      let flags ← flags
      if letter.isUpper && !inClass && !flags.unicode then note .notUtf8 (← spanFrom start)
      return .characters (letterClass flags letter)
    else shortEscape start letter

end Scan

end SatBridge.Pattern
