import SatBridge.Pattern.CharacterClass

/-!
# Reading patterns

The whole of a written pattern: alternatives, groups, flags and repetitions. Groups that are open
wait on a stack, so each round of the reader takes one character at least.
-/

set_option autoImplicit false

namespace SatBridge.Pattern

/-- The alternatives of a group as far as they have been read. -/
structure Branches where
  /-- The alternatives that are finished. -/
  finished : Option Pattern
  /-- The parts of the present one, the last part first. Flags take the place of a part, but
  nothing can be repeated there. -/
  parts : List (Option Pattern)

namespace Branches

def empty : Branches := ⟨none, []⟩

def push (b : Branches) (part : Option Pattern) : Branches :=
  { b with parts := part :: b.parts }

def pattern (b : Branches) : Pattern :=
  let last := b.parts.foldl (fun rest part =>
    match part with
    | some p => .sequence p rest
    | none => rest) Pattern.empty
  match b.finished with
  | some p => .either p last
  | none => last

def next (b : Branches) : Branches :=
  ⟨some b.pattern, []⟩

end Branches

structure GroupFrame where
  opening : Span
  /-- The flags in force before the group. -/
  flags : Flags
  /-- What stands before the group. -/
  before : Branches

namespace Scan

/-- Reads flags up to the character that ends them. Those read before are given with their places,
the last one first. -/
def flagLetters : (steps : Nat) → (before : List (Char × Span)) → Scan (List (Char × Span))
  | 0, before => return before
  | steps + 1, before => do
    match ← next? with
    | none => fail .flagExpected (← spot)
    | some c =>
      let span ← nextSpan
      if c = ':' || c = ')' then
        match before with
        | ('-', dangling) :: _ => fail .negationDangling dangling
        | _ => return before
      else
        if c != '-' && (Flags.default.set? c true).isNone then fail .flagUnrecognized span
        match before.find? (·.1 == c) with
        | some (_, earlier) =>
          failAgain (if c = '-' then .negationRepeated else .flagDuplicate) span earlier
        | none =>
          advance
          flagLetters steps ((c, span) :: before)

/-- Sets flags in the order in which they were read; a hyphen makes those after it false. -/
def applyFlags (letters : List Char) (flags : Flags) : Flags :=
  (letters.foldl (fun (flags, value) c =>
    if c = '-' then (flags, false) else ((flags.set? c value).getD flags, value)) (flags, true)).1

/-- Reads the name of a group up to the closing angle. -/
def groupName : Scan Unit := do
  if (← next?).isNone then fail .groupNameUnclosed (← spot)
  let start ← place
  let isNameCharacter (c : Char) : Bool :=
    Text.isWordCharacter c || c = '.' || c = '[' || c = ']'
  let rest := (← get).rest
  let name := rest.takeWhile isNameCharacter
  match name.head? with
  | some c =>
    if c.isDigit || c = '.' || c = '[' || c = ']' then fail .groupNameInvalid (← nextSpan)
  | none => pure ()
  advanceBy name.length
  let span ← spanFrom start
  match ← next? with
  | none => fail .groupNameUnclosed (← spot)
  | some c => if c != '>' then fail .groupNameInvalid (← nextSpan)
  advance
  if name.isEmpty then fail .groupNameEmpty span
  match (← get).names.find? (·.1 == name) with
  | some (_, earlier) => failAgain .groupNameDuplicate span earlier
  | none => modify fun cursor => { cursor with names := (name, span) :: cursor.names }

/-- Reads an opening parenthesis with what belongs to it. The result is whether a group starts
there, and not only a setting of flags. -/
def groupOpening : Scan Bool := do
  let opening ← nextSpan
  advanceOver
  for word in ["?=", "?!", "?<=", "?<!"] do
    if ← advanceIf word then fail .lookAround (← spanFrom opening.start)
  let inner ← spot
  if ← (advanceIf "?P<" <||> advanceIf "?<") then
    groupName
    return true
  if ← advanceIf "?" then
    if (← next?).isNone then fail .groupUnclosed opening
    let letters ← flagLetters (← remaining) []
    let starts := (← next?) = some ':'
    advance
    if !starts && letters.isEmpty then fail .repetitionMissing inner
    setFlags (applyFlags (letters.reverse.map (·.1)) (← flags))
    return starts
  return true

/-- What was read, unless it is refused. -/
def ofExcept {α : Type} (result : Except Flaw α) : Scan α := fun cursor =>
  result.map (·, cursor)

/-- Reads a number. It is refused only when it is needed. -/
def count : Scan (Except Flaw Nat) := do
  advanceBy ((← get).rest.takeWhile Text.isBlank).length
  let start ← place
  let digits ← gather Char.isDigit (← remaining)
  let span ← spanFrom start
  let _ ← gather Text.isBlank (← remaining)
  match Text.Decimal.digits? digits with
  | none => return .error ⟨.countEmpty, span, none⟩
  | some n => return if n < 4294967296 then .ok n else .error ⟨.countTooLarge, span, none⟩

/-- Reads the bounds of a repetition in braces, up to the closing brace. -/
def bounds (start : Nat) : Scan (Nat × Option Nat) := do
  advanceOver
  if (← next?).isNone then fail .countUnclosed (← spanFrom start)
  let least ← count
  match ← next? with
  | none => fail .countUnclosed (← spanFrom start)
  | some ',' =>
    advanceOver
    match ← next? with
    | none => fail .countUnclosed (← spanFrom start)
    | some '\x7d' => return (← ofExcept least, none)
    | some _ =>
      let least ← ofExcept least
      return (least, some (← ofExcept (← count)))
  | some _ =>
    let least ← ofExcept least
    return (least, some least)

def countedRepetition : Scan (Nat × Option Nat) := do
  let start ← place
  let (least, most) ← bounds start
  if (← next?) != some '\x7d' then fail .countUnclosed (← spanFrom start)
  advanceOver
  if (← next?) = some '?' then advance
  if most.any (· < least) then fail .countsReversed (← spanFrom start)
  return (least, most)

def repetition (operator : Char) (b : Branches) : Scan Branches := do
  match b.parts with
  | some body :: parts =>
    let bounds ← do
      if operator = '\x7b' then countedRepetition
      else
        advance
        if (← next?) = some '?' then advance
        pure (match operator with
          | '?' => (0, some 1)
          | '*' => (0, none)
          | _ => (1, none))
    return { b with parts := some (.repeated body bounds.1 bounds.2) :: parts }
  | _ => fail .repetitionMissing (← spot)

def primitive : Scan Pattern := do
  let flags ← flags
  let span ← nextSpan
  let read ← do
    match ← next? with
    | some '\\' => escape false
    | some '.' =>
      advance
      if !flags.unicode then note .notUtf8 span
      pure (.characters fun c =>
        flags.dotAll || (c != '\n' && !(flags.carriageReturn && c = '\r')))
    | some '^' =>
      advance
      pure (.anchor (Anchor.lineStart flags))
    | some '$' =>
      advance
      pure (.anchor (Anchor.lineEnd flags))
    | some c =>
      advance
      pure (.literal c)
    | none => fail .escapeUnfinished span
  match read with
  | .literal c => return .character (flags.fold (· = c))
  | .characters accepts => return .character accepts
  | .anchor holds => return .anchor holds

def branches : (steps : Nat) → Branches → List GroupFrame → Scan Pattern
  | 0, b, _ => return b.pattern
  | steps + 1, b, frames => do
    skipBlanks
    match ← next? with
    | none =>
      match frames with
      | [] => return b.pattern
      | frame :: _ => fail .groupUnclosed frame.opening
    | some '(' =>
      let frame : GroupFrame := ⟨← nextSpan, ← flags, b⟩
      if ← groupOpening then branches steps .empty (frame :: frames)
      else branches steps (b.push none) frames
    | some ')' =>
      match frames with
      | [] => fail .groupUnopened (← nextSpan)
      | frame :: frames =>
        setFlags frame.flags
        advance
        branches steps (frame.before.push (some b.pattern)) frames
    | some '|' =>
      advance
      branches steps b.next frames
    | some '[' =>
      let accepts ← characterClass
      branches steps (b.push (some (.character accepts))) frames
    | some c =>
      if c = '?' || c = '*' || c = '+' || c = '\x7b' then
        branches steps (← repetition c b) frames
      else
        let part ← primitive
        branches steps (b.push (some part)) frames

end Scan

/-- Why a text is no pattern, or no pattern that is accepted. -/
inductive Refusal where
  | flawed (flaw : Flaw)
  /-- The repetitions, once laid out, have too many parts. -/
  | tooLarge

/-- The number of parts that a pattern may have. -/
def maxSize : Nat := 327680

def Refusal.message (written : List Char) : Refusal → String
  | .flawed flaw => flaw.report written
  | .tooLarge => "Compiled regex exceeds size limit of 10485760 bytes."

def ofChars (written : List Char) : Except Refusal Pattern :=
  match Scan.branches (written.length + 1) .empty [] |>.run ⟨written, 0, .default, [], none⟩ with
  | .error flaw => .error (.flawed flaw)
  | .ok (p, cursor) =>
    match cursor.flaw with
    | some flaw => .error (.flawed flaw)
    | none => if maxSize < p.size then .error .tooLarge else .ok p

end SatBridge.Pattern
