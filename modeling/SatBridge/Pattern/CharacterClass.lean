import SatBridge.Pattern.Escape

/-!
# Bracketed classes of patterns

A class in brackets is the union of its items: characters, ranges, named classes and further
classes in brackets. Unions can be intersected and subtracted, from left to right.
-/

set_option autoImplicit false

namespace SatBridge.Pattern

inductive ClassOperator where
  | intersection
  | difference
  | symmetricDifference

def ClassOperator.apply (op : ClassOperator) (left right : Char → Bool) : Char → Bool :=
  match op with
  | .intersection => fun c => left c && right c
  | .difference => fun c => left c && !right c
  | .symmetricDifference => fun c => left c != right c

/-- What waits for the end of the class that is being read. -/
inductive ClassFrame where
  /-- The brackets around it, whose other items are `outer`. -/
  | bracket (outer : Char → Bool) (negated : Bool) (opening : Span)
  /-- An operation whose left side has been read. -/
  | operation (op : ClassOperator) (left : Char → Bool)

/-- Carries out the operations that wait for a right side. -/
def finishOperations (right : Char → Bool) :
    List ClassFrame → (Char → Bool) × List ClassFrame
  | .operation op left :: frames => finishOperations (op.apply left right) frames
  | frames => (right, frames)

namespace Scan

/-- The flaw of a class that does not end. -/
def classUnclosed {α : Type} (frames : List ClassFrame) : Scan α := do
  let opening := frames.findSome? fun
    | .bracket _ _ opening => some opening
    | .operation _ _ => none
  fail .classUnclosed (opening.getD (← spot))

/-- Reads hyphens that stand for themselves at the start of a class. -/
def leadingHyphens (start : Nat) : (steps : Nat) → Scan Bool
  | 0 => return false
  | steps + 1 => do
    if (← next?) != some '-' then return false
    advanceOver
    if (← next?).isNone then fail .classUnclosed ⟨start, start⟩
    let _ ← leadingHyphens start steps
    return true

/-- Reads an opening bracket with what belongs to it: a negation, and hyphens or a closing bracket
that stand for themselves. -/
def classOpening : Scan (Bool × Span × (Char → Bool)) := do
  let start ← place
  let goOn : Scan Unit := do
    advanceOver
    if (← next?).isNone then fail .classUnclosed (← spanFrom start)
  goOn
  let negated := (← next?) = some '^'
  if negated then goOn
  let hyphens ← leadingHyphens start (← remaining)
  if hyphens then return (negated, ← spanFrom start, (· = '-'))
  if (← next?) = some ']' then
    goOn
    return (negated, ← spanFrom start, (· = ']'))
  return (negated, ← spanFrom start, fun _ => false)

/-- Reads a named class such as `[:alpha:]`. What looks different is left unread. -/
def namedClass? : Scan (Option (Char → Bool)) := do
  let flags ← flags
  match (← get).rest with
  | '[' :: ':' :: rest =>
    let negated := rest.head? = some '^'
    let rest := if negated then rest.drop 1 else rest
    let name := rest.takeWhile (· != ':')
    match rest.drop name.length, asciiClass? name with
    | ':' :: ']' :: _, some accepts =>
      advanceBy ((if negated then 3 else 2) + name.length + 2)
      let accepts := flags.fold accepts
      return some fun c => accepts c != negated
    | _, _ => return none
  | _ => return none

/-- Reads a character or an escape in a class. -/
def classPrimitive : Scan (Primitive × Span) := do
  let start ← place
  match ← next? with
  | some '\\' =>
    let primitive ← escape true
    return (primitive, ← spanFrom start)
  | some c =>
    advance
    if 128 ≤ c.toNat && !(← flags).unicode then note .notUnicode (← spanFrom start)
    return (.literal c, ← spanFrom start)
  | none => fail .classUnclosed (← spot)

/-- Reads an item of a class, a range or something that stands alone. -/
def classItem (frames : List ClassFrame) : Scan (Char → Bool) := do
  let flags ← flags
  let (first, firstSpan) ← classPrimitive
  skipBlanks
  if (← next?).isNone then classUnclosed frames
  let second ← second?
  if (← next?) != some '-' || second = some ']' || second = some '-' then
    match first with
    | .literal c => return flags.fold (· = c)
    | .characters accepts => return accepts
    | .anchor _ => fail .classEscape firstSpan
  else
    advanceOver
    if (← next?).isNone then classUnclosed frames
    let (last, lastSpan) ← classPrimitive
    match first, last with
    | .literal low, .literal high =>
      if high < low then fail .rangeReversed ⟨firstSpan.start, lastSpan.stop⟩
      return flags.fold fun c => low ≤ c && c ≤ high
    | .literal _, _ => fail .rangeBoundary lastSpan
    | _, _ => fail .rangeBoundary firstSpan

/-- The operator that comes next in a class. -/
def classOperator? : Scan (Option ClassOperator) := do
  if ← advanceIf "&&" then return some .intersection
  if ← advanceIf "--" then return some .difference
  if ← advanceIf "~~" then return some .symmetricDifference
  return none

def classBody : (steps : Nat) → (items : Char → Bool) → List ClassFrame → Scan (Char → Bool)
  | 0, _, frames => classUnclosed frames
  | steps + 1, items, frames => do
    skipBlanks
    match ← next? with
    | none => classUnclosed frames
    | some '[' =>
      match ← if frames.isEmpty then pure none else namedClass? with
      | some accepts => classBody steps (fun c => items c || accepts c) frames
      | none =>
        let (negated, opening, inner) ← classOpening
        classBody steps inner (.bracket items negated opening :: frames)
    | some ']' =>
      match finishOperations items frames with
      | (accepts, .bracket outer negated _ :: frames) =>
        advance
        let accepts : Char → Bool := fun c => accepts c != negated
        if frames.isEmpty then return accepts
        classBody steps (fun c => outer c || accepts c) frames
      | (accepts, _) => return accepts
    | some _ =>
      match ← classOperator? with
      | some op =>
        let (left, frames) := finishOperations items frames
        classBody steps (fun _ => false) (.operation op left :: frames)
      | none =>
        let accepts ← classItem frames
        classBody steps (fun c => items c || accepts c) frames

def characterClass : Scan (Char → Bool) := do
  let start ← place
  let accepts ← classBody (← remaining) (fun _ => false) []
  if !(← flags).unicode && accepts '\x80' then note .notUtf8 (← spanFrom start)
  return accepts

end Scan

end SatBridge.Pattern
