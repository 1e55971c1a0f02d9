/-!
# Text patterns

A pattern describes stretches of a text, and a text contains a pattern if one of its stretches is
described. Matching works on sets of places between characters: from the places where a stretch may
start to those where it may end. So it takes no more steps than there are places for each
operator, however the pattern is nested.
-/

set_option autoImplicit false

namespace SatBridge

inductive Pattern where
  /-- The stretch without a character. -/
  | empty
  /-- One character that is accepted. -/
  | character (accepts : Char → Bool)
  /-- No character, between neighbours that are told by the test; the ends of the text have none. -/
  | anchor (holds : (previous next : Option Char) → Bool)
  | sequence (first second : Pattern)
  | either (first second : Pattern)
  /-- At least `least` stretches of the body in a row, and at most `most` if there is a bound. -/
  | repeated (body : Pattern) (least : Nat) (most : Option Nat)

namespace Pattern

/-- The union of two ascending lists of places. -/
def union : List Nat → List Nat → List Nat
  | [], others => others
  | places, [] => places
  | a :: rest, b :: others =>
    if a < b then a :: union rest (b :: others)
    else if b < a then b :: union (a :: rest) others
    else a :: union rest others
termination_by places others => places.length + others.length

/-- The places of an ascending list that are not in another one. -/
def without : List Nat → List Nat → List Nat
  | [], _ => []
  | places, [] => places
  | a :: rest, b :: others =>
    if a < b then a :: without rest (b :: others)
    else if b < a then without (a :: rest) others
    else without rest others
termination_by places others => places.length + others.length

/-- Takes a step exactly `count` times. What a step does not change stays as it is. -/
def stepExactly (step : List Nat → List Nat) : (count : Nat) → List Nat → List Nat
  | 0, places => places
  | count + 1, places =>
    let next := step places
    if next = places then places else stepExactly step count next

/-- Takes a step up to `count` times and collects all places that are reached; each round starts
from the places that the one before has added. -/
def stepUpTo (step : List Nat → List Nat) : (count : Nat) → (fresh reached : List Nat) → List Nat
  | 0, _, reached => reached
  | count + 1, fresh, reached =>
    match without (step fresh) reached with
    | [] => reached
    | fresh => stepUpTo step count fresh (union reached fresh)

/-- The places where stretches end that start at the given ones. -/
def ends (text : Array Char) : Pattern → List Nat → List Nat
  | .empty, places => places
  | .character accepts, places =>
    places.filterMap fun place =>
      match text[place]? with
      | some c => if accepts c then some (place + 1) else none
      | none => none
  | .anchor holds, places =>
    places.filter fun place =>
      holds (if place = 0 then none else text[place - 1]?) text[place]?
  | .sequence first second, places => ends text second (ends text first places)
  | .either first second, places => union (ends text first places) (ends text second places)
  | .repeated body least most, places =>
    let start := stepExactly (ends text body) least places
    stepUpTo (ends text body) (most.elim text.size (· - least)) start start

def isIn (p : Pattern) (text : String) : Bool :=
  let characters := text.toList.toArray
  !(ends characters p (List.range (characters.size + 1))).isEmpty

/-- The number of elementary parts, with repeated bodies counted as often as they are laid out. -/
def size : Pattern → Nat
  | .empty | .anchor _ | .character _ => 1
  | .sequence first second => first.size + second.size
  | .either first second => first.size + second.size + 1
  | .repeated body least none => body.size * max least 1 + 1
  | .repeated body least (some most) => body.size * least + (body.size + 1) * (most - least)

end Pattern

end SatBridge
