/-!
# The trail of a search

The literals that are true at a point of a search, in the order in which they became so. Variables
have numbers from zero on, and a literal is coded by twice the number of its variable, plus one if
it is negative. Two literals of each clause are watched: as long as neither of them is false, or
one of them is true, the clause forces nothing and is no conflict.
-/

set_option autoImplicit false

namespace SatBridge.Search

def opposite (code : Nat) : Nat :=
  code ^^^ 1

/-- The number of the variable of a coded literal. -/
def codeVar (code : Nat) : Nat :=
  code / 2

inductive Truth where
  | unset
  | true
  | false
  deriving DecidableEq, Inhabited

structure Trail where
  codes : Array Nat
  /-- The length of the trail before each decision. -/
  decisions : Array Nat
  /-- The length of the part whose consequences have been drawn. -/
  propagated : Nat
  /-- What is known of each literal, by code. -/
  truths : Array Truth
  /-- The number of decisions in force when a variable was set, by variable. -/
  levels : Array Nat
  /-- The clause that forced a variable, by variable; a decided one has none. -/
  reasons : Array (Option Nat)
  clauses : Array (Array Nat)
  /-- By clause, the exclusive or of the two watched literals: with it either gives the other. -/
  pairs : Array Nat
  /-- The clauses in which a literal is watched, by code. -/
  watchers : Array (Array Nat)

namespace Trail

/-- No variable is set, and there is no clause. -/
def empty (numVars : Nat) : Trail where
  codes := #[]
  decisions := #[]
  propagated := 0
  truths := .replicate (2 * numVars) .unset
  levels := .replicate numVars 0
  reasons := .replicate numVars none
  clauses := #[]
  pairs := #[]
  watchers := .replicate (2 * numVars) #[]

def numVars (t : Trail) : Nat :=
  t.levels.size

def truth (t : Trail) (code : Nat) : Truth :=
  t.truths.getD code .unset

def level (t : Trail) : Nat :=
  t.decisions.size

/-- The number of decisions that were in force when a coded literal was set. -/
def levelOf (t : Trail) (code : Nat) : Nat :=
  t.levels.getD (codeVar code) 0

def clause (t : Trail) (number : Nat) : Array Nat :=
  t.clauses.getD number #[]

def lastClause (t : Trail) : Nat :=
  t.clauses.size - 1

/-- Adds a clause under the next number. A clause of two literals or more watches its first two. -/
def addClause (t : Trail) (codes : Array Nat) : Trail :=
  let number := t.clauses.size
  if shape : 1 < codes.size then
    { t with
      clauses := t.clauses.push codes
      pairs := t.pairs.push (codes[0] ^^^ codes[1])
      watchers := (t.watchers.modify codes[0] (·.push number)).modify codes[1] (·.push number) }
  else { t with clauses := t.clauses.push codes, pairs := t.pairs.push 0 }

/-- Sets a literal to true, by force of a clause or as a decision. -/
def assign (t : Trail) (code : Nat) (reason : Option Nat) : Trail :=
  { t with
    codes := t.codes.push code
    truths := (t.truths.setIfInBounds code .true).setIfInBounds (opposite code) .false
    levels := t.levels.setIfInBounds (codeVar code) t.decisions.size
    reasons := t.reasons.setIfInBounds (codeVar code) reason }

def decide (t : Trail) (code : Nat) : Trail :=
  { t with decisions := t.decisions.push t.codes.size }.assign code none

def pop (t : Trail) : Trail :=
  match t.codes.back? with
  | none => t
  | some code =>
    { t with
      codes := t.codes.pop
      truths := (t.truths.setIfInBounds code .unset).setIfInBounds (opposite code) .unset
      reasons := t.reasons.setIfInBounds (codeVar code) none }

/-- A literal among the first `count` of a clause, other than `except`, that is not false. -/
def openLiteral? (t : Trail) (codes : Array Nat) (except : Nat) : (count : Nat) → Option Nat
  | 0 => none
  | count + 1 =>
    let code := codes.getD count except
    if code ≠ except ∧ t.truth code ≠ .false then some code
    else openLiteral? t codes except count

/-- Visits the first `count` of the clauses in which a literal that has become false is watched. A
clause with another literal that is not false watches that one instead. Of the others the second
watched literal is set, or it is false and the clause is a conflict, which ends the visit. -/
def visit (code : Nat) : (count : Nat) → (list : Array Nat) → Trail → Trail × Option Nat
  | 0, list, t => ({ t with watchers := t.watchers.setIfInBounds code list }, none)
  | count + 1, list, t =>
    let number := list.getD count 0
    let other := t.pairs.getD number 0 ^^^ code
    if t.truth other = .true then visit code count list t
    else
      let codes := t.clause number
      match t.openLiteral? codes other codes.size with
      | some substitute =>
        visit code count (list.swapIfInBounds count (list.size - 1)).pop
          { t with
            pairs := t.pairs.setIfInBounds number (other ^^^ substitute)
            watchers := t.watchers.modify substitute (·.push number) }
      | none =>
        if t.truth other = .false then
          ({ t with watchers := t.watchers.setIfInBounds code list }, some number)
        else visit code count list (t.assign other (some number))

/-- Draws the consequences of up to `steps` literals, until a clause is a conflict. -/
def propagate : (steps : Nat) → Trail → Trail × Option Nat
  | 0, t => (t, none)
  | steps + 1, t =>
    match t.codes[t.propagated]? with
    | none => (t, none)
    | some next =>
      let code := opposite next
      let list := t.watchers.getD code #[]
      let t := { t with
        propagated := t.propagated + 1
        watchers := t.watchers.setIfInBounds code #[] }
      match visit code list.size list t with
      | (t, none) => propagate steps t
      | (t, some conflict) => (t, some conflict)

end Trail

end SatBridge.Search
