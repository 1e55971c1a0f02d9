import SatBridge.Search.Queue
import SatBridge.Search.Refutation
import SatBridge.Search.Trail
import Std.Data.HashMap

/-!
# The state of a search

The trail and the order of decisions, and the inferences that all derived clauses rest on. The
state in which a search begins gives the variables of its clauses numbers in the order of their
first occurrence.
-/

set_option autoImplicit false

namespace SatBridge.Search

/-- The variables met so far with their numbers, and their literals by code. -/
structure Numbering where
  numbers : Std.HashMap UInt32 Nat
  literals : Array Literal

namespace Numbering

def empty : Numbering := ⟨∅, #[]⟩

/-- Gives a variable the next number unless it has one. -/
def add (n : Numbering) (var : UInt32) : Numbering :=
  if n.numbers.contains var then n
  else
    { numbers := n.numbers.insert var (n.literals.size / 2)
      literals := (n.literals.push ⟨var, true⟩).push ⟨var, false⟩ }

def ofClauses (clauses : List Clause) : Numbering :=
  clauses.foldl (fun n c => c.foldl (fun n l => n.add l.var) n) empty

def code (n : Numbering) (l : Literal) : Nat :=
  let number := n.numbers.getD l.var 0
  if l.positive then 2 * number else 2 * number + 1

/-- The codes of the literals of a clause, each of them once. A clause with opposite literals
always holds and gets none. -/
def codes (n : Numbering) (c : Clause) : Array Nat :=
  let literals := Std.HashSet.ofList c
  if literals.any fun l => literals.contains l.negate then #[] else literals.toArray.map n.code

end Numbering

structure State where
  trail : Trail
  queue : Queue
  literals : Array Literal
  /-- The value that a variable had last, by variable. -/
  phases : Array Bool
  /-- The clause that consists of the literal of a variable alone, for the variables of the first
  `settled` literals of the trail. -/
  units : Array Nat
  settled : Nat
  /-- The inferences, the last one first. -/
  inferences : List Inference
  /-- Conflicts left before the next restart. -/
  patience : Nat
  /-- Where the sequence of the intervals between restarts stands. -/
  interval : Nat × Nat

namespace State

def infer (s : State) (codes : Array Nat) (premises : List Nat) : State :=
  let clause := codes.toList.map fun code => s.literals.getD code default
  { s with
    trail := s.trail.addClause codes
    inferences := ⟨clause, premises⟩ :: s.inferences }

/-- The unit clauses that make the literals of a clause false, except for one variable. -/
def unitsOf (s : State) (codes : Array Nat) (except : Option Nat) : List Nat :=
  codes.toList.filterMap fun code =>
    let var := codeVar code
    if some var = except then none else some (s.units.getD var 0)

/-- Derives the unit clauses of up to `steps` literals that were set before any decision. -/
def settle : (steps : Nat) → State → State
  | 0, s => s
  | steps + 1, s =>
    match s.trail.codes[s.settled]? with
    | none => s
    | some code =>
      let var := codeVar code
      let number := (s.trail.reasons.getD var none).getD 0
      let codes := s.trail.clause number
      if codes.size = 1 then
        settle steps
          { s with units := s.units.setIfInBounds var number, settled := s.settled + 1 }
      else
        let s := s.infer #[code] (s.unitsOf codes (some var) ++ [number])
        settle steps
          { s with
            units := s.units.setIfInBounds var s.trail.lastClause
            settled := s.settled + 1 }

/-- Adds a given clause. Returned as well is its number if it is false already. -/
def addClause (n : Numbering) (s : State) (c : Clause) : State × Option Nat :=
  let number := s.trail.clauses.size
  let codes := n.codes c
  let s := { s with trail := s.trail.addClause codes }
  match codes.toList with
  | [] => (s, if c.isEmpty then some number else none)
  | [code] =>
    match s.trail.truth code with
    | .unset => ({ s with trail := s.trail.assign code (some number) }, none)
    | .true => (s, none)
    | .false => (s, some number)
  | _ => (s, none)

/-- The number of conflicts in the shortest interval between two restarts. -/
def restartUnit : Nat := 64

/-- The start of a search for a valuation of clauses, and a clause that is false already. -/
def ofClauses (clauses : List Clause) : State × Option Nat :=
  let n := Numbering.ofClauses clauses
  let numVars := n.literals.size / 2
  let start : State :=
    { trail := .empty numVars
      queue := .range numVars
      literals := n.literals
      phases := .replicate numVars false
      units := .replicate numVars 0
      settled := 0
      inferences := []
      patience := restartUnit
      interval := (1, 1) }
  clauses.foldl (fun (s, conflict) c =>
    let (s, found) := s.addClause n c
    (s, conflict <|> found)) (start, none)

end State

end SatBridge.Search
