import SatBridge.Search.State

/-!
# Search by learning from conflicts

The search sets variables one after the other and draws the consequences. A conflict is traced back
to the one literal of the last decision through which all of it passes; the clause that forbids
this combination is derived, and the search goes back as far as that clause allows. Variables that
conflicts involve are decided next. An answer is a valuation or a refutation, which can both be
checked without a look at the search.
-/

set_option autoImplicit false

namespace SatBridge.Search

inductive Verdict where
  /-- All clauses hold when just these variables are true. -/
  | satisfied (trueVars : Std.HashSet Nat)
  | refuted (steps : Refutation)
  /-- The search used up its steps. -/
  | undecided

/-- What an analysis of a conflict has found so far. -/
structure Analysis where
  /-- The variables of the clauses that were traced. -/
  seen : Std.HashSet Nat
  /-- How many literals of the last decision are still to be traced back. -/
  pending : Nat
  /-- The false literals of earlier decisions. -/
  earlier : Array Nat
  /-- The variables that were set before any decision. -/
  settled : List Nat
  /-- The clauses that were traced, in the order of the trail. -/
  premises : List Nat

namespace Analysis

/-- Looks at the first `count` literals of a clause that is traced. -/
def examine (t : Trail) (codes : Array Nat) : (count : Nat) → Analysis → Analysis
  | 0, a => a
  | count + 1, a =>
    let code := codes.getD count 0
    let var := codeVar code
    let level := t.levelOf code
    if a.seen.contains var then examine t codes count a
    else
      let a := { a with seen := a.seen.insert var }
      examine t codes count <|
        if level = 0 then { a with settled := var :: a.settled }
        else if level = t.level then { a with pending := a.pending + 1 }
        else { a with earlier := a.earlier.push code }

def traceClause (t : Trail) (number : Nat) (a : Analysis) : Analysis :=
  let codes := t.clause number
  examine t codes codes.size { a with premises := number :: a.premises }

/-- Traces the literals of the last decision back along the first `place` literals of the trail.
Returned as well is the literal through which all of the conflict passes. -/
def trace (t : Trail) : (place : Nat) → Analysis → Analysis × Nat
  | 0, a => (a, 0)
  | place + 1, a =>
    let code := t.codes.getD place 0
    if a.seen.contains (codeVar code) then
      match a.pending, t.reasons.getD (codeVar code) none with
      | pending + 2, some reason =>
        trace t place (traceClause t reason { a with pending := pending + 1 })
      | _, _ => (a, code)
    else trace t place a

def ofConflict (t : Trail) (conflict : Nat) : Analysis × Nat :=
  trace t t.codes.size (traceClause t conflict ⟨∅, 0, #[], [], []⟩)

/-- The latest decision behind the literals of earlier decisions, and these literals with one that
depends on it in front. -/
def latestFirst (t : Trail) (codes : Array Nat) : Nat × Array Nat :=
  let level (place : Nat) : Nat := t.levelOf (codes.getD place 0)
  let latest := codes.size.fold (fun place _ best =>
    if level best < level place then place else best) 0
  if codes.isEmpty then (0, codes) else (level latest, codes.swapIfInBounds 0 latest)

end Analysis

namespace State

def unset : (count : Nat) → State → State
  | 0, s => s
  | count + 1, s =>
    match s.trail.codes.back? with
    | none => s
    | some code =>
      unset count { s with
        trail := s.trail.pop
        phases := s.phases.setIfInBounds (codeVar code) (code % 2 = 0)
        queue := s.queue.reopen (codeVar code) }

def goBack (s : State) (level : Nat) : State :=
  match s.trail.decisions[level]? with
  | none => s
  | some length =>
    let s := { s with
      trail := { s.trail with
        decisions := s.trail.decisions.shrink level
        propagated := length } }
    unset (s.trail.codes.size - length) s

/-- The step from one interval between restarts to the next. The second components are the
intervals in units: 1 1 2 1 1 2 4 and so on. -/
def nextInterval : Nat × Nat → Nat × Nat
  | (turn, interval) =>
    let lowestBit := turn &&& (turn ^^^ (turn - 1))
    if lowestBit = interval then (turn + 1, 1) else (turn, 2 * interval)

/-- Takes all decisions back and waits for the next interval. -/
def restart (s : State) : State :=
  let interval := nextInterval s.interval
  { s.goBack 0 with interval, patience := restartUnit * interval.2 }

/-- Learns from a conflict: derives a clause, goes back, and sets the literal that it forces. -/
def learn (s : State) (conflict : Nat) : State :=
  let (a, code) := Analysis.ofConflict s.trail conflict
  let (level, earlier) := Analysis.latestFirst s.trail a.earlier
  let involved := a.seen.toArray.qsort fun x y => s.queue.lastUse x < s.queue.lastUse y
  let units := a.settled.map fun var => s.units.getD var 0
  let s := { s with queue := involved.foldl Queue.use s.queue, patience := s.patience - 1 }
  let s := s.goBack level
  let s := s.infer (#[opposite code] ++ earlier) (units ++ a.premises)
  { s with trail := s.trail.assign (opposite code) (some s.trail.lastClause) }

def decide (s : State) (var : Nat) : State :=
  let code := if s.phases.getD var false then 2 * var else 2 * var + 1
  { s with trail := s.trail.decide code, queue := { s.queue with mark := var } }

/-- The next variable to decide, unless all are set. -/
def candidate? (s : State) : Option Nat :=
  s.queue.openUpTo? (fun var => s.trail.truths[2 * var]? == some .unset) s.trail.numVars
    s.queue.mark

/-- The steps of the search so far, and the one that derives the empty clause from a clause whose
literals are all false before any decision. -/
def refutation (s : State) (conflict : Nat) : Refutation :=
  (⟨[], s.unitsOf (s.trail.clause conflict) none ++ [conflict]⟩ :: s.inferences).reverse

/-- The variables of the positive literals that are set to true. -/
def trueVars (s : State) : Std.HashSet Nat :=
  s.trail.codes.foldl (fun vars code =>
    let l := s.literals.getD code default
    if l.positive then vars.insert l.index else vars) ∅

/-- Draws consequences, and derives the unit clauses of those that hinge on no decision. -/
def propagate (s : State) : State × Option Nat :=
  let (trail, conflict) := s.trail.propagate (s.trail.numVars + 1)
  let s := { s with trail }
  if s.trail.level = 0 then (settle s.trail.codes.size s, conflict) else (s, conflict)

/-- Searches on for at most `steps` rounds of propagation. -/
def run : (steps : Nat) → State → Verdict
  | 0, _ => .undecided
  | steps + 1, s =>
    match s.propagate with
    | (s, some conflict) =>
      if s.trail.level = 0 then .refuted (s.refutation conflict) else run steps (s.learn conflict)
    | (s, none) =>
      if s.patience = 0 then run steps s.restart
      else
        match s.candidate? with
        | some var => run steps (s.decide var)
        | none => .satisfied s.trueVars

end State

end SatBridge.Search
