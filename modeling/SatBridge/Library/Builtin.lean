import SatBridge.Library.Basic
import SatBridge.Backend.Resident

/-!
# The builtin library

The resident solver behind the entry points of a library, with the same engine. The entry points
have no way to report an error, so a solver that had to refuse a literal is spoiled: from then on
its solve calls answer that nothing is known, because the clauses it holds are not those it was
given.
-/

set_option autoImplicit false

namespace SatBridge.Builtin

structure Cell (engine : Engine := Search.engine) where
  solver : ResidentSolver engine
  /-- Whether a literal was refused. -/
  spoiled : Bool

/-- The solvers by pointer; a released solver leaves its place empty, and no place is used twice. -/
abbrev Memory (engine : Engine := Search.engine) := Array (Option (Cell engine))

variable {engine : Engine}

def Cell.fresh : Cell engine := ⟨.new, false⟩

def Memory.empty : Memory engine := #[]

/-- The solver behind a pointer, if it is live. -/
def Memory.cell? (memory : Memory engine) (pointer : Pointer) : Option (Cell engine) :=
  memory[pointer]?.join

def signatureText : String := "varisat-0.2 (builtin)"

def init : Entry (Memory engine) (Option Pointer) := fun memory =>
  .quiet (some memory.size) (memory.push (some .fresh))

def release (pointer : Pointer) : Entry (Memory engine) Unit := fun memory =>
  .quiet () (memory.setIfInBounds pointer none)

/-- A refused literal spoils the solver and changes nothing else. -/
def Cell.add (value : Int) (cell : Cell engine) : Cell engine × List LogEvent :=
  match cell.solver.add value with
  | .ok solver => ({ cell with solver }, [])
  | .error cause => ({ cell with spoiled := true }, [.literalRejected value cause])

def Cell.solve (cell : Cell engine) : Int × Cell engine × List LogEvent :=
  if cell.spoiled then (Status.unknown.code, cell, [])
  else
    match cell.solver.solve with
    | .ok (status, solver, events) => (status.code, { cell with solver }, events)
    | .error cause => (Status.unknown.code, cell, [.solveRejected cause])

/-- The literal itself if it is true, its negation if it is false, and zero if it has no value.
The last model answers even in a spoiled solver. -/
def Cell.value (literal : Int) (cell : Cell engine) : Int :=
  if literal = -2147483648 then 0
  else
    match cell.solver.value literal.natAbs with
    | .ok (some value) => if value = decide (0 < literal) then literal else -literal
    | _ => 0

def add (pointer : Pointer) (value : Int) : Entry (Memory engine) Unit := fun memory =>
  match memory.cell? pointer with
  | none => .quiet () memory
  | some cell =>
    let (cell, events) := cell.add value
    ⟨(), memory.setIfInBounds pointer (some cell), events⟩

def solve (pointer : Pointer) : Entry (Memory engine) Int := fun memory =>
  match memory.cell? pointer with
  | none => .quiet Status.unknown.code memory
  | some cell =>
    let (code, cell, events) := cell.solve
    ⟨code, memory.setIfInBounds pointer (some cell), events⟩

def value (pointer : Pointer) (literal : Int) : Entry (Memory engine) Int := fun memory =>
  match memory.cell? pointer with
  | none => .quiet 0 memory
  | some cell => .quiet (cell.value literal) memory

/-- The resident solver has neither options nor limits. -/
def library (engine : Engine := Search.engine) : Library (Memory engine) where
  origin := .inProcess "builtin"
  init := init
  release := release
  add := add
  solve := solve
  value := value
  signature := some fun _ => some signatureText.toUTF8.data.toList
  setOption := none
  setConflictLimit := none
  setDecisionLimit := none

def loaded (engine : Engine := Search.engine) : LoadedLibrary :=
  ⟨Memory engine, library engine, .empty⟩

end SatBridge.Builtin
