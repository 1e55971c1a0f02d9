import SatBridge.Library.Basic
import SatBridge.Backend.Basic

/-!
# Solvers of a library

A handle on a solver that lives in a library. A library may abort the process when it is misused,
so the handle knows how far its solver has come and refuses what would not be allowed: options come
before the first literal, one solve call comes after complete clauses, and values are asked for
only when that call found a model.
-/

set_option autoImplicit false

namespace SatBridge

/-- How far a library solver has come. -/
inductive Phase where
  /-- Nothing was added yet; options may still change. -/
  | configuring
  | adding
  /-- The solve call was made; an undefined status code counts as `unknown`. -/
  | solved (status : Status)
  deriving DecidableEq, Repr

/-- A phase for diagnostics. -/
def Phase.diagnostic : Phase → String
  | .configuring => "Configuring"
  | .adding => "Adding"
  | .solved .sat => "Solved(Sat)"
  | .solved .unsat => "Solved(Unsat)"
  | .solved .unknown => "Solved(Unknown)"

structure GuardedSolver {σ : Type} (lib : Library σ) where
  pointer : Pointer
  phase : Phase
  /-- Whether the last integer added was a literal. -/
  midClause : Bool
  stats : Stats
  deriving DecidableEq, Repr

namespace GuardedSolver

variable {σ : Type} {lib : Library σ}

def result? (s : GuardedSolver lib) : Option Status :=
  match s.phase with
  | .solved status => some status
  | _ => none

def diagnostic (s : GuardedSolver lib) : String :=
  "NativeSolver \x7b handle: " ++ pointerText s.pointer ++
    ", library: " ++ lib.origin.diagnostic ++
    ", phase: " ++ s.phase.diagnostic ++
    ", stats: SolverStats \x7b solve_calls: " ++ toString s.stats.solveCalls ++
    ", clauses: " ++ toString s.stats.clauses ++
    ", literals: " ++ toString s.stats.literals ++
    ", max_var: " ++ toString s.stats.maxVar ++ " \x7d \x7d"

def callIn {σ α : Type} (entry : Entry σ α) (world : World σ) : α × World σ :=
  let reply := entry world.shared
  (reply.value, ⟨reply.memory, world.log ++ reply.events.toArray⟩)

def call {α : Type} (entry : Entry σ α) : SolverM (GuardedSolver lib) σ α :=
  modifyGet fun context =>
    let (value, world) := callIn entry context.toWorld
    (value, { context with toWorld := world })

def update (change : GuardedSolver lib → GuardedSolver lib) :
    SolverM (GuardedSolver lib) σ Unit :=
  modify fun context => { context with handle := change context.handle }

def requireUnsolved : SolverM (GuardedSolver lib) σ Unit := do
  if (← get).handle.result?.isSome then throw .alreadySolved

def create (lib : Library σ) : WorldM σ (GuardedSolver lib) := do
  match ← modifyGet (callIn lib.init) with
  | none => throw .nullHandle
  | some pointer =>
    modify fun world => { world with log := world.log.push (.solverCreated pointer lib.origin) }
    return { pointer, phase := .configuring, midClause := false, stats := .zero }

def release (s : GuardedSolver lib) (world : World σ) : World σ :=
  let world := { world with log := world.log.push (.solverReleased s.pointer) }
  (callIn (lib.release s.pointer) world).2

def add (value : Int) : SolverM (GuardedSolver lib) σ Unit := do
  requireUnsolved
  Solver.record (.literalAdded value)
  call (lib.add (← get).handle.pointer value)
  update fun s =>
    { s with
      phase := .adding
      midClause := decide (value ≠ 0)
      stats := s.stats.countAdded value }

/-- Makes the solve call. It is the last step whatever the library answers. -/
def solve : SolverM (GuardedSolver lib) σ Status := do
  requireUnsolved
  if (← get).handle.midClause then throw .unterminatedClause
  update fun s => { s with stats := s.stats.countSolve }
  let code ← call (lib.solve (← get).handle.pointer)
  let result := Status.ofCode? code
  update fun s => { s with phase := .solved (result.toOption.getD .unknown) }
  let stats := (← get).handle.stats
  Solver.record (.solved code stats.clauses stats.maxVar)
  result

/-- What the reply to a value query says about the variable. -/
def decodeValue (var : Nat) (reply : Int) : Except Error (Option Bool) :=
  if reply = 0 then .ok none
  else if reply = var then .ok (some true)
  else if reply = -(var : Int) then .ok (some false)
  else .error (.undefinedValue var reply)

def value (var : Nat) : SolverM (GuardedSolver lib) σ (Option Bool) := do
  if (← get).handle.phase ≠ .solved .sat then throw .noModel
  if var = 0 ∨ maxVar < var then throw (.invalidLiteral var)
  decodeValue var (← call (lib.value (← get).handle.pointer var))

def setOption (name : String) (value : Int) : SolverM (GuardedSolver lib) σ Int := do
  let some entry := lib.setOption | throw (.unsupported .option)
  if (← get).handle.phase ≠ .configuring then throw .optionsLocked
  if name.toList.contains '\x00' then throw .nulInOptionName
  let previous ← call (entry (← get).handle.pointer name value)
  Solver.record (.optionSet name value previous)
  return previous

/-- Sets a limit through an entry point that the library may lack. -/
def setLimit (feature : Feature) (optionalEntry : Option (Pointer → Nat → Entry σ Unit))
    (limit : Nat) : SolverM (GuardedSolver lib) σ Unit := do
  let some entry := optionalEntry | throw (.unsupported feature)
  requireUnsolved
  call (entry (← get).handle.pointer limit)

instance : Backend (GuardedSolver lib) σ where
  name := "native"
  create := create lib
  release := release
  add := add
  solve := solve
  value := value
  setOption := setOption
  setConflictLimit := setLimit .conflictLimit lib.setConflictLimit
  setDecisionLimit := setLimit .decisionLimit lib.setDecisionLimit
  stats := stats

end GuardedSolver

end SatBridge
