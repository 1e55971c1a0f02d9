import SatBridge.Formula.ClauseStream
import SatBridge.Search
import SatBridge.Backend.Basic

/-!
# The resident solver

A solver that lives in this process and needs no library, only an engine, which is the search of
this project unless another one is named. Unlike a library solver it may be solved again and again:
clauses added after a solve call extend the formula.
-/

set_option autoImplicit false

namespace SatBridge

/-- The values of an engine as far as the variables `1` to `bound`. -/
structure Model where
  bound : Nat
  values : Nat → Option Bool

/-- The value of a variable, `none` beyond the bound. -/
def Model.value? (m : Model) (var : Nat) : Option Bool :=
  if 1 ≤ var ∧ var ≤ m.bound then m.values var else none

structure ResidentSolver (engine : Engine := Search.engine) where
  stream : ClauseStream
  /-- The answer of the last solve call, if that was `sat` and nothing was added since. -/
  model : Option Model
  stats : Stats

namespace ResidentSolver

variable {engine : Engine}

def maxVar : Nat := 268435456

def new : ResidentSolver engine := ⟨.empty, none, .zero⟩

/-- Takes a literal or a terminator. A refused literal changes nothing. -/
def add (value : Int) (s : ResidentSolver engine) : Except Error (ResidentSolver engine) :=
  if maxVar < value.natAbs then .error (.invalidLiteral value)
  else
    let stream := if value = 0 then s.stream.close else s.stream.push (.ofSigned value)
    .ok { stream, model := none, stats := s.stats.countAdded value }

/-- Has the closed clauses decided. While a clause is open there is nothing to decide. -/
def solve (s : ResidentSolver engine) :
    Except Error (Status × ResidentSolver engine × List LogEvent) :=
  if s.stream.isOpen then .error .unterminatedClause
  else
    let stats := s.stats.countSolve
    match engine.decide s.stream.clauses with
    | .satisfiable values => .ok (.sat, { s with model := some ⟨stats.maxVar, values⟩, stats }, [])
    | .unsatisfiable => .ok (.unsat, { s with model := none, stats }, [])
    | .stopped reason =>
      .ok (.unknown, { s with model := none, stats }, [.searchStopped reason])

def value (var : Nat) (s : ResidentSolver engine) : Except Error (Option Bool) :=
  match s.model with
  | some model => .ok (model.value? var)
  | none => .error .noModel

/-- A step of the solver as an action. A refused step changes nothing. -/
def act {α : Type}
    (step : ResidentSolver engine → Except Error (α × ResidentSolver engine × List LogEvent)) :
    SolverM (ResidentSolver engine) Unit α := do
  let context ← get
  let (value, handle, events) ← step context.handle
  set { context with handle, log := context.log ++ events.toArray }
  return value

instance : Backend (ResidentSolver engine) Unit where
  name := "varisat"
  create := return new
  release _ world := world
  add value := act fun s => (s.add value).map fun s => ((), s, [])
  solve := act solve
  value var := do (← get).handle.value var
  stats := ResidentSolver.stats

end ResidentSolver

end SatBridge
