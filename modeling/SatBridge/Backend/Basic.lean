import SatBridge.Formula.Basic
import SatBridge.Log.Event
import SatBridge.Result.Stats
import SatBridge.Result.Status

/-!
# Solver backends

The interface that every backend offers: literals go in one at a time, and the values of a
satisfying assignment come out. A backend has handles of a type `H`, and what all its handles share
is of a type `W`. An operation acts on one handle and on the shared part; an error keeps what
happened before it.
-/

set_option autoImplicit false

namespace SatBridge

/-- What the handles of a backend share, and the log. -/
structure World (W : Type) where
  shared : W
  log : Log

/-- One handle in its world. -/
structure Context (H W : Type) extends World W where
  handle : H

abbrev WorldM (W : Type) := ExceptT Error (StateM (World W))

/-- An action on one handle and the world. -/
abbrev SolverM (H W : Type) := ExceptT Error (StateM (Context H W))

class Backend (H : Type) (W : outParam Type) where
  /-- The name under which reports know the backend. -/
  name : String
  /-- A fresh handle. -/
  create : WorldM W H
  /-- Ends the life of a handle. -/
  release : H → World W → World W
  /-- Appends a literal to the open clause; zero closes it. -/
  add : Int → SolverM H W Unit
  solve : SolverM H W Status
  /-- The value of a variable in the last satisfying assignment, `none` if it has none there. -/
  value : Nat → SolverM H W (Option Bool)
  /-- Sets an option and returns the value that it had. -/
  setOption : String → Int → SolverM H W Int := fun _ _ => throw (.unsupported .option)
  setConflictLimit : Nat → SolverM H W Unit := fun _ => throw (.unsupported .conflictLimit)
  setDecisionLimit : Nat → SolverM H W Unit := fun _ => throw (.unsupported .decisionLimit)
  stats : H → Stats

namespace Solver

variable {H W : Type}

def record (event : LogEvent) : SolverM H W Unit :=
  modify fun context => { context with log := context.log.push event }

variable [Backend H W]

/-- Adds the literals of a clause, then its terminator. It stops at the first literal that is
refused, or that has no integer, and keeps those before it. -/
def addClause (c : Clause) : SolverM H W Unit := do
  c.forM fun l => do Backend.add (← l.toInt?)
  Backend.add 0

def feed (f : Formula) : SolverM H W Unit :=
  f.clauses.forM addClause

/-- Reads the values of `count` variables into the slots that follow those of a model. -/
def readValues : (count : Nat) → Assignment → SolverM H W Assignment
  | 0, model => return model
  | count + 1, model => do readValues count (model.push (← Backend.value model.size))

/-- The values of the variables `1` to `numVars`, each in the slot of its variable. It stops at the
first variable whose value cannot be read. -/
def model (numVars : Nat) : SolverM H W Assignment :=
  readValues numVars #[none]

def stats : SolverM H W Stats := do
  return Backend.stats (← get).handle

end Solver

end SatBridge
