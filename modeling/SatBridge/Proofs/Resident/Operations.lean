import SatBridge.Backend.Resident
import SatBridge.Proofs.Backend.Action

/-!
# What the operations of a resident solver do

Every operation is a function on the solver; what it refuses changes nothing.
-/

set_option autoImplicit false

namespace SatBridge.ResidentSolver

open SolverM

variable {engine : Engine} {d : Context (ResidentSolver engine) Unit}

theorem run_act {α : Type}
    (step : ResidentSolver engine → Except Error (α × ResidentSolver engine × List LogEvent)) :
    (act step).run d =
      match step d.handle with
      | .ok (value, s, events) => (.ok value, ⟨⟨(), d.log ++ events.toArray⟩, s⟩)
      | .error error => (.error error, d) := by
  simp only [act, run_bind, run_get, run_lift]
  cases step d.handle with
  | ok reply => simp only [run_set, run_pure]
  | error error => rfl

theorem run_add {value : Int} {s : ResidentSolver engine}
    (taken : d.handle.add value = .ok s) :
    ∃ log, (Backend.add value : SolverM (ResidentSolver engine) Unit Unit).run d =
      (.ok (), ⟨⟨(), log⟩, s⟩) := by
  refine ⟨d.log ++ [].toArray, (run_act _).trans ?_⟩
  rw [taken]
  rfl

theorem run_add_refused {value : Int} {error : Error}
    (refused : d.handle.add value = .error error) :
    (Backend.add value : SolverM (ResidentSolver engine) Unit Unit).run d = (.error error, d) := by
  refine (run_act _).trans ?_
  rw [refused]
  rfl

theorem run_solve {status : Status} {s : ResidentSolver engine} {events : List LogEvent}
    (answered : d.handle.solve = .ok (status, s, events)) :
    ∃ log, (Backend.solve : SolverM (ResidentSolver engine) Unit Status).run d =
      (.ok status, ⟨⟨(), log⟩, s⟩) := by
  refine ⟨d.log ++ events.toArray, (run_act _).trans ?_⟩
  rw [answered]

theorem run_solve_refused {error : Error} (refused : d.handle.solve = .error error) :
    (Backend.solve : SolverM (ResidentSolver engine) Unit Status).run d = (.error error, d) := by
  refine (run_act _).trans ?_
  rw [refused]

theorem run_value (var : Nat) :
    (Backend.value var : SolverM (ResidentSolver engine) Unit (Option Bool)).run d =
      (d.handle.value var, d) :=
  (run_bind_ok (run_get d) _).trans (run_lift _ d)

section Adding

variable {s : ResidentSolver engine}

theorem add_literal {value : Int} (small : value.natAbs ≤ maxVar) (nonzero : value ≠ 0) :
    s.add value = .ok ⟨s.stream.push (.ofSigned value), none, s.stats.countAdded value⟩ := by
  simp [ResidentSolver.add, Nat.not_lt.mpr small, nonzero]

theorem add_terminator : s.add 0 = .ok ⟨s.stream.close, none, s.stats.countAdded 0⟩ := by
  simp [ResidentSolver.add]

theorem add_refused {value : Int} (large : maxVar < value.natAbs) :
    s.add value = .error (.invalidLiteral value) := by
  simp [ResidentSolver.add, large]

end Adding

theorem solve_open {s : ResidentSolver engine} (opened : s.stream.isOpen = true) :
    s.solve = .error .unterminatedClause := by
  simp [ResidentSolver.solve, opened]

/-- Between clauses a solve call is always answered, and keeps a model exactly if it found one. -/
theorem solve_closed {s : ResidentSolver engine} (closed : s.stream.isOpen = false) :
    ∃ status t events, s.solve = .ok (status, t, events) ∧ t.stats = s.stats.countSolve ∧
      (status = .sat ↔ t.model.isSome = true) := by
  unfold ResidentSolver.solve
  rw [closed]
  cases engine.decide s.stream.clauses with
  | satisfiable values => exact ⟨.sat, _, _, rfl, rfl, by simp⟩
  | unsatisfiable => exact ⟨.unsat, _, _, rfl, rfl, by simp⟩
  | stopped reason => exact ⟨.unknown, _, _, rfl, rfl, by simp⟩

end SatBridge.ResidentSolver
