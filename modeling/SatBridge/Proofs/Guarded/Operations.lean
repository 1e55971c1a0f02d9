import SatBridge.Backend.Guarded
import SatBridge.Proofs.Backend.Action

/-!
# What the operations of a guarded solver do

For each operation the guards that refuse it, in their order, and what it leaves behind when none
of them does: the reply and the memory are those of the entry point, and only the handle says how
far the solver has come. The log grows as well, but nothing depends on it.
-/

set_option autoImplicit false

namespace SatBridge.GuardedSolver

open SolverM

variable {σ α : Type} {lib : Library σ} {c : Context (GuardedSolver lib) σ}

@[simp] theorem run_call (entry : Entry σ α) (c : Context (GuardedSolver lib) σ) :
    (call entry : SolverM (GuardedSolver lib) σ α).run c =
      (.ok (entry c.shared).value,
        ⟨⟨(entry c.shared).memory, c.log ++ (entry c.shared).events.toArray⟩, c.handle⟩) := rfl

@[simp] theorem run_update (change : GuardedSolver lib → GuardedSolver lib)
    (c : Context (GuardedSolver lib) σ) :
    (update change).run c = (.ok (), { c with handle := change c.handle }) := rfl

theorem run_create_null {world : World σ} (null : (lib.init world.shared).value = none) :
    ∃ log, (create lib).run world =
      (.error .nullHandle, ⟨(lib.init world.shared).memory, log⟩) := by
  simp only [create, run_bind, run_modifyGet, callIn, null, run_throw]
  exact ⟨_, rfl⟩

theorem run_create {world : World σ} {pointer : Pointer}
    (given : (lib.init world.shared).value = some pointer) :
    ∃ log, (create lib).run world =
      (.ok ⟨pointer, .configuring, false, .zero⟩, ⟨(lib.init world.shared).memory, log⟩) := by
  simp only [create, run_bind, run_modifyGet, callIn, given, run_modify, run_pure]
  exact ⟨_, rfl⟩

theorem run_requireUnsolved (unsolved : c.handle.result? = none) :
    (requireUnsolved : SolverM (GuardedSolver lib) σ Unit).run c = (.ok (), c) := by
  simp [requireUnsolved, run_bind, unsolved]

theorem run_requireUnsolved_solved {status : Status} (solved : c.handle.result? = some status) :
    (requireUnsolved : SolverM (GuardedSolver lib) σ Unit).run c = (.error .alreadySolved, c) := by
  simp [requireUnsolved, run_bind, solved]

theorem run_add_solved {status : Status} (solved : c.handle.result? = some status) (value : Int) :
    (add value).run c = (.error .alreadySolved, c) := by
  simp [add, run_bind, run_requireUnsolved_solved solved]

theorem run_add (unsolved : c.handle.result? = none) (value : Int) :
    ∃ log, (add value).run c =
      (.ok (), ⟨⟨(lib.add c.handle.pointer value c.shared).memory, log⟩,
        { c.handle with
          phase := .adding
          midClause := decide (value ≠ 0)
          stats := c.handle.stats.countAdded value }⟩) := by
  simp only [add, run_bind, run_requireUnsolved unsolved, run_record, run_get, run_call,
    run_update]
  exact ⟨_, rfl⟩

theorem run_solve_solved {status : Status} (solved : c.handle.result? = some status) :
    (solve : SolverM (GuardedSolver lib) σ Status).run c = (.error .alreadySolved, c) := by
  simp [solve, run_bind, run_requireUnsolved_solved solved]

theorem run_solve_midClause (unsolved : c.handle.result? = none)
    (midClause : c.handle.midClause = true) :
    (solve : SolverM (GuardedSolver lib) σ Status).run c = (.error .unterminatedClause, c) := by
  simp [solve, run_bind, run_requireUnsolved unsolved, midClause]

/-- An undefined code is an error, but the solve call was made and counts as one. -/
theorem run_solve (unsolved : c.handle.result? = none) (closed : c.handle.midClause = false) :
    ∃ log, (solve : SolverM (GuardedSolver lib) σ Status).run c =
      (Status.ofCode? (lib.solve c.handle.pointer c.shared).value,
        ⟨⟨(lib.solve c.handle.pointer c.shared).memory, log⟩,
          { c.handle with
            phase := .solved ((Status.ofCode?
              (lib.solve c.handle.pointer c.shared).value).toOption.getD .unknown)
            stats := c.handle.stats.countSolve }⟩) := by
  simp only [solve, run_bind, run_requireUnsolved unsolved, run_get, closed, Bool.false_eq_true,
    if_false, run_update, run_call, run_record, run_lift]
  exact ⟨_, rfl⟩

theorem run_value_noModel (unsatisfied : c.handle.phase ≠ .solved .sat) (var : Nat) :
    (value var).run c = (.error .noModel, c) := by
  simp [value, run_bind, unsatisfied]

theorem run_value_invalid (satisfied : c.handle.phase = .solved .sat) {var : Nat}
    (invalid : var = 0 ∨ maxVar < var) :
    (value var).run c = (.error (.invalidLiteral var), c) := by
  simp [value, run_bind, satisfied, invalid]

theorem run_value (satisfied : c.handle.phase = .solved .sat) {var : Nat}
    (valid : 1 ≤ var ∧ var ≤ maxVar) :
    ∃ log, (value var).run c =
      (decodeValue var (lib.value c.handle.pointer var c.shared).value,
        ⟨⟨(lib.value c.handle.pointer var c.shared).memory, log⟩, c.handle⟩) := by
  have inRange : ¬ (var = 0 ∨ maxVar < var) := by omega
  simp only [value, run_bind, run_get, satisfied, ne_eq, not_true_eq_false, if_false, inRange,
    run_call, run_lift]
  exact ⟨_, rfl⟩

theorem run_setOption_unsupported (absent : lib.setOption = none) (name : String) (value : Int) :
    (setOption name value).run c = (.error (.unsupported .option), c) := by
  simp [setOption, absent]

theorem run_setOption_locked {entry : Pointer → String → Int → Entry σ Int}
    (present : lib.setOption = some entry) (locked : c.handle.phase ≠ .configuring)
    (name : String) (value : Int) :
    (setOption name value).run c = (.error .optionsLocked, c) := by
  simp [setOption, present, run_bind, locked]

theorem run_setOption_nul {entry : Pointer → String → Int → Entry σ Int}
    (present : lib.setOption = some entry) (configuring : c.handle.phase = .configuring)
    {name : String} (nul : '\x00' ∈ name.toList) (value : Int) :
    (setOption name value).run c = (.error .nulInOptionName, c) := by
  simp [setOption, present, run_bind, configuring, nul]

theorem run_setOption {entry : Pointer → String → Int → Entry σ Int}
    (present : lib.setOption = some entry) (configuring : c.handle.phase = .configuring)
    {name : String} (clean : '\x00' ∉ name.toList) (value : Int) :
    ∃ log, (setOption name value).run c =
      (.ok (entry c.handle.pointer name value c.shared).value,
        ⟨⟨(entry c.handle.pointer name value c.shared).memory, log⟩, c.handle⟩) := by
  simp only [setOption, present, run_bind, run_get, configuring, ne_eq, not_true_eq_false, if_false,
    List.contains_eq_mem, clean, decide_false, Bool.false_eq_true, run_call, run_record, run_pure]
  exact ⟨_, rfl⟩

theorem run_setLimit_unsupported (feature : Feature) (limit : Nat) :
    (setLimit feature none limit : SolverM (GuardedSolver lib) σ Unit).run c =
      (.error (.unsupported feature), c) := by
  simp [setLimit]

theorem run_setLimit_solved {status : Status} (solved : c.handle.result? = some status)
    (feature : Feature) (entry : Pointer → Nat → Entry σ Unit) (limit : Nat) :
    (setLimit feature (some entry) limit : SolverM (GuardedSolver lib) σ Unit).run c =
      (.error .alreadySolved, c) := by
  simp [setLimit, run_bind, run_requireUnsolved_solved solved]

theorem run_setLimit (unsolved : c.handle.result? = none) (feature : Feature)
    (entry : Pointer → Nat → Entry σ Unit) (limit : Nat) :
    ∃ log, (setLimit feature (some entry) limit : SolverM (GuardedSolver lib) σ Unit).run c =
      (.ok (), ⟨⟨(entry c.handle.pointer limit c.shared).memory, log⟩, c.handle⟩) := by
  simp only [setLimit, run_bind, run_requireUnsolved unsolved, run_get, run_call]
  exact ⟨_, rfl⟩

section Queries

theorem handle_value (var : Nat) (c : Context (GuardedSolver lib) σ) :
    ((value var).run c).2.handle = c.handle := by
  by_cases satisfied : c.handle.phase = .solved .sat
  · by_cases valid : 1 ≤ var ∧ var ≤ maxVar
    · obtain ⟨log, ran⟩ := run_value satisfied valid
      rw [ran]
    · have invalid : var = 0 ∨ maxVar < var := by omega
      rw [run_value_invalid satisfied invalid]
  · rw [run_value_noModel satisfied]

theorem handle_setOption (name : String) (value : Int) (c : Context (GuardedSolver lib) σ) :
    ((setOption name value).run c).2.handle = c.handle := by
  cases offered : lib.setOption with
  | none => rw [run_setOption_unsupported offered]
  | some entry =>
      by_cases configuring : c.handle.phase = .configuring
      · by_cases nul : '\x00' ∈ name.toList
        · rw [run_setOption_nul offered configuring nul]
        · obtain ⟨log, ran⟩ := run_setOption offered configuring nul value
          rw [ran]
      · rw [run_setOption_locked offered configuring]

theorem handle_setLimit (feature : Feature) (entry : Option (Pointer → Nat → Entry σ Unit))
    (limit : Nat) (c : Context (GuardedSolver lib) σ) :
    ((setLimit feature entry limit).run c).2.handle = c.handle := by
  cases entry with
  | none => rw [run_setLimit_unsupported]
  | some entry =>
      cases solved : c.handle.result? with
      | some status => rw [run_setLimit_solved solved]
      | none =>
          obtain ⟨log, ran⟩ := run_setLimit solved feature entry limit
          rw [ran]

end Queries

end SatBridge.GuardedSolver
