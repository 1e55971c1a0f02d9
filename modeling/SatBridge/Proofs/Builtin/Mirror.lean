import SatBridge.Library.Builtin
import SatBridge.Proofs.Backend.Agreement
import SatBridge.Proofs.Guarded.Operations
import SatBridge.Proofs.Resident.Operations

/-!
# The builtin library as a mirror of its solver

A guarded solver over the builtin library beside a resident solver of its own. The library keeps
the same resident solver in a cell, so the two are in step as long as no literal was refused; phase
and terminator flag of the handle then say the same as stream and model of the solver.
-/

set_option autoImplicit false

namespace SatBridge

/-- A literal that the resident solver takes, or a terminator. -/
def InRange (value : Int) : Prop :=
  value.natAbs ≤ ResidentSolver.maxVar

instance (value : Int) : Decidable (InRange value) :=
  inferInstanceAs (Decidable (_ ≤ _))

theorem inRange_zero : InRange 0 :=
  Nat.zero_le _

theorem Clause.admitted_of_le {c : Clause} (small : ∀ l ∈ c, l.index ≤ ResidentSolver.maxVar) :
    c.Admitted InRange := by
  intro l member value given
  have bounded : l.index ≤ maxVar := Nat.le_trans (small l member) (by decide)
  rw [Literal.toInt?_of_le bounded] at given
  cases given
  rw [InRange, Literal.natAbs_signed]
  exact small l member

namespace Builtin

open SolverM

variable {engine : Engine}

/-- Actions on a handle of the builtin library. -/
abbrev HandleM (engine : Engine) := SolverM (GuardedSolver (library engine)) (Memory engine)

section Cells

variable {memory : Memory engine} {pointer : Pointer} {cell : Cell engine}

theorem lt_size_of_cell? (live : memory.cell? pointer = some cell) : pointer < memory.size := by
  by_cases inside : pointer < memory.size
  · exact inside
  · simp [Memory.cell?, inside] at live

theorem cell?_set (live : memory.cell? pointer = some cell) (next : Cell engine) :
    Memory.cell? (memory.setIfInBounds pointer (some next)) pointer = some next := by
  have inside := lt_size_of_cell? live
  simp [Memory.cell?, inside]

theorem cell?_add (live : memory.cell? pointer = some cell) (value : Int) :
    Memory.cell? (add pointer value memory).memory pointer = some (cell.add value).1 := by
  simp only [add, live]
  exact cell?_set live _

theorem cell?_solve (live : memory.cell? pointer = some cell) :
    Memory.cell? (solve pointer memory).memory pointer = some cell.solve.2.1 := by
  simp only [solve, live]
  exact cell?_set live _

theorem solve_value (live : memory.cell? pointer = some cell) :
    (solve pointer memory).value = cell.solve.1 := by
  simp [solve, live]

theorem value_reply (live : memory.cell? pointer = some cell) (literal : Int) :
    value pointer literal memory = .quiet (cell.value literal) memory := by
  simp [value, live]

end Cells

/-- The solver behind a handle is the same as a resident solver, and the fields of the handle agree
with it. Before the answer no model is kept; after it there is one if the answer was `sat`. -/
structure Mirrors (answered : Bool) (c : Context (GuardedSolver (library engine)) (Memory engine))
    (d : Context (ResidentSolver engine) Unit) : Prop where
  cell : c.shared.cell? c.handle.pointer = some ⟨d.handle, false⟩
  stats : c.handle.stats = d.handle.stats
  before : answered = false → c.handle.result? = none ∧
    c.handle.midClause = d.handle.stream.isOpen ∧ d.handle.model = none
  after : answered = true → ∃ status, c.handle.phase = .solved status ∧
    (status = .sat ↔ d.handle.model.isSome = true)

section Operations

variable {answered : Bool} {c : Context (GuardedSolver (library engine)) (Memory engine)}
  {d : Context (ResidentSolver engine) Unit}

theorem Mirrors.satisfied_iff (mirrors : Mirrors answered c d) :
    c.handle.phase = .solved .sat ↔ d.handle.model.isSome = true := by
  cases answered with
  | false =>
      obtain ⟨unsolved, _, unknown⟩ := mirrors.before rfl
      constructor
      · intro phase
        simp [GuardedSolver.result?, phase] at unsolved
      · simp [unknown]
  | true =>
      obtain ⟨status, phase, same⟩ := mirrors.after rfl
      rw [phase, ← same]
      simp

theorem isOpen_add {s t : ResidentSolver engine} {value : Int} (taken : s.add value = .ok t) :
    t.stream.isOpen = decide (value ≠ 0) ∧ t.model = none ∧
      t.stats = s.stats.countAdded value := by
  unfold ResidentSolver.add at taken
  split at taken
  · cases taken
  · cases taken
    refine ⟨?_, rfl, rfl⟩
    by_cases zero : value = 0 <;>
      simp [zero, ClauseStream.isOpen, ClauseStream.close, ClauseStream.push]

theorem agree_add {value : Int} (small : InRange value) :
    AgreeKeeping (Mirrors false) (Backend.add value : HandleM engine Unit)
      (Backend.add value : SolverM (ResidentSolver engine) _ Unit) := by
  intro c d mirrors
  obtain ⟨unsolved, _, _⟩ := mirrors.before rfl
  obtain ⟨s, taken⟩ : ∃ s, d.handle.add value = .ok s := by
    simp [ResidentSolver.add, Nat.not_lt.mpr small]
  obtain ⟨isOpen, unknown, counted⟩ := isOpen_add taken
  obtain ⟨log, ranGuarded⟩ := GuardedSolver.run_add unsolved value
  obtain ⟨log', ranResident⟩ := ResidentSolver.run_add taken
  have stored : Memory.cell? (add c.handle.pointer value c.shared).memory c.handle.pointer =
      some ⟨s, false⟩ := by
    rw [cell?_add mirrors.cell]
    simp [Cell.add, taken]
  refine agree_of_runs ranGuarded ranResident ⟨stored, ?_, ?_, ?_⟩
  · rw [counted, ← mirrors.stats]
  · exact fun _ => ⟨rfl, isOpen.symm, unknown⟩
  · exact fun answered => by cases answered

theorem agree_solve : Agree (Mirrors false)
    (Backend.solve : HandleM engine Status)
    (Backend.solve : SolverM (ResidentSolver engine) _ Status)
    fun result => Mirrors result.toBool := by
  intro c d mirrors
  obtain ⟨unsolved, sameFlag, _⟩ := mirrors.before rfl
  cases isOpen : d.handle.stream.isOpen with
  | true =>
      have refused : d.handle.solve = .error .unterminatedClause := by
        simp [ResidentSolver.solve, isOpen]
      exact agree_of_runs (GuardedSolver.run_solve_midClause unsolved (sameFlag.trans isOpen))
        (ResidentSolver.run_solve_refused refused) mirrors
  | false =>
      obtain ⟨status, s, events, answered, counted, found⟩ := ResidentSolver.solve_closed isOpen
      have decided : Cell.solve ⟨d.handle, false⟩ = (status.code, ⟨s, false⟩, events) := by
        simp [Cell.solve, answered]
      have code : (solve c.handle.pointer c.shared).value = status.code := by
        rw [solve_value mirrors.cell, decided]
      have stored : Memory.cell? (solve c.handle.pointer c.shared).memory c.handle.pointer =
          some ⟨s, false⟩ := by
        rw [cell?_solve mirrors.cell, decided]
      obtain ⟨log, ranGuarded⟩ := GuardedSolver.run_solve unsolved (sameFlag.trans isOpen)
      obtain ⟨log', ranResident⟩ := ResidentSolver.run_solve answered
      have accepted : Status.ofCode? ((library engine).solve c.handle.pointer c.shared).value =
          .ok status := by
        change Status.ofCode? (solve c.handle.pointer c.shared).value = _
        rw [code, Status.ofCode?_code]
      rw [accepted] at ranGuarded
      refine agree_of_runs ranGuarded ranResident ⟨stored, ?_, ?_, ?_⟩
      · rw [counted, ← mirrors.stats]
      · exact fun unanswered => by cases unanswered
      · exact fun _ => ⟨status, rfl, found⟩

/-- A value survives its way through a signed integer and back. -/
theorem decodeValue_value {cell : Cell engine} {model : Model}
    (kept : cell.solver.model = some model) {var : Nat} (valid : 1 ≤ var ∧ var ≤ maxVar) :
    GuardedSolver.decodeValue var (cell.value var) = cell.solver.value var := by
  have notLeast : (var : Int) ≠ -2147483648 := by omega
  have positive : 0 < var := valid.1
  have nonzero : var ≠ 0 := Nat.ne_of_gt positive
  have distinct : -(var : Int) ≠ var := by omega
  have looked : cell.solver.value var = .ok (model.value? var) := by
    simp [ResidentSolver.value, kept]
  rw [looked, Cell.value, if_neg notLeast, Int.natAbs_natCast, looked]
  cases model.value? var with
  | none => rfl
  | some value =>
      cases value with
      | true => simp [positive, GuardedSolver.decodeValue, nonzero]
      | false => simp [positive, GuardedSolver.decodeValue, nonzero, distinct]

theorem agree_value (answered : Bool) {var : Nat} (valid : 1 ≤ var ∧ var ≤ maxVar) :
    AgreeKeeping (Mirrors answered)
      (Backend.value var : HandleM engine (Option Bool))
      (Backend.value var : SolverM (ResidentSolver engine) _ (Option Bool)) := by
  intro c d mirrors
  cases kept : d.handle.model with
  | none =>
      have unsatisfied : c.handle.phase ≠ .solved .sat := by
        rw [ne_eq, mirrors.satisfied_iff, kept]
        simp
      have refused : d.handle.value var = .error .noModel := by simp [ResidentSolver.value, kept]
      have ranResident := ResidentSolver.run_value (d := d) var
      rw [refused] at ranResident
      exact agree_of_runs (GuardedSolver.run_value_noModel unsatisfied var) ranResident mirrors
  | some model =>
      have satisfied : c.handle.phase = .solved .sat := by
        rw [mirrors.satisfied_iff, kept]
        rfl
      have reply : GuardedSolver.decodeValue var (Cell.value (var : Int) ⟨d.handle, false⟩) =
          d.handle.value var :=
        decodeValue_value kept valid
      obtain ⟨log, ranGuarded⟩ := GuardedSolver.run_value satisfied valid
      have ranResident := ResidentSolver.run_value (d := d) var
      have asked : (library engine).value c.handle.pointer (var : Int) c.shared =
          .quiet (Cell.value (var : Int) ⟨d.handle, false⟩) c.shared :=
        value_reply mirrors.cell var
      rw [asked] at ranGuarded
      change _ = (GuardedSolver.decodeValue var (Cell.value (var : Int) ⟨d.handle, false⟩), _)
        at ranGuarded
      rw [reply] at ranGuarded
      exact agree_of_runs ranGuarded ranResident
        ⟨mirrors.cell, mirrors.stats, mirrors.before, mirrors.after⟩

/-- A handle on the builtin library works like the solver in its cell, as long as no literal is too
large and nothing is added to a solver that has answered. -/
theorem agree : Backend.Agree InRange (fun var => 1 ≤ var ∧ var ≤ maxVar)
    (Mirrors : Bool → Relation (GuardedSolver (library engine)) (Memory engine)
      (ResidentSolver engine) Unit) where
  record _ _ _ _ _ mirrors :=
    ⟨rfl, ⟨mirrors.cell, mirrors.stats, mirrors.before, mirrors.after⟩⟩
  add _ small := agree_add small
  solve := agree_solve
  value answered _ valid := agree_value answered valid
  setOption _ name value _ _ mirrors :=
    agree_of_runs (GuardedSolver.run_setOption_unsupported rfl name value) rfl mirrors
  setConflictLimit _ limit _ _ mirrors :=
    agree_of_runs (GuardedSolver.run_setLimit_unsupported .conflictLimit limit) rfl mirrors
  setDecisionLimit _ limit _ _ mirrors :=
    agree_of_runs (GuardedSolver.run_setLimit_unsupported .decisionLimit limit) rfl mirrors
  stats _ _ _ mirrors := mirrors.stats

theorem create_mirrors (memory : Memory engine) (log : Log) (context : World Unit) :
    ∃ handle world, (GuardedSolver.create (library engine)).run ⟨memory, log⟩ =
        (.ok handle, world) ∧
      Mirrors false ⟨world, handle⟩ (⟨context, .new⟩ : Context (ResidentSolver engine) Unit) := by
  have given : ((library engine).init memory).value = some memory.size := rfl
  obtain ⟨newLog, created⟩ : ∃ newLog, (GuardedSolver.create (library engine)).run ⟨memory, log⟩ =
      (.ok ⟨memory.size, .configuring, false, .zero⟩,
        ⟨((library engine).init memory).memory, newLog⟩) :=
    GuardedSolver.run_create given
  refine ⟨_, _, created, ?_, rfl, fun _ => ⟨rfl, rfl, rfl⟩, fun answered => by cases answered⟩
  simp [library, init, Reply.quiet, Memory.cell?, Cell.fresh]

end Operations

end Builtin

end SatBridge
