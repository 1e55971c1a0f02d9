import SatBridge.Proofs.Protocol.Pool
import SatBridge.Proofs.Protocol.Recorded

/-!
# Conformance

What a library sees of a pool. Main statement: the calls on each solver form a single-shot word,
which is complete exactly when its handle was dropped.
-/

set_option autoImplicit false

namespace SatBridge.Protocol

open SolverM GuardedSolver

variable {σ : Type} {lib : Library σ}

/-- What holds of the calls that the steps of a pool have made on a library. -/
structure Conforms (start : RecordedPool lib) (steps : List Pool.Step) : Prop where
  /-- The calls on each solver come in an order that the library allows. -/
  singleShot : ∀ solver, SingleShot (wordOf (start.steps steps).2 solver)
  /-- The solver of a live handle was not released. -/
  live : ∀ slot s, (start.steps steps).2.handle? slot = some s →
    Live (wordOf (start.steps steps).2 s.pointer)
  /-- No two handles share a solver. -/
  distinct : ∀ slot other s t, (start.steps steps).2.handle? slot = some s →
    (start.steps steps).2.handle? other = some t → s.pointer = t.pointer → slot = other
  /-- A handle stands for one solver as long as it lives. -/
  constant : ∀ before after, steps = before ++ after → ∀ slot s t,
    (start.steps before).2.handle? slot = some s →
    (start.steps steps).2.handle? slot = some t → s.pointer = t.pointer
  /-- The release of a solver is the last call on it, and comes once its handle was dropped. -/
  released : ∀ solver, .init (some solver) ∈ (start.steps steps).2.shared.calls →
    Dropped (start.steps steps).2 solver →
    ∃ word, Live word ∧ wordOf (start.steps steps).2 solver = word ++ [.release solver]
  /-- Dropping a live handle releases its solver: the slot stays empty, and no call follows. -/
  dropped : ∀ before after slot s, steps = before ++ .drop slot :: after →
    (start.steps before).2.handle? slot = some s →
    (start.steps steps).2.handle? slot = none ∧
      wordOf (start.steps steps).2 s.pointer =
        wordOf (start.steps before).2 s.pointer ++ [.release s.pointer]
  /-- An init that gave the null pointer is the only call that its handle ever causes: it names no
  solver, and its slot stays empty. -/
  null : ∀ before after, steps = before ++ .create :: after → ∀ error,
    (start.steps before).2.create.1 = .error error →
    error = .nullHandle ∧
      (start.steps before).2.create.2.shared.calls =
        (start.steps before).2.shared.calls.push (.init none) ∧
      (start.steps steps).2.handle? (start.steps before).2.slots.size = none

theorem Accounted.singleShot {pool : RecordedPool lib} (accounted : Accounted pool)
    (solver : Nat) : SingleShot (wordOf pool solver) := by
  by_cases named : solver < pool.shared.pointers.size
  · by_cases held : ∃ slot s, pool.handle? slot = some s ∧ s.pointer = solver
    · obtain ⟨slot, s, live, rfl⟩ := held
      exact (accounted.tracked slot s live).conforms
    · have dropped : Dropped pool solver := fun slot s live same => held ⟨slot, s, live, same⟩
      obtain ⟨word, _, _, conforms⟩ := accounted.released solver named dropped
      exact conforms
  · have unused : wordOf pool solver = [] := callsOn_eq_nil fun call member names =>
      named (accounted.known call (Array.mem_toList_iff.mp member) solver names)
    rw [unused]
    exact singleShot_nil

/-- A slot that was not filled when it was made stays empty. -/
theorem Accounted.empty_of_null {pool : RecordedPool lib} (accounted : Accounted pool)
    (after : List Pool.Step) {error : Error} (failed : pool.create.1 = .error error) :
    error = .nullHandle ∧ pool.create.2.shared.calls = pool.shared.calls.push (.init none) ∧
      (pool.steps (.create :: after)).2.handle? pool.slots.size = none := by
  obtain ⟨world, created, _, calls⟩ | ⟨_, _, created, _⟩ := create_cases pool
  · rw [created] at failed
    cases failed
    refine ⟨rfl, by rw [created]; exact calls, ?_⟩
    cases later : (pool.steps (.create :: after)).2.handle? pool.slots.size with
    | none => rfl
    | some t =>
        have exists_slot : pool.slots.size < pool.create.2.slots.size := by simp [created]
        obtain ⟨s, filled, _⟩ := handle_of_steps accounted.create after exists_slot later
        rw [created, Pool.handle?_push, if_pos rfl] at filled
        cases filled
  · rw [created] at failed
    cases failed

/-- A slot whose handle was dropped stays empty, and the word of its solver stays as it is. -/
theorem Accounted.after_drop {pool : RecordedPool lib} (accounted : Accounted pool)
    (after : List Pool.Step) {slot : Nat} {s : GuardedSolver lib.recorded}
    (live : pool.handle? slot = some s) :
    (pool.steps (.drop slot :: after)).2.handle? slot = none ∧
      wordOf (pool.steps (.drop slot :: after)).2 s.pointer =
        wordOf pool s.pointer ++ [.release s.pointer] := by
  obtain ⟨emptied, ended⟩ := accounted.ended_drop live
  have dropped : Accounted (pool.drop slot).2 := accounted.drop slot
  refine ⟨?_, (ended.steps dropped after).word⟩
  cases later : (pool.steps (.drop slot :: after)).2.handle? slot with
  | none => rfl
  | some t =>
      have exists_slot : slot < (pool.drop slot).2.slots.size :=
        Nat.lt_of_lt_of_le (Pool.lt_size_of_handle? live) (pool.size_slots_step (.drop slot))
      obtain ⟨u, filled, _⟩ := handle_of_steps dropped after exists_slot later
      rw [emptied] at filled
      cases filled

/-- Whatever the library replies, and in whatever order its handles are used. The record of the
calls shows in no answer. -/
theorem calls_conform (lib : Library σ) (memory : σ) (steps : List Pool.Step) :
    Conforms (Pool.ofShared (Recording.start memory) : RecordedPool lib) steps ∧
      ((Pool.ofShared memory : Pool (GuardedSolver lib) σ).steps steps).1 =
        ((Pool.ofShared (Recording.start memory) : RecordedPool lib).steps steps).1 := by
  have begins : Accounted (Pool.ofShared (Recording.start memory) : RecordedPool lib) :=
    accounted_start memory
  have accounted (steps : List Pool.Step) := begins.steps steps
  refine ⟨?_, (projects_start memory).steps begins steps⟩
  constructor
  · exact (accounted steps).singleShot
  · intro slot s live
    exact ((accounted steps).tracked slot s live).live
  · exact (accounted steps).distinct
  · rintro before after rfl slot s t liveBefore liveAfter
    rw [Pool.steps_append] at liveAfter
    have exists_slot := Pool.lt_size_of_handle? liveBefore
    obtain ⟨u, found, same⟩ := handle_of_steps (accounted before) after exists_slot liveAfter
    rw [liveBefore] at found
    cases found
    exact same
  · intro solver member dropped
    have named := (accounted steps).known _ member solver rfl
    obtain ⟨word, live, ends, _⟩ := (accounted steps).released solver named dropped
    exact ⟨word, live, ends⟩
  · rintro before after slot s rfl live
    rw [Pool.steps_append]
    exact (accounted before).after_drop after live
  · rintro before after rfl error failed
    rw [Pool.steps_append]
    exact (accounted before).empty_of_null after failed

end SatBridge.Protocol
