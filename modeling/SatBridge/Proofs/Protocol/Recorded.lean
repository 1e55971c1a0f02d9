import SatBridge.Proofs.Guarded.Recorded
import SatBridge.Proofs.Protocol.Pool

/-!
# Pools over a recorded library

A pool over a library beside a pool over the recorded library, with the same handles in the same
slots. The record is for the reader alone: both pools answer every step in the same way.
-/

set_option autoImplicit false

namespace SatBridge.Protocol

open SolverM GuardedSolver

variable {σ : Type} {lib : Library σ}

/-- The recorded pool with its record taken away. -/
structure Projects (recorded : RecordedPool lib) (pool : Pool (GuardedSolver lib) σ) : Prop where
  memory : pool.shared = recorded.shared.memory
  slots : pool.slots = recorded.slots.map (Option.map (original recorded.shared.pointers))

theorem projects_start (memory : σ) :
    Projects (Pool.ofShared (Recording.start memory) : RecordedPool lib)
      (Pool.ofShared memory) where
  memory := rfl
  slots := by simp [Pool.ofShared]

section Steps

variable {recorded : RecordedPool lib} {pool : Pool (GuardedSolver lib) σ}

theorem Projects.handle? (projects : Projects recorded pool) (slot : Nat) :
    pool.handle? slot = (recorded.handle? slot).map (original recorded.shared.pointers) :=
  Pool.handle?_of_slots_map projects.slots slot

/-- A step on one handle, after which the pointers are the same as before. -/
theorem Projects.set (projects : Projects recorded pool) (slot : Nat)
    (recording : World (Recording σ)) (log : Log)
    (samePointers : recording.shared.pointers = recorded.shared.pointers)
    (entry : Option (GuardedSolver lib.recorded)) :
    Projects (⟨recording, recorded.slots.setIfInBounds slot entry⟩ : RecordedPool lib)
      ⟨⟨recording.shared.memory, log⟩, pool.slots.setIfInBounds slot
        (entry.map (original recorded.shared.pointers))⟩ where
  memory := rfl
  slots := by
    simp only [samePointers, projects.slots]
    rw [Array.map_setIfInBounds]

theorem Projects.perform (projects : Projects recorded pool) (accounted : Accounted recorded)
    (slot : Nat) (command : Command) :
    (pool.perform slot command).1 = (recorded.perform slot command).1 ∧
      Projects (recorded.perform slot command).2 (pool.perform slot command).2 := by
  have here := projects.handle? slot
  cases live : recorded.handle? slot with
  | none =>
      rw [live, Option.map_none] at here
      rw [Pool.perform_dropped live, Pool.perform_dropped here]
      exact ⟨rfl, projects⟩
  | some s =>
      rw [live, Option.map_some] at here
      have after := accounted.after_command live command
      have shadowed : Shadows (⟨pool.toWorld, original recorded.shared.pointers s⟩ :
          Context (GuardedSolver lib) σ) ⟨recorded.toWorld, s⟩ := by
        refine ⟨pool.log, ?_⟩
        rw [unrecorded, ← projects.memory]
      obtain ⟨same, log, stays⟩ := shadows.perform command _ _ shadowed
      rw [Pool.perform_live live, Pool.perform_live here, same, stays]
      refine ⟨rfl, ?_⟩
      have samePointers := after.grew.pointers
      rw [unrecorded, samePointers]
      exact projects.set slot _ log samePointers
        (some (command.perform.run ⟨recorded.toWorld, s⟩).2.handle)

theorem Projects.drop (projects : Projects recorded pool) (slot : Nat) :
    (pool.drop slot).1 = (recorded.drop slot).1 ∧
      Projects (recorded.drop slot).2 (pool.drop slot).2 := by
  have here := projects.handle? slot
  cases live : recorded.handle? slot with
  | none =>
      rw [live, Option.map_none] at here
      simp only [Pool.drop, live, here]
      exact ⟨trivial, projects⟩
  | some s =>
      rw [live, Option.map_some] at here
      simp only [Pool.drop, live, here]
      refine ⟨trivial, ?_⟩
      have released : (Backend.release (original recorded.shared.pointers s) pool.toWorld).shared =
          (Backend.release s recorded.toWorld).shared.memory := by
        change (lib.release _ pool.shared).memory = (lib.release _ recorded.shared.memory).memory
        rw [projects.memory]
        rfl
      have moved := projects.set slot (Backend.release s recorded.toWorld)
        (Backend.release (original recorded.shared.pointers s) pool.toWorld).log rfl none
      rw [← released] at moved
      exact moved

/-- The pointers that were given before a new one are found under their numbers as before. -/
theorem original_push {pointers : Array Pointer} {s : GuardedSolver lib.recorded}
    (numbered : s.pointer < pointers.size) (pointer : Pointer) :
    original (pointers.push pointer) s = original pointers s := by
  have different : s.pointer ≠ pointers.size := Nat.ne_of_lt numbered
  simp [original, Array.getElem?_push, different]

theorem slots_original_push (accounted : Accounted recorded) (pointer : Pointer) :
    recorded.slots.map (Option.map (original (recorded.shared.pointers.push pointer))) =
      recorded.slots.map (Option.map (original recorded.shared.pointers)) := by
  refine Array.map_congr_left fun entry member => ?_
  cases entry with
  | none => rfl
  | some s =>
      obtain ⟨slot, found⟩ := Array.mem_iff_getElem?.mp member
      have live : recorded.handle? slot = some s := by simp [Pool.handle?, found]
      exact congrArg some (original_push (accounted.numbered slot s live) pointer)

theorem Projects.create (projects : Projects recorded pool) (accounted : Accounted recorded) :
    pool.create.1 = recorded.create.1 ∧ Projects recorded.create.2 pool.create.2 := by
  have sameSize : pool.slots.size = recorded.slots.size := by simp [projects.slots]
  cases reply : (lib.init recorded.shared.memory).value with
  | none =>
      obtain ⟨null, samePointers, _⟩ := init_null reply
      have nullHere : (lib.init pool.shared).value = none := by rw [projects.memory, reply]
      obtain ⟨_, ran⟩ : ∃ log, (Backend.create : WorldM σ (GuardedSolver lib)).run
          pool.toWorld = _ := run_create_null nullHere
      obtain ⟨_, ranRecorded⟩ : ∃ log, (Backend.create :
          WorldM (Recording σ) (GuardedSolver lib.recorded)).run recorded.toWorld = _ :=
        run_create_null null
      simp only [Pool.create, ran, ranRecorded]
      refine ⟨trivial, ?_, ?_⟩
      · change (lib.init pool.shared).memory = (lib.init recorded.shared.memory).memory
        rw [projects.memory]
      · change _ = (recorded.slots.push none).map
          (Option.map (original (Recording.init lib.init recorded.shared).memory.pointers))
        rw [samePointers, Array.map_push, projects.slots]
        rfl
  | some pointer =>
      obtain ⟨given, pointers, _⟩ := init_given reply
      have givenHere : (lib.init pool.shared).value = some pointer := by
        rw [projects.memory, reply]
      obtain ⟨_, ran⟩ : ∃ log, (Backend.create : WorldM σ (GuardedSolver lib)).run
          pool.toWorld = _ := run_create givenHere
      obtain ⟨_, ranRecorded⟩ : ∃ log, (Backend.create :
          WorldM (Recording σ) (GuardedSolver lib.recorded)).run recorded.toWorld = _ :=
        run_create given
      simp only [Pool.create, ran, ranRecorded, sameSize]
      refine ⟨trivial, ?_, ?_⟩
      · change (lib.init pool.shared).memory = (lib.init recorded.shared.memory).memory
        rw [projects.memory]
      · change _ = (recorded.slots.push (some _)).map
          (Option.map (original (Recording.init lib.init recorded.shared).memory.pointers))
        rw [pointers, Array.map_push, slots_original_push accounted, projects.slots]
        simp [original]

theorem Projects.after (projects : Projects recorded pool) (accounted : Accounted recorded)
    (steps : List Pool.Step) :
    (pool.steps steps).1 = (recorded.steps steps).1 ∧
      Projects (recorded.steps steps).2 (pool.steps steps).2 := by
  -- What a step does to the plain pool follows only if the recorded one is accounted for.
  obtain ⟨responses, after, _⟩ := Pool.steps_of_related
    (fun (pool : Pool (GuardedSolver lib) σ) recorded => Projects recorded pool ∧ Accounted recorded)
    (fun _ _ ⟨projects, accounted⟩ =>
      (projects.create accounted).imp_right fun after => ⟨after, accounted.create⟩)
    (fun slot _ _ ⟨projects, accounted⟩ =>
      (projects.drop slot).imp_right fun after => ⟨after, accounted.drop slot⟩)
    (fun slot command _ _ ⟨projects, accounted⟩ =>
      (projects.perform accounted slot command).imp_right fun after =>
        ⟨after, accounted.perform slot command⟩)
    steps ⟨projects, accounted⟩
  exact ⟨responses, after⟩

/-- No answer of a pool shows whether the library is recorded. -/
theorem Projects.steps (projects : Projects recorded pool) (accounted : Accounted recorded)
    (steps : List Pool.Step) : (pool.steps steps).1 = (recorded.steps steps).1 :=
  (projects.after accounted steps).1

end Steps

end SatBridge.Protocol
