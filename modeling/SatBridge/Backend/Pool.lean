import SatBridge.Backend.Solve

/-!
# Pools of handles

Several handles of one backend side by side, in one world. A handle keeps the slot in which it was
created, also once it has been dropped, so a slot never stands for two handles.
-/

set_option autoImplicit false

namespace SatBridge

inductive Command where
  | add (value : Int)
  | addClause (clause : Clause)
  | feed (formula : Formula)
  | solve
  | value (var : Nat)
  | model (numVars : Nat)
  | setOption (name : String) (value : Int)
  | setConflictLimit (limit : Nat)
  | setDecisionLimit (limit : Nat)
  | configure (settings : Settings)
  | solveFormula (formula : Formula) (settings : Settings)
  deriving DecidableEq, Repr

inductive Answer where
  | done
  | status (status : Status)
  | value (value : Option Bool)
  | model (model : Assignment)
  | previous (value : Int)
  | outcome (outcome : Outcome)
  deriving DecidableEq, Repr

def Command.perform {H W : Type} [Backend H W] : Command → SolverM H W Answer
  | .add literal => do
    Backend.add literal
    return .done
  | .addClause clause => do
    Solver.addClause clause
    return .done
  | .feed formula => do
    Solver.feed formula
    return .done
  | .solve => return .status (← Backend.solve)
  | .value var => return .value (← Backend.value var)
  | .model numVars => return .model (← Solver.model numVars)
  | .setOption name setting => return .previous (← Backend.setOption name setting)
  | .setConflictLimit limit => do
    Backend.setConflictLimit limit
    return .done
  | .setDecisionLimit limit => do
    Backend.setDecisionLimit limit
    return .done
  | .configure settings => do
    settings.apply
    return .done
  | .solveFormula formula settings =>
    return .outcome (← Solver.solveFormula formula settings)

/-- A world and the handles in it, by slot. -/
structure Pool (H W : Type) extends World W where
  slots : Array (Option H)

namespace Pool

variable {H W : Type}

def ofShared (shared : W) : Pool H W := ⟨⟨shared, #[]⟩, #[]⟩

/-- The live handle in a slot. -/
def handle? (pool : Pool H W) (slot : Nat) : Option H :=
  pool.slots[slot]?.join

theorem handle?_of_slots_map {K V : Type} {change : H → K} {pool : Pool H W} {image : Pool K V}
    (slots : image.slots = pool.slots.map (Option.map change)) (slot : Nat) :
    image.handle? slot = (pool.handle? slot).map change := by
  rw [handle?, handle?, slots, Array.getElem?_map]
  cases pool.slots[slot]? with
  | none => rfl
  | some entry => cases entry <;> rfl

def handles (pool : Pool H W) : List H :=
  pool.slots.toList.filterMap id

/-- A new slot stands behind the others and leaves them as they are. -/
theorem handle?_push (pool : Pool H W) (world : World W) (entry : Option H) (slot : Nat) :
    handle? ⟨world, pool.slots.push entry⟩ slot =
      if slot = pool.slots.size then entry else pool.handle? slot := by
  simp only [handle?, Array.getElem?_push]
  split <;> rfl

@[simp] theorem handle?_push_none (pool : Pool H W) (world : World W) (slot : Nat) :
    handle? ⟨world, pool.slots.push none⟩ slot = pool.handle? slot := by
  rw [handle?_push]
  split
  · rename_i last
    simp [handle?, last]
  · rfl

theorem handle?_push_some_iff {pool : Pool H W} {world : World W} {handle found : H}
    {slot : Nat} :
    handle? ⟨world, pool.slots.push (some handle)⟩ slot = some found ↔
      slot = pool.slots.size ∧ handle = found ∨ pool.handle? slot = some found := by
  rw [handle?_push]
  split
  · rename_i last
    simp [handle?, last]
  · rename_i before
    simp [before]

theorem lt_size_of_handle? {pool : Pool H W} {slot : Nat} {handle : H}
    (live : pool.handle? slot = some handle) : slot < pool.slots.size := by
  by_cases inside : slot < pool.slots.size
  · exact inside
  · simp [handle?, inside] at live

/-- What becomes of a live handle does not touch the other slots. -/
theorem handle?_set {pool : Pool H W} {slot : Nat} {handle : H}
    (live : pool.handle? slot = some handle) (world : World W) (entry : Option H) (other : Nat) :
    handle? ⟨world, pool.slots.setIfInBounds slot entry⟩ other =
      if other = slot then entry else pool.handle? other := by
  have inBounds := lt_size_of_handle? live
  by_cases same : other = slot
  · simp [handle?, same, inBounds]
  · have different : slot ≠ other := fun equal => same equal.symm
    simp [handle?, same, different]

theorem handle?_set_eq_some_iff {pool : Pool H W} {slot : Nat} {handle : H}
    (live : pool.handle? slot = some handle) {world : World W} {entry : Option H} {other : Nat}
    {found : H} :
    handle? ⟨world, pool.slots.setIfInBounds slot entry⟩ other = some found ↔
      other = slot ∧ entry = some found ∨ other ≠ slot ∧ pool.handle? other = some found := by
  rw [handle?_set live]
  by_cases same : other = slot <;> simp [same]

variable [Backend H W]

/-- Creates a handle in the next slot and returns the slot, which stays empty after an error. -/
def create (pool : Pool H W) : Except Error Nat × Pool H W :=
  let (result, world) := (Backend.create (H := H)).run pool.toWorld
  match result with
  | .ok handle => (.ok pool.slots.size, ⟨world, pool.slots.push (some handle)⟩)
  | .error error => (.error error, ⟨world, pool.slots.push none⟩)

theorem create_snd (pool : Pool H W) :
    ∃ world entry, pool.create.2 = ⟨world, pool.slots.push entry⟩ := by
  unfold create
  split
  split
  · exact ⟨_, _, rfl⟩
  · exact ⟨_, _, rfl⟩

def drop (slot : Nat) (pool : Pool H W) : Bool × Pool H W :=
  match pool.handle? slot with
  | none => (false, pool)
  | some handle =>
    (true, ⟨Backend.release handle pool.toWorld, pool.slots.setIfInBounds slot none⟩)

/-- Drops every handle that is left, in the order of the slots. -/
def dropAll (pool : Pool H W) : Pool H W :=
  (List.range pool.slots.size).foldl (fun pool slot => (pool.drop slot).2) pool

def onHandle {α : Type} (slot : Nat) (action : SolverM H W α) (pool : Pool H W) :
    Option (Except Error α) × Pool H W :=
  match pool.handle? slot with
  | none => (none, pool)
  | some handle =>
    let (result, context) := action.run ⟨pool.toWorld, handle⟩
    (some result, ⟨context.toWorld, pool.slots.setIfInBounds slot (some context.handle)⟩)

def perform (slot : Nat) (command : Command) (pool : Pool H W) :
    Option (Except Error Answer) × Pool H W :=
  pool.onHandle slot command.perform

theorem perform_dropped {pool : Pool H W} {slot : Nat} (gone : pool.handle? slot = none)
    (command : Command) : pool.perform slot command = (none, pool) := by
  simp only [perform, onHandle, gone]

theorem perform_live {pool : Pool H W} {slot : Nat} {handle : H}
    (live : pool.handle? slot = some handle) (command : Command) :
    pool.perform slot command =
      (some (command.perform.run ⟨pool.toWorld, handle⟩).1,
        ⟨(command.perform.run ⟨pool.toWorld, handle⟩).2.toWorld,
          pool.slots.setIfInBounds slot
            (some (command.perform.run ⟨pool.toWorld, handle⟩).2.handle)⟩) := by
  simp only [perform, onHandle, live]
  rfl

/-- A command that leaves its handle and the world as they are leaves the pool as it is. -/
theorem perform_unchanged {pool : Pool H W} {slot : Nat} {handle : H}
    (live : pool.handle? slot = some handle) {command : Command} {result : Except Error Answer}
    (ran : command.perform.run ⟨pool.toWorld, handle⟩ = (result, ⟨pool.toWorld, handle⟩)) :
    pool.perform slot command = (some result, pool) := by
  have filled : pool.slots[slot]? = some (some handle) := Option.join_eq_some_iff.mp live
  have same : pool.slots.setIfInBounds slot (some handle) = pool.slots := by
    refine Array.ext_getElem? fun other => ?_
    rw [Array.getElem?_setIfInBounds]
    split
    · rename_i here
      rw [← here, filled, if_pos (lt_size_of_handle? live)]
    · rfl
  rw [perform_live live, ran, same]

inductive Step where
  | create
  | drop (slot : Nat)
  | perform (slot : Nat) (command : Command)
  deriving DecidableEq, Repr

inductive Response where
  | created (slot : Except Error Nat)
  | dropped (live : Bool)
  | performed (answer : Option (Except Error Answer))

def step (pool : Pool H W) : Step → Response × Pool H W
  | .create =>
    let (slot, pool) := pool.create
    (.created slot, pool)
  | .drop slot =>
    let (live, pool) := pool.drop slot
    (.dropped live, pool)
  | .perform slot command =>
    let (answer, pool) := pool.perform slot command
    (.performed answer, pool)

/-- The answers to some steps in order, and the pool after them. -/
def steps (pool : Pool H W) : List Step → List Response × Pool H W
  | [] => ([], pool)
  | s :: rest =>
    let (response, pool) := pool.step s
    let (responses, pool) := pool.steps rest
    (response :: responses, pool)

theorem size_slots_step (pool : Pool H W) (s : Step) :
    pool.slots.size ≤ (pool.step s).2.slots.size := by
  cases s with
  | create =>
      obtain ⟨world, entry, created⟩ := pool.create_snd
      change pool.slots.size ≤ pool.create.2.slots.size
      simp [created]
  | drop slot =>
      cases live : pool.handle? slot <;> simp [step, drop, live]
  | perform slot command =>
      cases live : pool.handle? slot with
      | none => simp [step, perform, onHandle, live]
      | some handle =>
          simp only [step, perform, onHandle, live]
          exact Nat.le_of_eq Array.size_setIfInBounds.symm

theorem steps_append (pool : Pool H W) (first second : List Step) :
    (pool.steps (first ++ second)).2 = ((pool.steps first).2.steps second).2 := by
  induction first generalizing pool with
  | nil => rfl
  | cons s rest ih => exact ih (pool.step s).2

end Pool

end SatBridge
