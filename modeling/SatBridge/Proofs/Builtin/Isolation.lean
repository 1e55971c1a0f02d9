import SatBridge.Proofs.Builtin.Places
import SatBridge.Proofs.Guarded.Distinct

/-!
# Handles do not interfere

Any number of handles on one builtin library, created and dropped at any time, and any order of the
operations on them. Main statement: live handles have pointers of their own, and each handle answers
as if there had never been another one, also where places are used again.
-/

set_option autoImplicit false

namespace SatBridge

section Steps

def Pool.Step.slot? : Pool.Step → Option Nat
  | .create => none
  | .drop slot => some slot
  | .perform slot _ => some slot

/-- The step in a pool with a single handle. -/
def Pool.Step.onFirst : Pool.Step → Pool.Step
  | .create => .create
  | .drop _ => .drop 0
  | .perform _ command => .perform 0 command

def Pool.ownSteps (slot : Nat) (steps : List Pool.Step) : List Pool.Step :=
  (steps.filter fun s => s.slot? = some slot).map Pool.Step.onFirst

theorem Pool.ownSteps_cons (slot : Nat) (s : Pool.Step) (rest : List Pool.Step) :
    Pool.ownSteps slot (s :: rest) =
      if s.slot? = some slot then s.onFirst :: Pool.ownSteps slot rest
      else Pool.ownSteps slot rest := by
  simp only [ownSteps, List.filter_cons, decide_eq_true_eq]
  split <;> rfl

variable {H W : Type} [Backend H W]

def Pool.ownResponses (slot : Nat) (pool : Pool H W) (steps : List Pool.Step) :
    List Pool.Response :=
  ((steps.zip (pool.steps steps).1).filter fun (s, _) => s.slot? = some slot).map Prod.snd

theorem Pool.ownResponses_cons (slot : Nat) (pool : Pool H W) (s : Pool.Step)
    (rest : List Pool.Step) :
    pool.ownResponses slot (s :: rest) =
      if s.slot? = some slot then (pool.step s).1 :: (pool.step s).2.ownResponses slot rest
      else (pool.step s).2.ownResponses slot rest := by
  simp only [ownResponses, steps, List.zip_cons_cons, List.filter_cons, decide_eq_true_eq]
  split <;> rfl

end Steps

/-- The statistics and the last result that a handle shows while it is live. -/
def Pool.view? {σ : Type} {lib : Library σ} (pool : Pool (GuardedSolver lib) σ) (slot : Nat) :
    Option (Stats × Option Status) :=
  (pool.handle? slot).map fun s => (s.stats, s.result?)

namespace Builtin

open SolverM GuardedSolver Function

variable {engine : Engine} {σ τ : Type}

section Pools

variable {lib : Library σ} {cell? : σ → Pointer → Option (Cell engine)}
  {pool next : Pool (GuardedSolver lib) σ}

/-- Every live handle stands for a live solver, and no two for the same one. -/
structure Separated (cell? : σ → Pointer → Option (Cell engine))
    (pool : Pool (GuardedSolver lib) σ) : Prop where
  live : ∀ slot s, pool.handle? slot = some s → ∃ cell, cell? pool.shared s.pointer = some cell
  distinct : pool.Distinct

/-- All that a step can do, given the slot it is on. -/
inductive Change (cell? : σ → Pointer → Option (Cell engine)) (pool : Pool (GuardedSolver lib) σ) :
    Option Nat → Pool (GuardedSolver lib) σ → Prop where
  | created {pointer : Pointer} {world : World σ} (free : cell? pool.shared pointer = none)
      (cells : cell? world.shared = update (cell? pool.shared) pointer (some .fresh)) :
      Change cell? pool none ⟨world, pool.slots.push (some ⟨pointer, .configuring, false, .zero⟩)⟩
  | absent {slot : Nat} (gone : pool.handle? slot = none) : Change cell? pool (some slot) pool
  | touched {slot : Nat} {s : GuardedSolver lib} {world : World σ}
      {entry : Option (GuardedSolver lib)} (live : pool.handle? slot = some s)
      (kept : ∀ t, entry = some t →
        t.pointer = s.pointer ∧ ∃ cell, cell? world.shared s.pointer = some cell)
      (frame : ∀ other ≠ s.pointer, cell? world.shared other = cell? pool.shared other) :
      Change cell? pool (some slot) ⟨world, pool.slots.setIfInBounds slot entry⟩

theorem create_of_serves (serves : Serves lib cell?) (pool : Pool (GuardedSolver lib) σ) :
    ∃ pointer world, pool.create = (.ok pool.slots.size,
        ⟨world, pool.slots.push (some ⟨pointer, .configuring, false, .zero⟩)⟩) ∧
      cell? pool.shared pointer = none ∧
        cell? world.shared = update (cell? pool.shared) pointer (some .fresh) := by
  obtain ⟨pointer, given, free, cells⟩ := serves.init pool.shared
  obtain ⟨log, ran⟩ : ∃ log, (Backend.create : WorldM σ (GuardedSolver lib)).run pool.toWorld = _ :=
    run_create given
  refine ⟨pointer, ⟨(lib.init pool.shared).memory, log⟩, ?_, free, cells⟩
  simp only [Pool.create, ran]

theorem change_step (serves : Serves lib cell?) (separated : Separated cell? pool)
    (s : Pool.Step) : Change cell? pool s.slot? (pool.step s).2 := by
  cases s with
  | create =>
      obtain ⟨pointer, world, created, free, cells⟩ := create_of_serves serves pool
      change Change cell? pool none pool.create.2
      rw [created]
      exact .created free cells
  | drop slot =>
      change Change cell? pool (some slot) (pool.drop slot).2
      cases live : pool.handle? slot with
      | none =>
          simp only [Pool.drop, live]
          exact .absent live
      | some s =>
          simp only [Pool.drop, live]
          refine .touched live (fun _ kept => by cases kept) fun other different => ?_
          have released : cell? (Backend.release s pool.toWorld).shared = _ :=
            serves.release s.pointer pool.shared
          rw [released, update_of_ne different]
  | perform slot command =>
      change Change cell? pool (some slot) (pool.perform slot command).2
      cases live : pool.handle? slot with
      | none =>
          rw [Pool.perform_dropped live]
          exact .absent live
      | some s =>
          rw [Pool.perform_live live]
          obtain ⟨cell, stored⟩ := separated.live slot s live
          obtain ⟨same, kept, frame⟩ := perform_frame serves (c := ⟨pool.toWorld, s⟩) stored command
          refine .touched live ?_ frame
          rintro t ⟨⟩
          exact ⟨same, kept⟩

theorem Separated.pointer_ne_of_free (separated : Separated cell? pool) {pointer : Pointer}
    (free : cell? pool.shared pointer = none) {slot : Nat} {s : GuardedSolver lib}
    (live : pool.handle? slot = some s) : s.pointer ≠ pointer := by
  intro same
  obtain ⟨cell, stored⟩ := separated.live slot s live
  rw [same, free] at stored
  cases stored

theorem Separated.created (separated : Separated cell? pool) {pointer : Pointer} {world : World σ}
    (free : cell? pool.shared pointer = none)
    (cells : cell? world.shared = update (cell? pool.shared) pointer (some .fresh)) :
    Separated cell?
      (⟨world, pool.slots.push (some ⟨pointer, .configuring, false, .zero⟩)⟩ :
        Pool (GuardedSolver lib) σ) where
  live slot s found := by
    dsimp only
    rw [cells]
    cases Pool.handle?_push_some_iff.mp found with
    | inl fresh =>
        obtain ⟨_, rfl⟩ := fresh
        exact ⟨.fresh, update_self ..⟩
    | inr old =>
        rw [update_of_ne (separated.pointer_ne_of_free free old)]
        exact separated.live slot s old
  distinct := separated.distinct.push fun _ _ live => separated.pointer_ne_of_free free live

theorem Separated.touched (separated : Separated cell? pool) {slot : Nat} {s : GuardedSolver lib}
    {world : World σ} {entry : Option (GuardedSolver lib)} (live : pool.handle? slot = some s)
    (kept : ∀ t, entry = some t →
      t.pointer = s.pointer ∧ ∃ cell, cell? world.shared s.pointer = some cell)
    (frame : ∀ other ≠ s.pointer, cell? world.shared other = cell? pool.shared other) :
    Separated cell? (⟨world, pool.slots.setIfInBounds slot entry⟩ : Pool (GuardedSolver lib) σ) where
  live other t found := by
    dsimp only
    cases (Pool.handle?_set_eq_some_iff live).mp found with
    | inl own =>
        obtain ⟨same, stored⟩ := kept t own.2
        rwa [same]
    | inr old =>
        rw [frame t.pointer (separated.distinct.pointer_ne live old.2 old.1)]
        exact separated.live other t old.2
  distinct := separated.distinct.set live fun t same => (kept t same).1

theorem Separated.change {slot? : Option Nat} (separated : Separated cell? pool)
    (change : Change cell? pool slot? next) : Separated cell? next := by
  cases change with
  | created free cells => exact separated.created free cells
  | absent gone => exact separated
  | touched live kept frame => exact separated.touched live kept frame

/-- A step on another slot leaves the handle in a slot and the solver behind it as they are. -/
theorem Change.other {slot? : Option Nat} (change : Change cell? pool slot? next)
    (separated : Separated cell? pool) {slot : Nat} (inside : slot < pool.slots.size)
    (different : slot? ≠ some slot) :
    next.handle? slot = pool.handle? slot ∧ slot < next.slots.size ∧
      ∀ s, pool.handle? slot = some s → cell? next.shared s.pointer = cell? pool.shared s.pointer := by
  cases change with
  | @created pointer world free cells =>
      refine ⟨?_, ?_, fun s live => ?_⟩
      · rw [Pool.handle?_push, if_neg (Nat.ne_of_lt inside)]
      · rw [Array.size_push]
        exact Nat.lt_succ_of_lt inside
      · dsimp only
        rw [cells, update_of_ne (separated.pointer_ne_of_free free live)]
  | absent gone => exact ⟨rfl, inside, fun _ _ => rfl⟩
  | @touched touched s world entry live kept frame =>
      have apart : slot ≠ touched := fun same => different (congrArg some same.symm)
      refine ⟨?_, ?_, fun t liveHere => ?_⟩
      · rw [Pool.handle?_set live, if_neg apart]
      · rwa [Array.size_setIfInBounds]
      · exact frame t.pointer (separated.distinct.pointer_ne live liveHere apart)

theorem separated_steps (serves : Serves lib cell?) (separated : Separated cell? pool)
    (steps : List Pool.Step) : Separated cell? (pool.steps steps).2 := by
  induction steps generalizing pool with
  | nil => exact separated
  | cons s rest ih => exact ih (separated.change (change_step serves separated s))

end Pools

section Runs

variable {first : Library σ} {second : Library τ} {here? : σ → Pointer → Option (Cell engine)}
  {there? : τ → Pointer → Option (Cell engine)} {pool : Pool (GuardedSolver first) σ} {slot : Nat}
  {alone : Pool (GuardedSolver second) τ}

/-- The handle in a slot is as far as the only handle of another pool, or both are dropped. -/
inductive Alike (here? : σ → Pointer → Option (Cell engine))
    (there? : τ → Pointer → Option (Cell engine)) (pool : Pool (GuardedSolver first) σ) (slot : Nat)
    (alone : Pool (GuardedSolver second) τ) : Prop where
  | dropped (gone : pool.handle? slot = none) (goneThere : alone.handle? 0 = none)
  | live {s : GuardedSolver first} {t : GuardedSolver second} (live : pool.handle? slot = some s)
      (liveThere : alone.handle? 0 = some t)
      (twins : Twins (Shares here? there?) ⟨pool.toWorld, s⟩ ⟨alone.toWorld, t⟩)

theorem Alike.view? (alike : Alike here? there? pool slot alone) :
    pool.view? slot = alone.view? 0 := by
  cases alike with
  | dropped gone goneThere => simp [Pool.view?, gone, goneThere]
  | live live liveThere twins =>
      have stats := twins.stats
      have result := twins.result?
      simp only [Pool.view?, live, liveThere, Option.map_some]
      rw [show _ = _ from stats, show _ = _ from result]

theorem Alike.foreign (alike : Alike here? there? pool slot alone)
    (separated : Separated here? pool) (inside : slot < pool.slots.size) {slot? : Option Nat}
    {next : Pool (GuardedSolver first) σ} (change : Change here? pool slot? next)
    (different : slot? ≠ some slot) : Alike here? there? next slot alone := by
  obtain ⟨same, _, cells⟩ := change.other separated inside different
  cases alike with
  | dropped gone goneThere => exact .dropped (same.trans gone) goneThere
  | @live s t live liveThere twins =>
      obtain ⟨cell, stored, storedThere⟩ := twins.behind
      refine .live (same.trans live) liveThere ⟨twins.phase, twins.midClause, twins.stats, cell, ?_,
        storedThere⟩
      exact (cells s live).trans stored

theorem Alike.perform (serves : Serves first here?) (servesThere : Serves second there?)
    (alike : Alike here? there? pool slot alone) (command : Command) :
    (pool.perform slot command).1 = (alone.perform 0 command).1 ∧
      Alike here? there? (pool.perform slot command).2 slot (alone.perform 0 command).2 := by
  cases alike with
  | dropped gone goneThere =>
      rw [Pool.perform_dropped gone, Pool.perform_dropped goneThere]
      exact ⟨rfl, .dropped gone goneThere⟩
  | @live s t live liveThere twins =>
      have only : Twins (SharesOnly here? there? s.pointer (here? pool.shared))
          (⟨pool.toWorld, s⟩ : Context (GuardedSolver first) σ) ⟨alone.toWorld, t⟩ :=
        ⟨twins.phase, twins.midClause, twins.stats, rfl, twins.behind, fun _ _ => rfl⟩
      have simulates : first.Simulates second
          (SharesOnly here? there? s.pointer (here? pool.shared)) :=
        simulates_of_serves serves servesThere
      obtain ⟨same, after⟩ := (agree_of_simulates simulates).perform command _ _ only
      rw [Pool.perform_live live, Pool.perform_live liveThere]
      refine ⟨congrArg some same, .live ?_ ?_
        ⟨after.phase, after.midClause, after.stats, after.behind.shares⟩⟩
      · rw [Pool.handle?_set live, if_pos rfl]
      · rw [Pool.handle?_set liveThere, if_pos rfl]

theorem Alike.drop (alike : Alike here? there? pool slot alone) :
    (pool.drop slot).1 = (alone.drop 0).1 ∧
      Alike here? there? (pool.drop slot).2 slot (alone.drop 0).2 := by
  cases alike with
  | dropped gone goneThere =>
      simp only [Pool.drop, gone, goneThere]
      exact ⟨trivial, .dropped gone goneThere⟩
  | live live liveThere twins =>
      simp only [Pool.drop, live, liveThere]
      refine ⟨trivial, .dropped ?_ ?_⟩
      · rw [Pool.handle?_set live, if_pos rfl]
      · rw [Pool.handle?_set liveThere, if_pos rfl]

theorem Alike.own (serves : Serves first here?) (servesThere : Serves second there?)
    (alike : Alike here? there? pool slot alone) {s : Pool.Step} (own : s.slot? = some slot) :
    (pool.step s).1 = (alone.step s.onFirst).1 ∧
      Alike here? there? (pool.step s).2 slot (alone.step s.onFirst).2 := by
  cases s with
  | create => cases own
  | drop other =>
      cases own
      obtain ⟨same, after⟩ := alike.drop
      exact ⟨congrArg Pool.Response.dropped same, after⟩
  | perform other command =>
      cases own
      obtain ⟨same, after⟩ := alike.perform serves servesThere command
      exact ⟨congrArg Pool.Response.performed same, after⟩

/-- Whatever happens on the other slots, the steps on one slot come out as if they were alone. -/
theorem Alike.steps (serves : Serves first here?) (servesThere : Serves second there?)
    (alike : Alike here? there? pool slot alone) (separated : Separated here? pool)
    (inside : slot < pool.slots.size) (steps : List Pool.Step) :
    pool.ownResponses slot steps = (alone.steps (Pool.ownSteps slot steps)).1 ∧
      Alike here? there? (pool.steps steps).2 slot (alone.steps (Pool.ownSteps slot steps)).2 := by
  induction steps generalizing pool alone with
  | nil => exact ⟨rfl, alike⟩
  | cons s rest ih =>
      have change := change_step serves separated s
      have after := separated.change change
      have still := Nat.lt_of_lt_of_le inside (pool.size_slots_step s)
      rw [Pool.ownResponses_cons]
      -- A step on another slot has no counterpart in the other pool, which waits for the next one.
      by_cases own : s.slot? = some slot
      · obtain ⟨same, alike⟩ := alike.own serves servesThere own
        obtain ⟨others, later⟩ := ih alike after still
        rw [if_pos own, Pool.ownSteps_cons, if_pos own, same, others]
        exact ⟨rfl, later⟩
      · obtain ⟨others, later⟩ := ih (alike.foreign separated inside change own) after still
        rw [if_neg own, Pool.ownSteps_cons, if_neg own]
        exact ⟨others, later⟩

end Runs

section Main

variable (lib : Library σ) (start : σ)

/-- A handle that is created at any time, with any steps on it and on other handles before and
after, answers like the first and only handle on the builtin library; and live handles never have
the same pointer. -/
structure Isolated (engine : Engine) : Prop where
  distinct : ∀ steps, ((Pool.ofShared start : Pool (GuardedSolver lib) σ).steps steps).2.Distinct
  alone : ∀ before after : List Pool.Step,
    let pool := ((Pool.ofShared start : Pool (GuardedSolver lib) σ).steps before).2
    let slot := pool.slots.size
    let only := (Pool.ofShared .empty : Pool (GuardedSolver (library engine)) (Memory engine)).create.2
    pool.create.1 = .ok slot ∧
      pool.create.2.ownResponses slot after = (only.steps (Pool.ownSteps slot after)).1 ∧
      (pool.create.2.steps after).2.view? slot = (only.steps (Pool.ownSteps slot after)).2.view? 0

variable {lib start}

theorem isolated_of_serves {cell? : σ → Pointer → Option (Cell engine)}
    (serves : Serves lib cell?) : Isolated lib start engine := by
  have separated (steps : List Pool.Step) : Separated cell?
      ((Pool.ofShared start : Pool (GuardedSolver lib) σ).steps steps).2 := by
    refine separated_steps serves ⟨fun slot s live => ?_, fun slot other s t live => ?_⟩ steps
    · simp [Pool.ofShared, Pool.handle?] at live
    · simp [Pool.ofShared, Pool.handle?] at live
  constructor
  · intro steps
    exact (separated steps).distinct
  · intro before after
    dsimp only
    generalize pooled : ((Pool.ofShared start : Pool (GuardedSolver lib) σ).steps before).2 = pool
    have apart : Separated cell? pool := pooled ▸ separated before
    obtain ⟨pointer, world, created, free, cells⟩ := create_of_serves serves pool
    obtain ⟨place, worldAlone, createdAlone, _, cellsAlone⟩ := create_of_serves serves_library
      (Pool.ofShared .empty : Pool (GuardedSolver (library engine)) (Memory engine))
    rw [created, createdAlone]
    have alike : Alike cell? Memory.cell?
        (⟨world, pool.slots.push (some ⟨pointer, .configuring, false, .zero⟩)⟩ :
          Pool (GuardedSolver lib) σ) pool.slots.size
        (⟨worldAlone, #[some ⟨place, .configuring, false, .zero⟩]⟩ :
          Pool (GuardedSolver (library engine)) (Memory engine)) := by
      refine .live (Pool.handle?_push_some_iff.mpr (.inl ⟨rfl, rfl⟩)) rfl
        ⟨rfl, rfl, rfl, .fresh, ?_, ?_⟩
      · dsimp only
        rw [cells, update_self]
      · dsimp only
        rw [cellsAlone, update_self]
    have inside : pool.slots.size < (pool.slots.push
        (some (⟨pointer, .configuring, false, .zero⟩ : GuardedSolver lib))).size := by simp
    obtain ⟨same, later⟩ := alike.steps serves serves_library (apart.created free cells) inside after
    exact ⟨rfl, same, later.view?⟩

/-- Handles on one builtin library do not interfere, also where places are used again, and however
these are chosen. -/
theorem handles_isolated (engine : Engine) :
    Isolated (library engine) .empty engine ∧
      ∀ proposed, Isolated (reusing engine) ⟨.empty, proposed⟩ engine :=
  ⟨isolated_of_serves serves_library, fun _ => isolated_of_serves serves_reusing⟩

/-- The third solver is put where the first one was. -/
example : (((Pool.ofShared ⟨.empty, [5, 5, 0]⟩ :
    Pool (GuardedSolver (reusing Search.engine)) (Heap Search.engine)).steps
      [.create, .create, .drop 0, .create]).2.handle? 2).map (·.pointer) = some 0 := by
  rfl

end Main

end Builtin

end SatBridge
