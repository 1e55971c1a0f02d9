import SatBridge.Proofs.Guarded.Distinct
import SatBridge.Proofs.Protocol.Handle

/-!
# The words of a pool

Any number of handles over one library, and any order of steps. The library is any table of entry
points, so its replies may be arbitrary. Main statement: every step keeps an account in which each
live handle tracks the word of a solver of its own, and all other words have ended.
-/

set_option autoImplicit false

namespace SatBridge.Protocol

open SolverM GuardedSolver

variable {σ : Type} {lib : Library σ}

abbrev RecordedPool (lib : Library σ) := Pool (GuardedSolver lib.recorded) (Recording σ)

/-- The calls on a solver since the recording began. -/
def wordOf (pool : RecordedPool lib) (solver : Nat) : List Call :=
  callsOn solver pool.shared.calls.toList

def Dropped (pool : RecordedPool lib) (solver : Nat) : Prop :=
  ∀ slot s, pool.handle? slot = some s → s.pointer ≠ solver

/-- Each live handle tracks the word of a solver of its own, and the words of all other solvers
have ended with their release. -/
structure Accounted (pool : RecordedPool lib) : Prop where
  tracked : ∀ slot s, pool.handle? slot = some s → Tracks s (wordOf pool s.pointer)
  numbered : ∀ slot s, pool.handle? slot = some s → s.pointer < pool.shared.pointers.size
  distinct : ∀ slot other s t, pool.handle? slot = some s → pool.handle? other = some t →
    s.pointer = t.pointer → slot = other
  released : ∀ solver < pool.shared.pointers.size, Dropped pool solver →
    ∃ word, Live word ∧ wordOf pool solver = word ++ [.release solver] ∧
      SingleShot (wordOf pool solver)
  known : ∀ call ∈ pool.shared.calls, ∀ solver, call.solver? = some solver →
    solver < pool.shared.pointers.size

theorem accounted_start (memory : σ) :
    Accounted (Pool.ofShared (Recording.start memory) : RecordedPool lib) where
  tracked slot s live := by simp [Pool.ofShared, Pool.handle?] at live
  numbered slot s live := by simp [Pool.ofShared, Pool.handle?] at live
  distinct slot other s t live := by simp [Pool.ofShared, Pool.handle?] at live
  released solver bound := by simp [Pool.ofShared, Recording.start] at bound
  known call member := by simp [Pool.ofShared, Recording.start] at member

/-- Calls on one solver do not show in the word of another. -/
theorem GrewBy.callsOn_other {solver other : Nat} {base r : Recording σ}
    (grew : GrewBy solver base r) (different : other ≠ solver) :
    callsOn other r.calls.toList = callsOn other base.calls.toList := by
  obtain ⟨_, extra, calls, own⟩ := grew
  rw [calls, callsOn_append]
  have none : callsOn other extra = [] := callsOn_eq_nil fun call member named => by
    rw [own call member] at named
    exact different (Option.some.inj named).symm
  rw [none, List.append_nil]

theorem GrewBy.known {solver : Nat} {base r : Recording σ} (grew : GrewBy solver base r)
    (numbered : solver < base.pointers.size)
    (known : ∀ call ∈ base.calls, ∀ other, call.solver? = some other → other < base.pointers.size) :
    ∀ call ∈ r.calls, ∀ other, call.solver? = some other → other < r.pointers.size := by
  obtain ⟨samePointers, extra, calls, own⟩ := grew
  intro call member other named
  rw [samePointers]
  rw [← Array.mem_toList_iff, calls, List.mem_append] at member
  rcases member with earlier | added
  · exact known call (Array.mem_toList_iff.mp earlier) other named
  · rw [own call added] at named
    exact Option.some.inj named ▸ numbered

/-- What a step does to one live handle, if all its calls are on the solver of that handle: the
other solvers and their words stay as they are. -/
theorem Accounted.set {pool : RecordedPool lib} (accounted : Accounted pool) {slot : Nat}
    {s : GuardedSolver lib.recorded} (live : pool.handle? slot = some s)
    {world : World (Recording σ)} (grew : GrewBy s.pointer pool.shared world.shared)
    {entry : Option (GuardedSolver lib.recorded)}
    (kept : ∀ handle, entry = some handle → handle.pointer = s.pointer ∧
      Tracks handle (callsOn s.pointer world.shared.calls.toList))
    (ended : entry = none → ∃ word, Live word ∧
      callsOn s.pointer world.shared.calls.toList = word ++ [.release s.pointer] ∧
      SingleShot (callsOn s.pointer world.shared.calls.toList)) :
    Accounted (⟨world, pool.slots.setIfInBounds slot entry⟩ : RecordedPool lib) where
  tracked other t found := by
    rcases (Pool.handle?_set_eq_some_iff live).mp found with ⟨_, stays⟩ | ⟨different, found⟩
    · obtain ⟨number, tracks⟩ := kept t stays
      rw [number]
      exact tracks
    · have otherSolver : t.pointer ≠ s.pointer := fun same =>
        different (accounted.distinct other slot t s found live same)
      have tracked := accounted.tracked other t found
      rwa [wordOf, ← grew.callsOn_other otherSolver] at tracked
  numbered other t found := by
    simp only [grew.pointers]
    rcases (Pool.handle?_set_eq_some_iff live).mp found with ⟨_, stays⟩ | ⟨_, found⟩
    · rw [(kept t stays).1]
      exact accounted.numbered slot s live
    · exact accounted.numbered other t found
  distinct := Pool.Distinct.set accounted.distinct live fun t stays => (kept t stays).1
  released solver bound dropped := by
    simp only [grew.pointers] at bound
    by_cases own : solver = s.pointer
    · cases entry with
      | none => exact own ▸ ended rfl
      | some handle =>
          have here : Pool.handle?
              (⟨world, pool.slots.setIfInBounds slot (some handle)⟩ : RecordedPool lib) slot =
              some handle :=
            (Pool.handle?_set_eq_some_iff live).mpr (.inl ⟨rfl, rfl⟩)
          exact absurd ((kept handle rfl).1.trans own.symm) (dropped slot handle here)
    · have droppedBefore : Dropped pool solver := by
        intro other t found same
        by_cases here : other = slot
        · rw [here, live] at found
          exact own (Option.some.inj found ▸ same).symm
        · exact dropped other t ((Pool.handle?_set_eq_some_iff live).mpr (.inr ⟨here, found⟩)) same
      have released := accounted.released solver bound droppedBefore
      rwa [wordOf, ← grew.callsOn_other own] at released
  known := grew.known (accounted.numbered slot s live) accounted.known

theorem Accounted.after_command {pool : RecordedPool lib} (accounted : Accounted pool)
    {slot : Nat} {s : GuardedSolver lib.recorded} (live : pool.handle? slot = some s)
    (command : Command) :
    Following s.pointer pool.shared (command.perform.run ⟨pool.toWorld, s⟩).2 :=
  (keeps_following s.pointer pool.shared).perform command _
    ⟨rfl, GrewBy.refl _ _, accounted.tracked slot s live⟩

/-- A command extends the word of the solver it is for, and no other word. -/
theorem Accounted.perform {pool : RecordedPool lib} (accounted : Accounted pool) (slot : Nat)
    (command : Command) : Accounted (pool.perform slot command).2 := by
  cases live : pool.handle? slot with
  | none =>
      rw [Pool.perform_dropped live]
      exact accounted
  | some s =>
      rw [Pool.perform_live live]
      have after := accounted.after_command live command
      refine accounted.set live after.grew ?_ (fun gone => by cases gone)
      rintro handle ⟨⟩
      exact ⟨after.number, after.tracks⟩

/-- A release ends the word of its solver, and shows in no other word. -/
theorem release_grew (s : GuardedSolver lib.recorded) (world : World (Recording σ)) :
    GrewBy s.pointer world.shared (Backend.release s world).shared ∧
      callsOn s.pointer (Backend.release s world).shared.calls.toList =
        callsOn s.pointer world.shared.calls.toList ++ [.release s.pointer] := by
  have names : ∀ reply : Unit,
      ((fun _ => .release s.pointer : Unit → Call) reply).solver? = some s.pointer :=
    fun _ => rfl
  exact ⟨(GrewBy.refl s.pointer world.shared).perform lib.release names,
    callsOn_perform lib.release names world.shared⟩

theorem Accounted.drop {pool : RecordedPool lib} (accounted : Accounted pool) (slot : Nat) :
    Accounted (pool.drop slot).2 := by
  cases live : pool.handle? slot with
  | none =>
      simp only [Pool.drop, live]
      exact accounted
  | some s =>
      simp only [Pool.drop, live]
      have tracks := accounted.tracked slot s live
      obtain ⟨grew, word⟩ := release_grew s pool.toWorld
      have allowed : AllowedAfter (wordOf pool s.pointer) (.release s.pointer) := tracks.live
      refine accounted.set live grew (fun _ stays => by cases stays) fun _ => ?_
      exact ⟨wordOf pool s.pointer, tracks.live, word, word ▸ tracks.conforms.snoc allowed⟩

theorem Accounted.create_null {pool : RecordedPool lib} (accounted : Accounted pool)
    {world : World (Recording σ)} (samePointers : world.shared.pointers = pool.shared.pointers)
    (calls : world.shared.calls = pool.shared.calls.push (.init none)) :
    Accounted (⟨world, pool.slots.push none⟩ : RecordedPool lib) := by
  have sameWord (solver : Nat) :
      wordOf (⟨world, pool.slots.push none⟩ : RecordedPool lib) solver = wordOf pool solver := by
    simp [wordOf, calls, callsOn, Call.solver?]
  constructor
  · intro slot s live
    rw [Pool.handle?_push_none] at live
    rw [sameWord]
    exact accounted.tracked slot s live
  · intro slot s live
    rw [Pool.handle?_push_none] at live
    exact samePointers ▸ accounted.numbered slot s live
  · intro slot other s t first second
    rw [Pool.handle?_push_none] at first second
    exact accounted.distinct slot other s t first second
  · intro solver bound dropped
    rw [sameWord]
    refine accounted.released solver (samePointers ▸ bound) fun slot s live => ?_
    exact dropped slot s ((Pool.handle?_push_none pool world slot).trans live)
  · intro call member solver named
    simp only [calls, Array.mem_push] at member
    rcases member with earlier | rfl
    · exact samePointers ▸ accounted.known call earlier solver named
    · cases named

/-- A new handle stands for a solver on which nothing was called before its init. -/
theorem Accounted.create_given {pool : RecordedPool lib} (accounted : Accounted pool)
    {world : World (Recording σ)} {pointer : Pointer}
    (pointers : world.shared.pointers = pool.shared.pointers.push pointer)
    (calls : world.shared.calls =
      pool.shared.calls.push (.init (some pool.shared.pointers.size))) :
    Accounted (⟨world, pool.slots.push
      (some ⟨pool.shared.pointers.size, .configuring, false, .zero⟩)⟩ : RecordedPool lib) := by
  generalize fresh : (⟨pool.shared.pointers.size, .configuring, false, .zero⟩ :
    GuardedSolver lib.recorded) = s
  have number : s.pointer = pool.shared.pointers.size := by rw [← fresh]
  have size : world.shared.pointers.size = pool.shared.pointers.size + 1 := by
    simp [pointers]
  have sameWord {solver : Nat} (older : solver < pool.shared.pointers.size) :
      callsOn solver world.shared.calls.toList = wordOf pool solver := by
    have different : pool.shared.pointers.size ≠ solver := by omega
    simp [wordOf, calls, callsOn, Call.solver?, different]
  have newWord : callsOn pool.shared.pointers.size world.shared.calls.toList =
      [.init (some pool.shared.pointers.size)] := by
    have unused : callsOn pool.shared.pointers.size pool.shared.calls.toList = [] := by
      refine callsOn_eq_nil fun call member named => ?_
      exact Nat.lt_irrefl _ (accounted.known call (Array.mem_toList_iff.mp member) _ named)
    rw [calls, Array.toList_push, callsOn_append, unused]
    exact callsOn_eq_self (by simp [Call.solver?])
  constructor
  · intro slot t found
    rcases Pool.handle?_push_some_iff.mp found with ⟨_, rfl⟩ | old
    · rw [wordOf, number, newWord, ← fresh]
      exact tracks_fresh _ _
    · rw [wordOf, sameWord (accounted.numbered slot t old)]
      exact accounted.tracked slot t old
  · intro slot t found
    simp only [size]
    rcases Pool.handle?_push_some_iff.mp found with ⟨_, rfl⟩ | old
    · rw [number]
      exact Nat.lt_succ_self _
    · exact Nat.lt_succ_of_lt (accounted.numbered slot t old)
  · refine Pool.Distinct.push accounted.distinct fun slot t old => ?_
    rw [number]
    exact Nat.ne_of_lt (accounted.numbered slot t old)
  · intro solver bound dropped
    simp only [size] at bound
    have here : Pool.handle? (⟨world, pool.slots.push (some s)⟩ : RecordedPool lib)
        pool.slots.size = some s :=
      Pool.handle?_push_some_iff.mpr (.inl ⟨rfl, rfl⟩)
    have older : solver < pool.shared.pointers.size :=
      Nat.lt_of_le_of_ne (Nat.lt_succ_iff.mp bound) fun equal =>
        dropped pool.slots.size s here (number.trans equal.symm)
    rw [wordOf, sameWord older]
    refine accounted.released solver older fun slot t found => ?_
    exact dropped slot t (Pool.handle?_push_some_iff.mpr (.inr found))
  · intro call member solver named
    simp only [calls, Array.mem_push, size] at member ⊢
    rcases member with earlier | rfl
    · exact Nat.lt_succ_of_lt (accounted.known call earlier solver named)
    · rw [← Option.some.inj named]
      exact Nat.lt_succ_self _

theorem create_cases (pool : RecordedPool lib) :
    (∃ world, pool.create = (.error .nullHandle, ⟨world, pool.slots.push none⟩) ∧
      world.shared.pointers = pool.shared.pointers ∧
      world.shared.calls = pool.shared.calls.push (.init none)) ∨
    ∃ world pointer, pool.create = (.ok pool.slots.size, ⟨world, pool.slots.push
        (some ⟨pool.shared.pointers.size, .configuring, false, .zero⟩)⟩) ∧
      world.shared.pointers = pool.shared.pointers.push pointer ∧
      world.shared.calls =
        pool.shared.calls.push (.init (some pool.shared.pointers.size)) := by
  cases reply : (lib.init pool.shared.memory).value with
  | none =>
      obtain ⟨null, samePointers, calls⟩ := init_null reply
      obtain ⟨log, ran⟩ : ∃ log, (Backend.create :
          WorldM (Recording σ) (GuardedSolver lib.recorded)).run pool.toWorld = _ :=
        run_create_null null
      refine .inl ⟨⟨(lib.recorded.init pool.shared).memory, log⟩, ?_, samePointers, calls⟩
      simp only [Pool.create, ran]
  | some pointer =>
      obtain ⟨given, pointers, calls⟩ := init_given reply
      obtain ⟨log, ran⟩ : ∃ log, (Backend.create :
          WorldM (Recording σ) (GuardedSolver lib.recorded)).run pool.toWorld = _ :=
        run_create given
      refine .inr ⟨⟨(lib.recorded.init pool.shared).memory, log⟩, pointer, ?_, pointers, calls⟩
      simp only [Pool.create, ran]

theorem Accounted.create {pool : RecordedPool lib} (accounted : Accounted pool) :
    Accounted pool.create.2 := by
  obtain ⟨world, created, samePointers, calls⟩ | ⟨world, pointer, created, pointers, calls⟩ :=
    create_cases pool
  · rw [created]
    exact accounted.create_null samePointers calls
  · rw [created]
    exact accounted.create_given pointers calls

theorem Accounted.step {pool : RecordedPool lib} (accounted : Accounted pool) (step : Pool.Step) :
    Accounted (pool.step step).2 := by
  cases step with
  | create => exact accounted.create
  | drop slot => exact accounted.drop slot
  | perform slot command => exact accounted.perform slot command

theorem Accounted.steps {pool : RecordedPool lib} (accounted : Accounted pool)
    (steps : List Pool.Step) : Accounted (pool.steps steps).2 := by
  induction steps generalizing pool with
  | nil => exact accounted
  | cons step rest ih => exact ih (accounted.step step)

/-- No step fills a slot that exists already, or changes the solver that its handle stands for. -/
theorem handle_of_step {pool : RecordedPool lib} (accounted : Accounted pool) {step : Pool.Step}
    {slot : Nat} (exists_slot : slot < pool.slots.size) {t : GuardedSolver lib.recorded}
    (live : (pool.step step).2.handle? slot = some t) :
    ∃ s, pool.handle? slot = some s ∧ s.pointer = t.pointer := by
  cases step with
  | create =>
      have behind : slot ≠ pool.slots.size := Nat.ne_of_lt exists_slot
      obtain ⟨world, entry, created⟩ := pool.create_snd
      change pool.create.2.handle? slot = some t at live
      rw [created, Pool.handle?_push, if_neg behind] at live
      exact ⟨t, live, rfl⟩
  | drop dropped =>
      cases found : pool.handle? dropped with
      | none =>
          simp only [Pool.step, Pool.drop, found] at live
          exact ⟨t, live, rfl⟩
      | some s =>
          simp only [Pool.step, Pool.drop, found] at live
          rcases (Pool.handle?_set_eq_some_iff found).mp live with ⟨_, gone⟩ | ⟨_, old⟩
          · cases gone
          · exact ⟨t, old, rfl⟩
  | perform here command =>
      cases found : pool.handle? here with
      | none =>
          simp only [Pool.step, Pool.perform_dropped found] at live
          exact ⟨t, live, rfl⟩
      | some s =>
          simp only [Pool.step, Pool.perform_live found] at live
          have after := accounted.after_command found command
          rcases (Pool.handle?_set_eq_some_iff found).mp live with ⟨rfl, same⟩ | ⟨_, old⟩
          · exact ⟨s, found, Option.some.inj same ▸ after.number.symm⟩
          · exact ⟨t, old, rfl⟩

theorem handle_of_steps {pool : RecordedPool lib} (accounted : Accounted pool)
    (steps : List Pool.Step) {slot : Nat} (exists_slot : slot < pool.slots.size)
    {t : GuardedSolver lib.recorded} (live : (pool.steps steps).2.handle? slot = some t) :
    ∃ s, pool.handle? slot = some s ∧ s.pointer = t.pointer := by
  induction steps generalizing pool with
  | nil => exact ⟨t, live, rfl⟩
  | cons step rest ih =>
      have remains : slot < (pool.step step).2.slots.size :=
        Nat.lt_of_lt_of_le exists_slot (pool.size_slots_step step)
      obtain ⟨u, liveBetween, sameLater⟩ := ih (accounted.step step) remains live
      obtain ⟨s, liveBefore, sameEarlier⟩ := handle_of_step accounted exists_slot liveBetween
      exact ⟨s, liveBefore, sameEarlier.trans sameLater⟩

/-- A solver whose handle was dropped: no step gives it a handle again, or calls it. -/
structure Ended (pool : RecordedPool lib) (solver : Nat) (word : List Call) : Prop where
  numbered : solver < pool.shared.pointers.size
  dropped : Dropped pool solver
  word : wordOf pool solver = word

section Ended

variable {pool : RecordedPool lib} {solver : Nat} {word : List Call}

theorem Ended.set (ended : Ended pool solver word) {slot : Nat} {s : GuardedSolver lib.recorded}
    (live : pool.handle? slot = some s) {world : World (Recording σ)}
    (grew : GrewBy s.pointer pool.shared world.shared)
    {entry : Option (GuardedSolver lib.recorded)}
    (kept : ∀ handle, entry = some handle → handle.pointer = s.pointer) :
    Ended (⟨world, pool.slots.setIfInBounds slot entry⟩ : RecordedPool lib) solver word where
  numbered := by
    simp only [grew.pointers]
    exact ended.numbered
  dropped other t found := by
    rcases (Pool.handle?_set_eq_some_iff live).mp found with ⟨_, stays⟩ | ⟨_, found⟩
    · rw [kept t stays]
      exact ended.dropped slot s live
    · exact ended.dropped other t found
  word := by
    have foreign : solver ≠ s.pointer := (ended.dropped slot s live).symm
    rw [wordOf, grew.callsOn_other foreign]
    exact ended.word

/-- A new handle stands for a new solver, or for none. -/
theorem Ended.create (ended : Ended pool solver word) : Ended pool.create.2 solver word := by
  obtain ⟨world, created, pointers, calls⟩ | ⟨world, pointer, created, pointers, calls⟩ :=
    create_cases pool
  · rw [created]
    refine ⟨pointers ▸ ended.numbered, fun slot s live => ?_, ?_⟩
    · rw [Pool.handle?_push_none] at live
      exact ended.dropped slot s live
    · rw [← ended.word]
      simp [wordOf, calls, callsOn, Call.solver?]
  · have older : pool.shared.pointers.size ≠ solver := (Nat.ne_of_lt ended.numbered).symm
    rw [created]
    refine ⟨?_, fun slot s live => ?_, ?_⟩
    · simpa [pointers] using Nat.lt_succ_of_lt ended.numbered
    · rcases Pool.handle?_push_some_iff.mp live with ⟨_, rfl⟩ | old
      · exact older
      · exact ended.dropped slot s old
    · rw [← ended.word]
      simp [wordOf, calls, callsOn, Call.solver?, older]

theorem Ended.step (accounted : Accounted pool) (ended : Ended pool solver word)
    (step : Pool.Step) : Ended (pool.step step).2 solver word := by
  cases step with
  | create => exact ended.create
  | drop slot =>
      cases live : pool.handle? slot with
      | none => simpa only [Pool.step, Pool.drop, live] using ended
      | some s =>
          simp only [Pool.step, Pool.drop, live]
          exact ended.set live (release_grew s pool.toWorld).1 fun _ gone => by cases gone
  | perform slot command =>
      cases live : pool.handle? slot with
      | none => simpa only [Pool.step, Pool.perform_dropped live] using ended
      | some s =>
          simp only [Pool.step, Pool.perform_live live]
          have after := accounted.after_command live command
          refine ended.set live after.grew fun handle same => ?_
          cases same
          exact after.number

theorem Ended.steps (accounted : Accounted pool) (ended : Ended pool solver word)
    (steps : List Pool.Step) : Ended (pool.steps steps).2 solver word := by
  induction steps generalizing pool with
  | nil => exact ended
  | cons step rest ih => exact ih (accounted.step step) (ended.step accounted step)

/-- Dropping a live handle empties its slot, and its solver has ended with the release. -/
theorem Accounted.ended_drop (accounted : Accounted pool) {slot : Nat}
    {s : GuardedSolver lib.recorded} (live : pool.handle? slot = some s) :
    (pool.drop slot).2.handle? slot = none ∧
      Ended (pool.drop slot).2 s.pointer (wordOf pool s.pointer ++ [.release s.pointer]) := by
  obtain ⟨grew, word⟩ := release_grew s pool.toWorld
  simp only [Pool.drop, live]
  have emptied : ∀ other t, Pool.handle? (⟨Backend.release s pool.toWorld,
      pool.slots.setIfInBounds slot none⟩ : RecordedPool lib) other = some t →
      other ≠ slot ∧ pool.handle? other = some t := by
    intro other t found
    rcases (Pool.handle?_set_eq_some_iff live).mp found with ⟨_, gone⟩ | old
    · cases gone
    · exact old
  refine ⟨Option.eq_none_iff_forall_ne_some.mpr fun t found => (emptied slot t found).1 rfl, ?_⟩
  refine ⟨?_, fun other t found same => ?_, word⟩
  · simp only [grew.pointers]
    exact accounted.numbered slot s live
  · obtain ⟨different, old⟩ := emptied other t found
    exact different (accounted.distinct other slot t s old live same)

end Ended

end SatBridge.Protocol
