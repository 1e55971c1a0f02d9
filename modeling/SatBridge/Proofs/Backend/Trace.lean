import SatBridge.Proofs.Backend.Audit

/-!
# Traced backends

A trace holds every call that might count, with the way in which it ended: the integers that were
offered and the solve calls, refused or not. A traced handle is a handle with its trace beside it.
Main statements: pools of traced handles respond as pools of the handles themselves do, and if each
operation changes the statistics as its entry in the trace says, then the statistics of every handle
of every pool are those of its trace.
-/

set_option autoImplicit false

namespace SatBridge

open SolverM Audited

/-- A call that might count, and how it ended. -/
inductive Attempt where
  | add (value : Int) (result : Except Error Unit)
  | solve (result : Except Error Status)

namespace Attempt

/-- The integer that was taken, if one was. -/
def taken? : Attempt → Option Int
  | .add value (.ok ()) => some value
  | _ => none

/-- Whether a solve call got past its guards. What it was answered may still be an error. -/
def asked : Attempt → Bool
  | .add _ _ => false
  | .solve (.error .alreadySolved) => false
  | .solve (.error .unterminatedClause) => false
  | .solve _ => true

def taken (attempts : List Attempt) : List Int :=
  attempts.filterMap taken?

/-- The integers that were taken and end no clause. -/
def literals (attempts : List Attempt) : List Int :=
  (taken attempts).filter (· ≠ 0)

/-- The statistics that a trace amounts to. -/
def summary (attempts : List Attempt) : Stats where
  solveCalls := attempts.countP asked
  clauses := (taken attempts).count 0
  literals := (literals attempts).length
  maxVar := ((literals attempts).map Int.natAbs).foldl max 0

/-- The statistics after one more call. -/
def count (stats : Stats) (attempt : Attempt) : Stats :=
  match attempt.taken? with
  | some value => stats.countAdded value
  | none => if attempt.asked then stats.countSolve else stats

theorem asked_of_taken {attempt : Attempt} {value : Int} (taken : attempt.taken? = some value) :
    attempt.asked = false := by
  cases attempt with
  | add _ _ => rfl
  | solve _ => cases taken

theorem taken_snoc (attempts : List Attempt) (attempt : Attempt) :
    taken (attempts ++ [attempt]) = taken attempts ++ attempt.taken?.toList := by
  rw [taken, List.filterMap_append, List.filterMap_cons, List.filterMap_nil]
  cases attempt.taken? <;> rfl

theorem summary_snoc (attempts : List Attempt) (attempt : Attempt) :
    summary (attempts ++ [attempt]) = count (summary attempts) attempt := by
  cases accepted : attempt.taken? with
  | some value =>
      have unasked := asked_of_taken accepted
      by_cases zero : value = 0 <;>
        simp [summary, count, Stats.countAdded, literals, taken_snoc, accepted, unasked, zero]
  | none =>
      cases asked : attempt.asked <;>
        simp [summary, count, Stats.countSolve, literals, taken_snoc, accepted, asked]

theorem summary_append (first second : List Attempt) :
    summary (first ++ second) = second.foldl count (summary first) := by
  induction second using List.reverseRecOn with
  | nil => rw [List.append_nil, List.foldl_nil]
  | append_singleton rest attempt ih =>
      rw [← List.append_assoc, summary_snoc, ih, List.foldl_append, List.foldl_cons, List.foldl_nil]

/-- The statistics after some integers that were all taken. -/
theorem foldl_countAdded (values : List Int) :
    values.foldl Stats.countAdded .zero =
      ⟨0, values.count 0, (values.filter (· ≠ 0)).length,
        ((values.filter (· ≠ 0)).map Int.natAbs).foldl max 0⟩ := by
  let attempts := values.map fun value => Attempt.add value (.ok ())
  have counted : summary attempts = values.foldl Stats.countAdded .zero := by
    rw [← List.nil_append attempts, summary_append, List.foldl_map]
    rfl
  have accepted : taken attempts = values := by
    rw [taken, List.filterMap_map]
    exact List.filterMap_some
  have unasked : attempts.countP asked = 0 := by
    rw [List.countP_map]
    exact congrFun List.countP_false values
  rw [← counted, summary, literals, accepted, unasked]

end Attempt

section Counting

variable {H W α : Type} [Backend H W]

/-- An action changes the statistics as its entries in the trace say. -/
def SolverM.Counts (entries : Except Error α → List Attempt) (action : SolverM H W α) : Prop :=
  ∀ c, Backend.stats (action.run c).2.handle =
    (entries (action.run c).1).foldl Attempt.count (Backend.stats c.handle)

theorem SolverM.Counts.after {entries : Except Error α → List Attempt}
    {action : SolverM H W α} (counts : SolverM.Counts entries action) {c d : Context H W}
    {result : Except Error α} (ran : action.run c = (result, d)) :
    Backend.stats d.handle =
      (entries result).foldl Attempt.count (Backend.stats c.handle) := by
  have counted := counts c
  rwa [ran] at counted

theorem SolverM.counts_of_runs {entries : Except Error α → List Attempt} {action : SolverM H W α}
    (runs : ∀ c, ∃ result d, action.run c = (result, d) ∧ Backend.stats d.handle =
      (entries result).foldl Attempt.count (Backend.stats c.handle)) :
    SolverM.Counts entries action := by
  intro c
  obtain ⟨result, d, ran, counted⟩ := runs c
  rwa [ran]

/-- A new handle has counted nothing, and each operation counts its attempt. -/
structure Backend.Counts (H : Type) {W : Type} [Backend H W] : Prop where
  create : ∀ world handle after, (Backend.create (H := H)).run world = (.ok handle, after) →
    Backend.stats handle = .zero
  add : ∀ value, SolverM.Counts (fun result => [.add value result])
    (Backend.add value : SolverM H W Unit)
  solve : SolverM.Counts (fun result => [.solve result]) (Backend.solve : SolverM H W Status)
  value : ∀ var, SolverM.Counts (fun _ => []) (Backend.value var : SolverM H W (Option Bool))
  setOption : ∀ name value,
    SolverM.Counts (fun _ => []) (Backend.setOption name value : SolverM H W Int)
  setConflictLimit : ∀ limit,
    SolverM.Counts (fun _ => []) (Backend.setConflictLimit limit : SolverM H W Unit)
  setDecisionLimit : ∀ limit,
    SolverM.Counts (fun _ => []) (Backend.setDecisionLimit limit : SolverM H W Unit)

end Counting

structure Traced (H : Type) where
  solver : H
  /-- The attempts, the first one first. -/
  attempts : List Attempt

namespace Traced

variable {H W α : Type}

def inner (c : Context (Traced H) W) : Context H W :=
  ⟨c.toWorld, c.handle.solver⟩

/-- Has the solver act, and puts the entries for the result in the trace. -/
def note (entries : Except Error α → List Attempt) (action : SolverM H W α) :
    SolverM (Traced H) W α :=
  ExceptT.mk fun c =>
    let (result, d) := action.run (inner c)
    (result, ⟨d.toWorld, ⟨d.handle, c.handle.attempts ++ entries result⟩⟩)

variable [Backend H W]

instance : Backend (Traced H) W where
  name := Backend.name H
  create := do return ⟨← Backend.create, []⟩
  release s := Backend.release s.solver
  add value := note (fun result => [.add value result]) (Backend.add value)
  solve := note (fun result => [.solve result]) Backend.solve
  value var := note (fun _ => []) (Backend.value var)
  setOption name value := note (fun _ => []) (Backend.setOption name value)
  setConflictLimit limit := note (fun _ => []) (Backend.setConflictLimit limit)
  setDecisionLimit limit := note (fun _ => []) (Backend.setDecisionLimit limit)
  stats s := Backend.stats s.solver

/-- The statistics of the solver are those of its trace. -/
def Exact (s : Traced H) : Prop :=
  Backend.stats s.solver = Attempt.summary s.attempts

theorem keeps_note {entries : Except Error α → List Attempt} {action : SolverM H W α}
    (counts : SolverM.Counts entries action) :
    Keeps (fun c : Context (Traced H) W => c.handle.Exact) (note entries action) := by
  intro c exact
  have before : Backend.stats (inner c).handle = Attempt.summary c.handle.attempts := exact
  change Backend.stats (action.run (inner c)).2.handle =
    Attempt.summary (c.handle.attempts ++ entries (action.run (inner c)).1)
  rw [counts, before, Attempt.summary_append]

theorem keeps_exact (counts : Backend.Counts H) :
    Backend.Keeps fun c : Context (Traced H) W => c.handle.Exact where
  record _ := fun _ exact => exact
  add value := keeps_note (counts.add value)
  solve := keeps_note counts.solve
  value var := keeps_note (counts.value var)
  setOption name value := keeps_note (counts.setOption name value)
  setConflictLimit limit := keeps_note (counts.setConflictLimit limit)
  setDecisionLimit limit := keeps_note (counts.setDecisionLimit limit)

theorem run_create (world : World W) :
    (Backend.create (H := Traced H)).run world =
      (((Backend.create (H := H)).run world).1.map fun solver => ⟨solver, []⟩,
        ((Backend.create (H := H)).run world).2) := by
  refine (run_bind (Backend.create (H := H)) _ world).trans ?_
  rcases (Backend.create (H := H)).run world with ⟨_ | _, _⟩ <;> rfl

theorem exact_of_create (counts : Backend.Counts H) {world after : World W} {s : Traced H}
    (created : (Backend.create (H := Traced H)).run world = (.ok s, after)) : s.Exact := by
  rw [run_create] at created
  rcases began : (Backend.create (H := H)).run world with ⟨error | solver, _⟩
  · rw [began] at created
    cases created
  · rw [began] at created
    cases created
    exact counts.create world solver _ began

/-- The solver without its trace does the same. -/
def Follows : Relation (Traced H) W H W :=
  fun c d => SameButLog (inner c) d

omit [Backend H W] in
theorem follows_note {action : SolverM H W α} (silent : AgreeKeeping SameButLog action action)
    (entries : Except Error α → List Attempt) : AgreeKeeping Follows (note entries action) action := by
  intro c d follows
  obtain ⟨same, after⟩ := silent (inner c) d follows
  exact ⟨same, after⟩

theorem follows
    (silent : Backend.Agree (fun _ => True) (fun _ => True)
      fun _ => (SameButLog : Relation H W H W)) :
    Backend.Agree (fun _ => True) (fun _ => True)
      fun _ => (Follows : Relation (Traced H) W H W) where
  record _ _ _ := fun _ _ follows => ⟨rfl, follows⟩
  add value admitted := follows_note (silent.add value admitted) _
  solve := follows_note silent.solve _
  value answered index admitted := follows_note (silent.value answered index admitted) _
  setOption answered name value := follows_note (silent.setOption answered name value) _
  setConflictLimit answered limit := follows_note (silent.setConflictLimit answered limit) _
  setDecisionLimit answered limit := follows_note (silent.setDecisionLimit answered limit) _
  stats _ _ _ follows := congrArg Backend.stats follows.2

end Traced

/-- Nothing that a backend does looks at the log. -/
structure Backend.Silent (H : Type) {W : Type} [Backend H W] : Prop where
  operations : Backend.Agree (fun _ => True) (fun _ => True)
    fun _ => (SameButLog : Relation H W H W)
  create : ∀ first second : World W, first.shared = second.shared →
    ((Backend.create (H := H)).run first).1 = ((Backend.create (H := H)).run second).1 ∧
      ((Backend.create (H := H)).run first).2.shared =
        ((Backend.create (H := H)).run second).2.shared
  release : ∀ (s : H) (first second : World W), first.shared = second.shared →
    (Backend.release s first).shared = (Backend.release s second).shared

namespace Pool

variable {H W : Type} {traced : Pool (Traced H) W} {plain : Pool H W}

/-- A pool of traced handles beside one of the handles themselves. -/
structure Beside (traced : Pool (Traced H) W) (plain : Pool H W) : Prop where
  shared : traced.shared = plain.shared
  slots : plain.slots = traced.slots.map (Option.map Traced.solver)

theorem beside_ofShared (shared : W) :
    Beside (.ofShared shared : Pool (Traced H) W) (.ofShared shared) where
  shared := rfl
  slots := by simp [ofShared]

theorem Beside.handle? (beside : Beside traced plain) (slot : Nat) :
    plain.handle? slot = (traced.handle? slot).map Traced.solver :=
  handle?_of_slots_map beside.slots slot

theorem Beside.push (beside : Beside traced plain) {first second : World W}
    (shared : first.shared = second.shared) (entry : Option (Traced H)) :
    Beside ⟨first, traced.slots.push entry⟩
      ⟨second, plain.slots.push (entry.map Traced.solver)⟩ where
  shared := shared
  slots := by rw [beside.slots, Array.map_push]

theorem Beside.set (beside : Beside traced plain) {first second : World W}
    (shared : first.shared = second.shared) (slot : Nat) (entry : Option (Traced H)) :
    Beside ⟨first, traced.slots.setIfInBounds slot entry⟩
      ⟨second, plain.slots.setIfInBounds slot (entry.map Traced.solver)⟩ where
  shared := shared
  slots := by rw [beside.slots, Array.map_setIfInBounds]

variable [Backend H W]

theorem Beside.create (silent : Backend.Silent H) (beside : Beside traced plain) :
    traced.create.1 = plain.create.1 ∧ Beside traced.create.2 plain.create.2 := by
  obtain ⟨same, shared⟩ := silent.create _ _ beside.shared
  have size : traced.slots.size = plain.slots.size := by rw [beside.slots, Array.size_map]
  rw [Pool.create, Pool.create, Traced.run_create, same]
  rcases began : (Backend.create (H := H)).run plain.toWorld with ⟨error | solver, world⟩
  · rw [began] at shared
    exact ⟨rfl, beside.push shared none⟩
  · rw [began] at shared
    exact ⟨congrArg Except.ok size, beside.push shared (some ⟨solver, []⟩)⟩

theorem Beside.drop (silent : Backend.Silent H) (beside : Beside traced plain) (slot : Nat) :
    (traced.drop slot).1 = (plain.drop slot).1 ∧
      Beside (traced.drop slot).2 (plain.drop slot).2 := by
  have same := beside.handle? slot
  cases live : traced.handle? slot with
  | none =>
      rw [live] at same
      rw [Pool.drop, Pool.drop, live, same]
      exact ⟨rfl, beside⟩
  | some s =>
      rw [live] at same
      rw [Pool.drop, Pool.drop, live, same]
      exact ⟨rfl, beside.set (silent.release s.solver _ _ beside.shared) slot none⟩

theorem Beside.perform (silent : Backend.Silent H) (beside : Beside traced plain) (slot : Nat)
    (command : Command) :
    (traced.perform slot command).1 = (plain.perform slot command).1 ∧
      Beside (traced.perform slot command).2 (plain.perform slot command).2 := by
  have same := beside.handle? slot
  cases live : traced.handle? slot with
  | none =>
      rw [live] at same
      rw [perform_dropped live, perform_dropped same]
      exact ⟨rfl, beside⟩
  | some s =>
      rw [live] at same
      rw [perform_live live, perform_live same]
      obtain ⟨result, shared, handle⟩ := (Traced.follows silent.operations).perform command
        ⟨traced.toWorld, s⟩ ⟨plain.toWorld, s.solver⟩ ⟨beside.shared, rfl⟩
      rw [← handle]
      exact ⟨congrArg some result, beside.set shared slot (some _)⟩

theorem Beside.steps (silent : Backend.Silent H) (steps : List Step)
    (beside : Beside traced plain) :
    (traced.steps steps).1 = (plain.steps steps).1 ∧
      Beside (traced.steps steps).2 (plain.steps steps).2 :=
  steps_of_related Beside (fun _ _ beside => beside.create silent)
    (fun slot _ _ beside => beside.drop silent slot)
    (fun slot command _ _ beside => beside.perform silent slot command) steps beside

/-- What holds of new handles and is kept by all operations holds of every handle. -/
theorem forall_handle_step {holds : H → Prop}
    (created : ∀ world s after, (Backend.create (H := H)).run world = (.ok s, after) → holds s)
    (kept : Backend.Keeps fun c : Context H W => holds c.handle) {pool : Pool H W}
    (before : ∀ slot s, pool.handle? slot = some s → holds s) (step : Step) :
    ∀ slot s, (pool.step step).2.handle? slot = some s → holds s := by
  intro slot s found
  cases step with
  | create =>
      change pool.create.2.handle? slot = some s at found
      rcases began : (Backend.create (H := H)).run pool.toWorld with ⟨error | fresh, world⟩
      · simp only [create, began, handle?_push_none] at found
        exact before slot s found
      · simp only [create, began] at found
        rcases handle?_push_some_iff.mp found with ⟨_, rfl⟩ | older
        · exact created _ _ _ began
        · exact before slot s older
  | drop dropped =>
      change (pool.drop dropped).2.handle? slot = some s at found
      cases live : pool.handle? dropped with
      | none =>
          simp only [drop, live] at found
          exact before slot s found
      | some handle =>
          simp only [drop, live] at found
          rcases (handle?_set_eq_some_iff live).mp found with ⟨_, gone⟩ | ⟨_, other⟩
          · cases gone
          · exact before slot s other
  | perform used command =>
      change (pool.perform used command).2.handle? slot = some s at found
      cases live : pool.handle? used with
      | none =>
          rw [perform_dropped live] at found
          exact before slot s found
      | some handle =>
          rw [perform_live live] at found
          rcases (handle?_set_eq_some_iff live).mp found with ⟨_, same⟩ | ⟨_, other⟩
          · cases same
            exact kept.perform command _ (before used handle live)
          · exact before slot s other

theorem forall_handle_steps {holds : H → Prop}
    (created : ∀ world s after, (Backend.create (H := H)).run world = (.ok s, after) → holds s)
    (kept : Backend.Keeps fun c : Context H W => holds c.handle) (steps : List Step)
    {pool : Pool H W} (before : ∀ slot s, pool.handle? slot = some s → holds s) :
    ∀ slot s, (pool.steps steps).2.handle? slot = some s → holds s := by
  induction steps generalizing pool with
  | nil => exact before
  | cons step rest ih => exact ih (forall_handle_step created kept before step)

end Pool

end SatBridge
