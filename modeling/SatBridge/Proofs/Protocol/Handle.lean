import SatBridge.Proofs.Guarded.Operations
import SatBridge.Proofs.Protocol.Word

/-!
# The word of a handle

What a guarded solver knows about the calls that were made on its solver. Its phase and its
terminator flag say enough for the guards to let through only calls that may follow, whatever the
library replies.
-/

set_option autoImplicit false

namespace SatBridge.Protocol

open SolverM GuardedSolver

variable {σ : Type} {lib : Library σ}

/-- The fields of a handle tell what its guards ask about the word of its solver: neither more nor
less than what happened. -/
structure Tracks (s : GuardedSolver lib) (word : List Call) : Prop where
  conforms : SingleShot word
  live : Live word
  configuring : s.phase = .configuring ↔ ¬ Added word ∧ ¬ Solved word
  unsolved : s.result? = none ↔ ¬ Solved word
  satisfied : s.phase = .solved .sat ↔ Satisfied word
  closed : s.midClause = false ↔ ClauseClosed word

theorem tracks_fresh (pointer : Pointer) (solver : Nat) :
    Tracks (⟨pointer, .configuring, false, .zero⟩ : GuardedSolver lib)
      [.init (some solver)] where
  conforms := singleShot_nil.snoc rfl
  live := live_init solver
  configuring := by simp [Added, Solved]
  unsolved := by simp [result?, Solved]
  satisfied := by simp [Satisfied]
  closed := by simp [ClauseClosed, lastAdded?]

section Operations

variable {s : GuardedSolver lib} {word : List Call}

theorem Tracks.add (tracks : Tracks s word) (unsolved : s.result? = none) (solver : Nat)
    (value : Int) (stats : Stats) :
    Tracks ({ s with phase := .adding, midClause := decide (value ≠ 0), stats := stats } :
      GuardedSolver lib) (word ++ [.add solver value]) := by
  have notSolved := tracks.unsolved.mp unsolved
  have notSatisfied : ¬ Satisfied word := fun satisfied => notSolved satisfied.solved
  refine ⟨tracks.conforms.snoc ⟨tracks.live, notSolved⟩, tracks.live.snoc (by simp), ?_, ?_, ?_, ?_⟩
  · simp [added_snoc_add]
  · simpa [result?, Solved] using notSolved
  · simpa [Satisfied] using notSatisfied
  · simp [ClauseClosed]

/-- A code that stands for no status is not that of a satisfiable formula either. -/
theorem decoded_eq_sat_iff {code : Int} :
    (Status.ofCode? code).toOption.getD .unknown = .sat ↔ code = 10 := by
  constructor
  · intro decoded
    cases accepted : Status.ofCode? code with
    | error error => simp [accepted, Except.toOption] at decoded
    | ok status =>
        have sat : status = .sat := by simpa [accepted, Except.toOption] using decoded
        rw [Status.ofCode?_eq_ok_iff, sat] at accepted
        exact accepted
  · rintro rfl
    rfl

/-- The new phase claims a model only for the code of a satisfiable formula. -/
theorem Tracks.solve (tracks : Tracks s word) (unsolved : s.result? = none)
    (closed : s.midClause = false) (solver : Nat) (code : Int) (stats : Stats) :
    Tracks ({ s with
        phase := .solved ((Status.ofCode? code).toOption.getD .unknown), stats := stats } :
      GuardedSolver lib) (word ++ [.solve solver code]) := by
  have notSolved := tracks.unsolved.mp unsolved
  have notSatisfied : ¬ Satisfied word := fun satisfied => notSolved satisfied.solved
  have clauseClosed := tracks.closed.mp closed
  refine ⟨tracks.conforms.snoc ⟨tracks.live, notSolved, clauseClosed⟩,
    tracks.live.snoc (by simp), ?_, ?_, ?_, ?_⟩
  · simp [solved_snoc_solve]
  · simp [result?, solved_snoc_solve]
  · simp [satisfied_snoc_solve, decoded_eq_sat_iff, notSatisfied]
  · simpa [closed, ClauseClosed, lastAdded?] using clauseClosed

/-- Calls that change neither the clauses nor the life of a solver. -/
def Passive : Call → Prop
  | .value .. | .setOption .. | .setConflictLimit .. | .setDecisionLimit .. => True
  | _ => False

/-- No guard asks for a call that is passive. -/
theorem Passive.snoc {call : Call} (passive : Passive call) (word : List Call) :
    (Added (word ++ [call]) ↔ Added word) ∧ (Solved (word ++ [call]) ↔ Solved word) ∧
      (Satisfied (word ++ [call]) ↔ Satisfied word) ∧
      (ClauseClosed (word ++ [call]) ↔ ClauseClosed word) := by
  cases call with
  | init _ | release _ | add _ _ | solve _ _ => cases passive
  | _ => simp [Added, Solved, Satisfied, ClauseClosed, lastAdded?]

theorem Tracks.passive (tracks : Tracks s word) {call : Call} (allowed : AllowedAfter word call)
    (passive : Passive call) : Tracks s (word ++ [call]) := by
  obtain ⟨added, solved, satisfied, closed⟩ := passive.snoc word
  have notRelease (solver : Nat) : call ≠ .release solver := by
    rintro rfl
    exact passive
  refine ⟨tracks.conforms.snoc allowed, tracks.live.snoc notRelease, ?_, ?_, ?_, ?_⟩
  · rw [added, solved]
    exact tracks.configuring
  · rw [solved]
    exact tracks.unsolved
  · rw [satisfied]
    exact tracks.satisfied
  · rw [closed]
    exact tracks.closed

end Operations

/-- The recording `r` differs from `base` by calls on one solver. -/
structure GrewBy (solver : Nat) (base r : Recording σ) : Prop where
  pointers : r.pointers = base.pointers
  calls : ∃ extra, r.calls.toList = base.calls.toList ++ extra ∧
    ∀ call ∈ extra, call.solver? = some solver

theorem GrewBy.refl (solver : Nat) (r : Recording σ) : GrewBy solver r r :=
  ⟨rfl, [], by simp, by simp⟩

theorem calls_perform {α : Type} (solver : Nat) (entry : Pointer → Entry σ α) (call : α → Call)
    (r : Recording σ) :
    (Recording.perform solver entry call r).memory.calls.toList =
      r.calls.toList ++ [call (Recording.perform solver entry call r).value] := by
  simp [Recording.perform]

theorem GrewBy.perform {α : Type} {solver : Nat} {base r : Recording σ}
    (grew : GrewBy solver base r) (entry : Pointer → Entry σ α) {call : α → Call}
    (names : ∀ reply, (call reply).solver? = some solver) :
    GrewBy solver base (Recording.perform solver entry call r).memory := by
  obtain ⟨samePointers, extra, calls, own⟩ := grew
  refine ⟨samePointers, extra ++ [call (Recording.perform solver entry call r).value], ?_, ?_⟩
  · rw [calls_perform, calls, List.append_assoc]
  intro other member
  rcases List.mem_append.mp member with earlier | last
  · exact own other earlier
  · rw [List.mem_singleton.mp last]
    exact names _

theorem init_null {entry : Entry σ (Option Pointer)} {r : Recording σ}
    (null : (entry r.memory).value = none) :
    (Recording.init entry r).value = none ∧
      (Recording.init entry r).memory.pointers = r.pointers ∧
      (Recording.init entry r).memory.calls = r.calls.push (.init none) := by
  simp [Recording.init, null]

theorem init_given {entry : Entry σ (Option Pointer)} {r : Recording σ} {pointer : Pointer}
    (given : (entry r.memory).value = some pointer) :
    (Recording.init entry r).value = some r.pointers.size ∧
      (Recording.init entry r).memory.pointers = r.pointers.push pointer ∧
      (Recording.init entry r).memory.calls = r.calls.push (.init (some r.pointers.size)) := by
  simp [Recording.init, given]

/-- A context in which all calls since `base` are calls on the solver of the handle, and the handle
tracks the word of its solver. -/
structure Following (solver : Nat) (base : Recording σ)
    (c : Context (GuardedSolver lib.recorded) (Recording σ)) : Prop where
  number : c.handle.pointer = solver
  grew : GrewBy solver base c.shared
  tracks : Tracks c.handle (callsOn solver c.shared.calls.toList)

theorem callsOn_perform {α : Type} {solver : Nat} (entry : Pointer → Entry σ α)
    {call : α → Call} (names : ∀ reply, (call reply).solver? = some solver)
    (r : Recording σ) :
    callsOn solver (Recording.perform solver entry call r).memory.calls.toList =
      callsOn solver r.calls.toList ++ [call (Recording.perform solver entry call r).value] := by
  rw [calls_perform, callsOn_append]
  exact congrArg _ (callsOn_eq_self (by simp [names]))

/-- What is to be shown of an operation that makes one call: the handle it leaves tracks the word
with that call. -/
theorem Following.perform {α : Type} {solver : Nat} {base : Recording σ}
    {c : Context (GuardedSolver lib.recorded) (Recording σ)}
    (follows : Following solver base c) (entry : Pointer → Entry σ α) {call : α → Call}
    (names : ∀ reply, (call reply).solver? = some solver) (log : Log)
    {handle : GuardedSolver lib.recorded} (number : handle.pointer = solver)
    (tracks : Tracks handle (callsOn solver c.shared.calls.toList ++
      [call (Recording.perform solver entry call c.shared).value])) :
    Following solver base
      ⟨⟨(Recording.perform solver entry call c.shared).memory, log⟩, handle⟩ where
  number := number
  grew := follows.grew.perform entry names
  tracks := by
    rw [callsOn_perform entry names]
    exact tracks

section Keeps

variable (solver : Nat) (base : Recording σ)

theorem keeps_add (value : Int) : Keeps (Following solver base)
    (GuardedSolver.add value : SolverM (GuardedSolver lib.recorded) (Recording σ) Unit) := by
  intro c follows
  cases unsolved : c.handle.result? with
  | some status =>
      rw [run_add_solved unsolved]
      exact follows
  | none =>
      obtain ⟨log, ran⟩ := run_add unsolved value
      obtain rfl := follows.number
      rw [ran]
      exact follows.perform _ (fun _ => rfl) log rfl (follows.tracks.add unsolved _ value _)

theorem keeps_solve : Keeps (Following solver base)
    (GuardedSolver.solve : SolverM (GuardedSolver lib.recorded) (Recording σ) Status) := by
  intro c follows
  cases unsolved : c.handle.result? with
  | some status =>
      rw [run_solve_solved unsolved]
      exact follows
  | none =>
      cases closed : c.handle.midClause with
      | true =>
          rw [run_solve_midClause unsolved closed]
          exact follows
      | false =>
          obtain ⟨log, ran⟩ := run_solve unsolved closed
          obtain rfl := follows.number
          rw [ran]
          exact follows.perform _ (fun _ => rfl) log rfl
            (follows.tracks.solve unsolved closed _ _ _)

theorem keeps_value (var : Nat) : Keeps (Following solver base)
    (GuardedSolver.value var :
      SolverM (GuardedSolver lib.recorded) (Recording σ) (Option Bool)) := by
  intro c follows
  by_cases satisfied : c.handle.phase = .solved .sat
  · by_cases valid : 1 ≤ var ∧ var ≤ maxVar
    · obtain ⟨log, ran⟩ := run_value satisfied valid
      obtain rfl := follows.number
      have literalValid : 1 ≤ (var : Int) ∧ (var : Int) ≤ 2147483647 := by
        simp only [maxVar] at valid
        omega
      rw [ran]
      exact follows.perform _ (fun _ => rfl) log rfl
        (follows.tracks.passive
          ⟨follows.tracks.live, follows.tracks.satisfied.mp satisfied, literalValid⟩ trivial)
    · rw [run_value_invalid satisfied (by omega)]
      exact follows
  · rw [run_value_noModel satisfied]
    exact follows

theorem keeps_setOption (name : String) (value : Int) : Keeps (Following solver base)
    (GuardedSolver.setOption name value :
      SolverM (GuardedSolver lib.recorded) (Recording σ) Int) := by
  intro c follows
  cases offered : lib.setOption with
  | none =>
      have absent : lib.recorded.setOption = none := by simp [Library.recorded, offered]
      rw [run_setOption_unsupported absent]
      exact follows
  | some entry =>
      have present : lib.recorded.setOption = some fun solver name value =>
          Recording.perform solver (fun p => entry p name value)
            (.setOption solver name value) := by
        simp [Library.recorded, offered]
      by_cases configuring : c.handle.phase = .configuring
      · by_cases nul : '\x00' ∈ name.toList
        · rw [run_setOption_nul present configuring nul]
          exact follows
        · obtain ⟨log, ran⟩ := run_setOption present configuring nul value
          obtain rfl := follows.number
          rw [ran]
          exact follows.perform _ (fun _ => rfl) log rfl
            (follows.tracks.passive
              ⟨follows.tracks.live, follows.tracks.configuring.mp configuring⟩ trivial)
      · rw [run_setOption_locked present configuring]
        exact follows

theorem keeps_setLimit (feature : Feature) (entry : Option (Pointer → Nat → Entry σ Unit))
    {call : Nat → Nat → Call} (passive : ∀ solver limit, Passive (call solver limit))
    (names : ∀ solver limit, (call solver limit).solver? = some solver)
    (allowed : ∀ word solver limit, Live word → ¬ Solved word →
      AllowedAfter word (call solver limit)) (limit : Nat) :
    Keeps (Following solver base)
      (GuardedSolver.setLimit feature (entry.map fun entry solver limit =>
        Recording.perform solver (fun p => entry p limit) fun _ => call solver limit) limit :
        SolverM (GuardedSolver lib.recorded) (Recording σ) Unit) := by
  intro c follows
  cases entry with
  | none =>
      rw [Option.map_none, run_setLimit_unsupported]
      exact follows
  | some entry =>
      cases unsolved : c.handle.result? with
      | some status =>
          rw [Option.map_some, run_setLimit_solved unsolved]
          exact follows
      | none =>
          obtain ⟨log, ran⟩ := run_setLimit unsolved feature (fun solver limit =>
            Recording.perform solver (fun p => entry p limit) fun _ => call solver limit) limit
          obtain rfl := follows.number
          rw [Option.map_some, ran]
          exact follows.perform _ (fun _ => names _ _) log rfl
            (follows.tracks.passive
              (allowed _ _ _ follows.tracks.live (follows.tracks.unsolved.mp unsolved))
              (passive _ _))

/-- Whatever the library replies, no operation makes a call that may not follow. -/
theorem keeps_following :
    Backend.Keeps (H := GuardedSolver lib.recorded) (Following solver base) where
  record _ _ follows := ⟨follows.number, follows.grew, follows.tracks⟩
  add := keeps_add solver base
  solve := keeps_solve solver base
  value := keeps_value solver base
  setOption := keeps_setOption solver base
  setConflictLimit :=
    keeps_setLimit solver base _ _ (fun _ _ => trivial) (fun _ _ => rfl) fun _ _ _ live unsolved =>
      ⟨live, unsolved⟩
  setDecisionLimit :=
    keeps_setLimit solver base _ _ (fun _ _ => trivial) (fun _ _ => rfl) fun _ _ _ live unsolved =>
      ⟨live, unsolved⟩

end Keeps

end SatBridge.Protocol
