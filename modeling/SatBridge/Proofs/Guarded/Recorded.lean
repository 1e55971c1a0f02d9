import SatBridge.Library.Recorded
import SatBridge.Proofs.Guarded.Simulation

/-!
# Recording changes nothing

A handle on a library beside a handle on the recorded library. The two differ in the pointer, which
is a number in the recording, and in the log, which shows pointers. Main statement: they agree on
all operations, so whatever is asked of them, they answer the same.
-/

set_option autoImplicit false

namespace SatBridge.GuardedSolver

open SolverM

variable {σ : Type} {lib : Library σ}

/-- The handle on the library itself, given the pointers by number. -/
def original (pointers : Array Pointer) (s : GuardedSolver lib.recorded) : GuardedSolver lib :=
  ⟨pointers.getD s.pointer 0, s.phase, s.midClause, s.stats⟩

def unrecorded (d : Context (GuardedSolver lib.recorded) (Recording σ)) (log : Log) :
    Context (GuardedSolver lib) σ :=
  ⟨⟨d.shared.memory, log⟩, d.handle.original d.shared.pointers⟩

def Shadows (c : Context (GuardedSolver lib) σ)
    (d : Context (GuardedSolver lib.recorded) (Recording σ)) : Prop :=
  ∃ log, c = unrecorded d log

/-- The pointer stands at its number in the recording, and the memory is the one recorded. -/
def Numbered (pointer : Pointer) (memory : σ) (number : Nat) (r : Recording σ) : Prop :=
  pointer = r.pointers.getD number 0 ∧ memory = r.memory

theorem agreeing_perform {α : Type} (entry : Pointer → Entry σ α) (call : Nat → α → Call) :
    Agreeing Numbered entry fun number => Recording.perform number entry (call number) := by
  rintro pointer memory number r ⟨rfl, rfl⟩
  exact ⟨rfl, rfl, rfl⟩

theorem recorded_simulates (lib : Library σ) : lib.Simulates lib.recorded Numbered where
  add value := agreeing_perform (fun p => lib.add p value) fun number _ => .add number value
  solve := agreeing_perform lib.solve .solve
  value literal := agreeing_perform (fun p => lib.value p literal) fun number =>
    .value number literal
  setOption := by
    unfold Library.recorded
    cases lib.setOption with
    | none => exact .none
    | some entry =>
        exact .some fun name value => agreeing_perform (fun p => entry p name value) fun number =>
          .setOption number name value
  setConflictLimit := by
    unfold Library.recorded
    cases lib.setConflictLimit with
    | none => exact .none
    | some entry =>
        exact .some fun limit => agreeing_perform (fun p => entry p limit) fun number _ =>
          .setConflictLimit number limit
  setDecisionLimit := by
    unfold Library.recorded
    cases lib.setDecisionLimit with
    | none => exact .none
    | some entry =>
        exact .some fun limit => agreeing_perform (fun p => entry p limit) fun number _ =>
          .setDecisionLimit number limit

theorem shadows_eq_twins : (Shadows : Relation (GuardedSolver lib) σ (GuardedSolver lib.recorded)
    (Recording σ)) = Twins Numbered := by
  funext c d
  refine propext ⟨?_, ?_⟩
  · rintro ⟨log, rfl⟩
    exact ⟨rfl, rfl, rfl, rfl, rfl⟩
  · rintro ⟨phase, midClause, stats, pointer, memory⟩
    obtain ⟨⟨_, log⟩, ⟨_, _, _, _⟩⟩ := c
    dsimp only at phase midClause stats pointer memory
    subst phase midClause stats pointer memory
    exact ⟨log, rfl⟩

/-- A handle on a recorded library answers like the handle on the library itself. -/
theorem shadows : Backend.Agree (fun _ => True) (fun _ => True)
    (fun _ => (Shadows : Relation (GuardedSolver lib) σ (GuardedSolver lib.recorded)
      (Recording σ))) :=
  shadows_eq_twins ▸ agree_of_simulates (recorded_simulates lib)

theorem create_shadows {memory : σ} {log : Log} {handle : GuardedSolver lib} {world : World σ}
    (created : (create lib).run ⟨memory, log⟩ = (.ok handle, world)) :
    ∃ recorded recording,
      (create lib.recorded).run ⟨.start memory, log⟩ = (.ok recorded, recording) ∧
      Shadows ⟨world, handle⟩ ⟨recording, recorded⟩ := by
  cases reply : (lib.init memory).value with
  | none =>
      obtain ⟨_, failed⟩ : ∃ after, (create lib).run ⟨memory, log⟩ =
          (.error .nullHandle, ⟨(lib.init memory).memory, after⟩) :=
        run_create_null reply
      rw [failed] at created
      cases created
  | some pointer =>
      have given : (lib.recorded.init (.start memory)).value = some 0 :=
        congrArg (Option.map _) reply
      obtain ⟨logHere, succeeded⟩ : ∃ after, (create lib).run ⟨memory, log⟩ =
          (.ok ⟨pointer, .configuring, false, .zero⟩, ⟨(lib.init memory).memory, after⟩) :=
        run_create reply
      obtain ⟨logRecorded, succeededRecorded⟩ : ∃ after,
          (create lib.recorded).run ⟨.start memory, log⟩ =
            (.ok ⟨0, .configuring, false, .zero⟩,
              ⟨(lib.recorded.init (.start memory)).memory, after⟩) :=
        run_create given
      rw [succeeded] at created
      cases created
      refine ⟨_, _, succeededRecorded, logHere, ?_⟩
      simp [unrecorded, original, Library.recorded, Recording.init, Recording.start, reply]

end SatBridge.GuardedSolver
