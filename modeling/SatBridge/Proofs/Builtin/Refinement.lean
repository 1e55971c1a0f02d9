import SatBridge.Backend.Pool
import SatBridge.Proofs.Builtin.Mirror

/-!
# The builtin library refines the resident solver

Any commands, in any order, on a handle of the builtin library and on a resident solver. Main
statement: as long as the literals are in range and nothing more is added to a solver that has
answered, the two give the same answers and keep the same statistics at every step, errors included.
-/

set_option autoImplicit false

namespace SatBridge

section Transcripts

variable {H W : Type} [Backend H W]

/-- The answer to each command, and the statistics after it. -/
def transcript (c : Context H W) : List Command → List (Except Error Answer × Stats)
  | [] => []
  | command :: rest =>
    ((command.perform.run c).1, Backend.stats (command.perform.run c).2.handle) ::
      transcript (command.perform.run c).2 rest

def Answer.isStatus : Except Error Answer → Bool
  | .ok (.status _) => true
  | _ => false

/-- What may be asked of a solver before and after it has answered. A whole run on a formula is no
command here: it is made of these. -/
def Command.Admitted (answered : Bool) : Command → Prop
  | .add literal => answered = false ∧ InRange literal
  | .addClause clause => answered = false ∧ clause.Admitted InRange
  | .feed formula => formula.clauses = [] ∨
      answered = false ∧ ∀ clause ∈ formula.clauses, clause.Admitted InRange
  | .solve => answered = false
  | .value var => 1 ≤ var ∧ var ≤ maxVar
  | .model numVars => numVars ≤ maxVar
  | .setOption .. | .setConflictLimit .. | .setDecisionLimit .. | .configure _ => True
  | .solveFormula .. => False

/-- Each command is admitted after the answers to those before it. -/
def AdmittedRun (answered : Bool) (c : Context H W) : List Command → Prop
  | [] => True
  | command :: rest => command.Admitted answered ∧
      AdmittedRun (answered || Answer.isStatus (command.perform.run c).1)
        (command.perform.run c).2 rest

end Transcripts

namespace Builtin

open SolverM

variable {engine : Engine} {answered : Bool}

def After (answered : Bool) (result : Except Error Answer) :
    Relation (GuardedSolver (library engine)) (Memory engine) (ResidentSolver engine) Unit :=
  Mirrors (answered || Answer.isStatus result)

/-- A command that makes no solve call leaves both solvers as far as they were. -/
theorem agree_quiet {α : Type} {first : HandleM engine α}
    {second : SolverM (ResidentSolver engine) Unit α}
    (agree : AgreeKeeping (Mirrors answered) first second) {answer : α → Answer}
    (quiet : ∀ value, Answer.isStatus (.ok (answer value)) = false) :
    Agree (Mirrors answered) (first >>= fun value => pure (answer value))
      (second >>= fun value => pure (answer value)) (After answered) := by
  refine agree_bind agree (fun value c d mirrors => ⟨rfl, ?_⟩) fun error c d mirrors => ?_
  · change Mirrors (answered || Answer.isStatus (.ok (answer value))) c d
    rwa [quiet, Bool.or_false]
  · change Mirrors (answered || false) c d
    rwa [Bool.or_false]

theorem agree_perform {command : Command} (admitted : command.Admitted answered) :
    Agree (Mirrors answered)
      (command.perform : HandleM engine Answer)
      (command.perform : SolverM (ResidentSolver engine) Unit Answer) (After answered) := by
  cases command with
  | add value =>
      obtain ⟨rfl, small⟩ := admitted
      exact agree_quiet (agree.add value small) fun _ => rfl
  | addClause clause =>
      obtain ⟨rfl, small⟩ := admitted
      exact agree_quiet (agree.addClause inRange_zero small) fun _ => rfl
  | feed formula =>
      refine agree_quiet ?_ fun _ => rfl
      rcases admitted with empty | ⟨rfl, small⟩
      · simp only [Solver.feed, empty]
        exact agreeKeeping_pure _
      · exact agree.feed inRange_zero small
  | solve =>
      obtain rfl : answered = false := admitted
      refine agree_bind agree.solve (fun status c d mirrors => ⟨rfl, mirrors⟩) ?_
      exact fun error c d mirrors => mirrors
  | value var => exact agree_quiet (agree.value answered var admitted) fun _ => rfl
  | model numVars =>
      have vars : ∀ index, 1 ≤ index → index ≤ numVars → 1 ≤ index ∧ index ≤ maxVar :=
        fun index low high => ⟨low, Nat.le_trans high admitted⟩
      exact agree_quiet (agree.model answered vars) fun _ => rfl
  | setOption name setting =>
      exact agree_quiet (agree.setOption answered name setting) fun _ => rfl
  | setConflictLimit limit =>
      exact agree_quiet (agree.setConflictLimit answered limit) fun _ => rfl
  | setDecisionLimit limit =>
      exact agree_quiet (agree.setDecisionLimit answered limit) fun _ => rfl
  | configure settings => exact agree_quiet (agree.apply answered settings) fun _ => rfl
  | solveFormula formula settings => exact admitted.elim

theorem transcript_eq {commands : List Command}
    {c : Context (GuardedSolver (library engine)) (Memory engine)}
    {d : Context (ResidentSolver engine) Unit} (mirrors : Mirrors answered c d)
    (admitted : AdmittedRun answered d commands) :
    transcript c commands = transcript d commands := by
  induction commands generalizing answered c d with
  | nil => rfl
  | cons command rest ih =>
      obtain ⟨now, later⟩ := admitted
      obtain ⟨same, after⟩ := agree_perform now c d mirrors
      have sameStats := after.stats
      unfold After at after
      rw [same] at after
      have tail := ih after later
      rw [transcript, transcript, same, tail]
      exact congrArg (fun stats => (_, stats) :: _) sameStats

/-- A fresh handle on the builtin library and a fresh resident solver cannot be told apart. -/
theorem builtin_refines_resident (engine : Engine) (memory : Memory engine) (log : Log)
    (context : World Unit) {commands : List Command}
    (admitted : AdmittedRun false
      (⟨context, .new⟩ : Context (ResidentSolver engine) Unit) commands) :
    ∃ handle world, (GuardedSolver.create (library engine)).run ⟨memory, log⟩ =
        (.ok handle, world) ∧
      Backend.stats handle = Backend.stats (.new : ResidentSolver engine) ∧
      transcript ⟨world, handle⟩ commands =
        transcript (⟨context, .new⟩ : Context (ResidentSolver engine) Unit) commands := by
  obtain ⟨handle, world, created, mirrors⟩ := create_mirrors memory log context
  exact ⟨handle, world, created, mirrors.stats, transcript_eq mirrors admitted⟩

/-- A query too early, a solve call inside a clause, the largest literal, and values after the
answer, one of them of a variable that no clause has. -/
private def sampleCommands : List Command :=
  [.value 1, .add (-1), .solve, .addClause [⟨2, true⟩], .setOption "seed" 7,
    .feed ⟨3, [[⟨268435456, false⟩, ⟨1, true⟩]]⟩, .solve, .value 3, .model 2, .feed ⟨5, []⟩]

theorem builtin_refines_resident_sample :
    ∃ handle world, (GuardedSolver.create library).run ⟨.empty, #[]⟩ = (.ok handle, world) ∧
      Backend.stats handle = Backend.stats (.new : ResidentSolver) ∧
      transcript ⟨world, handle⟩ sampleCommands =
        transcript (⟨⟨(), #[]⟩, .new⟩ : Context ResidentSolver Unit) sampleCommands := by
  have inClause : Clause.Admitted InRange [⟨2, true⟩] := Clause.admitted_of_le (by decide)
  have inFormula : ∀ c ∈ [[⟨268435456, false⟩, ⟨1, true⟩]], Clause.Admitted InRange c := by
    intro c member
    rw [List.mem_singleton.mp member]
    exact Clause.admitted_of_le (by decide)
  refine builtin_refines_resident Search.engine .empty #[] ⟨(), #[]⟩ ⟨⟨by decide, by decide⟩, ?_⟩
  refine ⟨⟨rfl, by decide⟩, rfl, ⟨rfl, inClause⟩, trivial, .inr ⟨rfl, inFormula⟩, rfl, ?_⟩
  exact ⟨⟨by decide, by decide⟩, Nat.le_of_ble_eq_true rfl, .inl rfl, trivial⟩

end Builtin

end SatBridge
