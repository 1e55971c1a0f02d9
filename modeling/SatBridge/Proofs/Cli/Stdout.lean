import Mathlib
import SatBridge.Cli.Run
import SatBridge.Proofs.Dimacs.WellFormed
import SatBridge.Proofs.Report.Lines

/-!
# What a run prints

A run on a formula opens its input, reads it, loads a library, creates a handle, and works with it.
Each of these stages may fail, and then the run is over with what was printed so far. Main
statement: whatever the input, the library, and the engine of the resident solver, what is printed
reads as a result exactly if no stage failed, and that result is the exit code.
-/

set_option autoImplicit false

namespace SatBridge.Cli

open SolverM

section Stages

def input? (env : Environment) (path : String) : Option Source :=
  if path = "-" then some env.stdin else (env.file path).toOption

def library? (env : Environment) (args : Args) : Option LoadedLibrary :=
  if args.backend = .builtin then some (Builtin.loaded env.engine)
  else (env.load (args.library.getD defaultLibraryPath)).toOption.map Prod.fst

/-- A new handle can be created, and the run on it succeeds. -/
def Answers (H : Type) {W : Type} [Backend H W] (shared : W) (f : Formula) (settings : Settings)
    (outcome : Outcome) : Prop :=
  ∃ (handle : H) (world : World W) (done : Context H W),
    Backend.create.run (World.ofShared shared) = (.ok handle, world) ∧
      (Solver.solveFormula f settings).run ⟨world, handle⟩ = (.ok outcome, done)

/-- What the stages behind the reading of a formula come to. -/
def Solves (env : Environment) (args : Args) (settings : Settings) (f : Formula)
    (outcome : Outcome) : Prop :=
  if args.backend = .resident then Answers (ResidentSolver env.engine) () f settings outcome
  else ∃ loaded, library? env args = some loaded ∧
    Answers (GuardedSolver loaded.library) loaded.memory f settings outcome

/-- No stage of a run fails, and the last one comes to this outcome. -/
def Completes (env : Environment) (args : Args) (path : String) (settings : Settings)
    (outcome : Outcome) : Prop :=
  ∃ source f, input? env path = some source ∧ Dimacs.parse source = .ok f ∧
    Solves env args settings f outcome

end Stages

/-- A run adds comments to the output, and behind them the outcome if it comes to one. -/
inductive Shows (comesTo : Outcome → Prop) (output : Array Output) :
    Except Failure Status × Transcript → Prop where
  | answered {outcome : Outcome} {comments : List String} {t : Transcript}
      (reached : comesTo outcome) (single : ∀ text ∈ comments, '\n' ∉ text.toList)
      (written : t.output.toList =
        output.toList ++ comments.map Output.comment ++ [.outcome outcome]) :
      Shows comesTo output (.ok outcome.status, t)
  | failed {failure : Failure} {comments : List String} {t : Transcript}
      (unreached : ∀ outcome, ¬ comesTo outcome) (single : ∀ text ∈ comments, '\n' ∉ text.toList)
      (written : t.output.toList = output.toList ++ comments.map Output.comment) :
      Shows comesTo output (.error failure, t)

section Runs

variable {H W : Type} [Backend H W] {comesTo : Outcome → Prop} {output : Array Output}

theorem Shows.mono {other : Outcome → Prop} {ran : Except Failure Status × Transcript}
    (shows : Shows comesTo output ran) (same : ∀ outcome, comesTo outcome ↔ other outcome) :
    Shows other output ran := by
  cases shows with
  | answered reached single written => exact .answered ((same _).mp reached) single written
  | failed unreached single written =>
      exact .failed (fun outcome reached => unreached outcome ((same outcome).mpr reached)) single
        written

theorem Shows.silent {failure : Failure} {t : Transcript} (unreached : ∀ outcome, ¬ comesTo outcome)
    (same : t.output = output) : Shows comesTo output (.error failure, t) :=
  .failed unreached (List.forall_mem_nil _) (by simp [same])

theorem Shows.comment {text : String} {ran : Except Failure Status × Transcript}
    (clean : '\n' ∉ text.toList) (shows : Shows comesTo (output.push (.comment text)) ran) :
    Shows comesTo output ran := by
  cases shows with
  | answered reached single written =>
      exact .answered reached (List.forall_mem_cons.mpr ⟨clean, single⟩) (by simp [written])
  | failed unreached single written =>
      exact .failed unreached (List.forall_mem_cons.mpr ⟨clean, single⟩) (by simp [written])

omit [Backend H W] in
theorem run_act {α : Type} (action : SolverM H W α) (w : Working H W) :
    (act action).run w =
      match action.run w.context with
      | (.ok value, d) => (.ok value, ⟨w.output, d⟩)
      | (.error error, d) => (.error error.causes, ⟨w.output, d⟩) := by
  unfold act
  rw [run_bind_ok (run_get w)]
  rcases action.run w.context with ⟨error | value, d⟩ <;> rfl

theorem run_solveWork (f : Formula) (settings : Settings) (w : Working H W) :
    (solveWork f settings).run w =
      match (Solver.solveFormula f settings).run w.context with
      | (.ok outcome, d) => (.ok outcome.status,
          ⟨(w.output.push (.comment s!"backend {Backend.name H}")).push (.outcome outcome), d⟩)
      | (.error error, d) =>
          (.error error.causes, ⟨w.output.push (.comment s!"backend {Backend.name H}"), d⟩) := by
  let named : Working H W := { w with output := w.output.push (.comment s!"backend {Backend.name H}") }
  have reported : (report (.comment s!"backend {Backend.name H}") : WorkM H W Unit).run w =
      (.ok (), named) := rfl
  rw [solveWork, run_bind_ok reported, run_bind, run_act]
  rcases (Solver.solveFormula f settings).run w.context with ⟨error | outcome, d⟩ <;> rfl

theorem run_withHandle {α : Type} (world : World W) (work : WorkM H W α) (t : Transcript) :
    (withHandle world work).run t =
      match (Backend.create (H := H)).run world with
      | (.error error, begun) => (.error ("solver initialisation failed" :: error.causes),
          { t with log := t.log ++ begun.log })
      | (.ok handle, begun) =>
          let (result, done) := work.run ⟨t.output, ⟨begun, handle⟩⟩
          (result, ⟨done.output,
            t.log ++ (Backend.release done.context.handle done.context.toWorld).log⟩) := by
  unfold withHandle
  rcases (Backend.create (H := H)).run world with ⟨error | handle, begun⟩
  · rfl
  · dsimp only
    rw [run_bind_ok (run_get t)]
    rcases work.run ⟨t.output, ⟨begun, handle⟩⟩ with ⟨failure | value, done⟩ <;> rfl

theorem shows_withHandle (clean : '\n' ∉ (Backend.name H).toList) (shared : W) (f : Formula)
    (settings : Settings) (t : Transcript) :
    Shows (Answers H shared f settings) t.output
      ((withHandle (World.ofShared shared) (solveWork (H := H) f settings)).run t) := by
  have single : ∀ text ∈ [s!"backend {Backend.name H}"], '\n' ∉ text.toList := by
    rw [List.forall_mem_singleton]
    exact Report.newline_not_mem_append (by decide) clean
  rw [run_withHandle]
  rcases created : (Backend.create (H := H)).run (World.ofShared shared) with ⟨error | handle, begun⟩
  · refine .silent ?_ rfl
    rintro outcome ⟨handle, world, done, other, _⟩
    cases created.symm.trans other
  · dsimp only
    rw [run_solveWork]
    rcases solved : (Solver.solveFormula f settings).run ⟨begun, handle⟩ with ⟨error | outcome, done⟩
    · refine .failed ?_ single (by simp)
      rintro outcome ⟨handle, world, done, other, answered⟩
      cases created.symm.trans other
      cases solved.symm.trans answered
    · exact .answered ⟨handle, begun, done, created, solved⟩ single (by simp)

theorem run_withLibrary {α : Type} (env : Environment) (args : Args)
    (work : LoadedLibrary → RunM α) (t : Transcript) :
    (∃ loaded log, library? env args = some loaded ∧
      (withLibrary env args work).run t = (work loaded).run { t with log }) ∨
    library? env args = none ∧ ∃ failure, (withLibrary env args work).run t = (.error failure, t) := by
  unfold library? withLibrary
  split
  · exact .inl ⟨Builtin.loaded env.engine, t.log, rfl, rfl⟩
  · dsimp only
    cases env.load (args.library.getD defaultLibraryPath) with
    | ok found => exact .inl ⟨found.1, t.log ++ found.2, rfl, rfl⟩
    | error error => exact .inr ⟨rfl, _, rfl⟩

theorem shows_solver (env : Environment) (args : Args) (f : Formula) (settings : Settings)
    (t : Transcript) :
    Shows (Solves env args settings f) t.output
      ((if args.backend = .resident then
          withHandle (World.ofShared ()) (solveWork (H := ResidentSolver env.engine) f settings)
        else withLibrary env args fun loaded =>
          withHandle (World.ofShared loaded.memory)
            (solveWork (H := GuardedSolver loaded.library) f settings)).run t) := by
  unfold Solves
  split
  · have clean : '\n' ∉ (Backend.name (ResidentSolver env.engine)).toList :=
      show '\n' ∉ "varisat".toList by decide
    exact shows_withHandle clean () f settings t
  · obtain ⟨loaded, log, found, ran⟩ | ⟨missing, failure, ran⟩ := run_withLibrary env args
      (fun loaded => withHandle (World.ofShared loaded.memory)
        (solveWork (H := GuardedSolver loaded.library) f settings)) t
    · have clean : '\n' ∉ (Backend.name (GuardedSolver loaded.library)).toList :=
        show '\n' ∉ "native".toList by decide
      rw [ran]
      exact (shows_withHandle clean loaded.memory f settings { t with log }).mono fun outcome => by
        simp [found]
    · rw [ran]
      exact .silent (by simp [missing]) rfl

theorem run_readFormula (env : Environment) (path : String) (t : Transcript) :
    (∃ source f, input? env path = some source ∧ Dimacs.parse source = .ok f ∧
      (readFormula env path).run t = (.ok f, t)) ∨
    (¬ ∃ source f, input? env path = some source ∧ Dimacs.parse source = .ok f) ∧
      ∃ failure, (readFormula env path).run t = (.error failure, t) := by
  have parses (purpose : List String) (source : Source) :
      (∃ f, Dimacs.parse source = .ok f ∧
        (require purpose (Dimacs.parse source)).run t = (.ok f, t)) ∨
      (¬ ∃ f, Dimacs.parse source = .ok f) ∧
        ∃ failure, (require purpose (Dimacs.parse source)).run t = (.error failure, t) := by
    cases parsed : Dimacs.parse source with
    | ok f => exact .inl ⟨f, rfl, rfl⟩
    | error error => exact .inr ⟨by simp, _, rfl⟩
  unfold input? readFormula
  split
  · simpa using parses ["failed to parse stdin"] env.stdin
  · cases env.file path with
    | ok source => simpa [Except.toOption] using parses [s!"failed to parse {path}"] source
    | error reason => exact .inr ⟨by simp [Except.toOption], _, rfl⟩

def parsedText (f : Formula) (path : String) : String :=
  s!"parsed 'p cnf {f.numVars} {f.clauses.length}' from {path}"

omit [Backend H W] in
theorem newline_not_mem_parsedText {path : String} (single : '\n' ∉ path.toList) (f : Formula) :
    '\n' ∉ (parsedText f path).toList := by
  have lead : '\n' ∉ "parsed 'p cnf ".toList := by decide
  have gap : '\n' ∉ " ".toList := by decide
  have last : '\n' ∉ "' from ".toList := by decide
  have vars := Report.newline_not_mem_toString f.numVars
  have clauses := Report.newline_not_mem_toString f.clauses.length
  have numbers := Report.newline_not_mem_append (Report.newline_not_mem_append lead vars) gap
  have quoted := Report.newline_not_mem_append (Report.newline_not_mem_append numbers clauses) last
  exact Report.newline_not_mem_append quoted single

theorem shows_solve {path : String} (single : '\n' ∉ path.toList) (env : Environment) (args : Args)
    (settings : Settings) (t : Transcript) :
    Shows (Completes env args path settings) t.output ((solve env args path settings).run t) := by
  unfold solve
  obtain ⟨source, f, opened, parsed, read⟩ | ⟨unread, failure, read⟩ := run_readFormula env path t
  · rw [run_bind_ok read]
    let begun : Transcript := ⟨t.output.push (.comment (parsedText f path)),
      t.log ++ #[.formulaRead f.numVars f.clauses.length]⟩
    have shows := shows_solver env args f settings begun
    refine .comment (newline_not_mem_parsedText single f) (shows.mono fun outcome => ?_)
    constructor
    · intro solved
      exact ⟨source, f, opened, parsed, solved⟩
    · rintro ⟨other, g, openedOther, parsedOther, solved⟩
      cases opened.symm.trans openedOther
      cases parsed.symm.trans parsedOther
      exact solved
  · rw [run_bind_error read]
    refine .silent ?_ rfl
    rintro outcome ⟨source, f, opened, parsed, _⟩
    exact unread ⟨source, f, opened, parsed⟩

end Runs

section Outcomes

variable {f : Formula} {settings : Settings} {outcome : Outcome} {found : Assignment}

theorem Answers.unique {H W : Type} [Backend H W] {shared : W} {other : Outcome}
    (answers : Answers H shared f settings outcome) (again : Answers H shared f settings other) :
    outcome = other := by
  obtain ⟨handle, world, done, created, ran⟩ := answers
  obtain ⟨_, _, _, createdAgain, ranAgain⟩ := again
  cases created.symm.trans createdAgain
  cases ran.symm.trans ranAgain
  rfl

theorem Completes.unique {env : Environment} {args : Args} {path : String} {other : Outcome}
    (completes : Completes env args path settings outcome)
    (again : Completes env args path settings other) : outcome = other := by
  obtain ⟨source, f, opened, parsed, solves⟩ := completes
  obtain ⟨_, _, openedAgain, parsedAgain, solvesAgain⟩ := again
  cases opened.symm.trans openedAgain
  cases parsed.symm.trans parsedAgain
  unfold Solves at solves solvesAgain
  split at solves
  · rename_i resident
    rw [if_pos resident] at solvesAgain
    exact solves.unique solvesAgain
  · rename_i shared
    rw [if_neg shared] at solvesAgain
    obtain ⟨loaded, found, answers⟩ := solves
    obtain ⟨_, foundAgain, answersAgain⟩ := solvesAgain
    cases found.symm.trans foundAgain
    exact answers.unique answersAgain

theorem Answers.model {H W : Type} [Backend H W] {shared : W} (wellFormed : f.WellFormed)
    (answers : Answers H shared f settings outcome) (present : outcome.model = some found) :
    outcome.status = .sat ∧ found.size ≤ maxVar + 1 := by
  obtain ⟨handle, world, done, _, ran⟩ := answers
  have kept := Solver.model_of_solveFormula ran
  cases wanted : Solver.wantsModel settings outcome.status with
  | false =>
      rw [wanted] at kept
      cases present.symm.trans kept
  | true =>
      rw [wanted] at kept
      obtain ⟨other, values, same, filled, counted⟩ := kept
      cases present.symm.trans same
      have slots : found.size = f.numVars + 1 := by
        rw [← Array.length_toList, filled, List.length_cons, counted]
      exact ⟨(Solver.wantsModel_iff.mp wanted).1, slots ▸ Nat.succ_le_succ wellFormed.1⟩

theorem Completes.model {env : Environment} {args : Args} {path : String}
    (completes : Completes env args path settings outcome) (present : outcome.model = some found) :
    outcome.status = .sat ∧ found.size ≤ maxVar + 1 := by
  obtain ⟨source, f, _, parsed, solves⟩ := completes
  have wellFormed := Dimacs.wellFormed_of_parse parsed
  unfold Solves at solves
  split at solves
  · exact solves.model wellFormed present
  · obtain ⟨loaded, _, answers⟩ := solves
    exact answers.model wellFormed present

end Outcomes

/-- The exit code and the status line that stand for a result. -/
inductive Announces : Status → Int → String → Prop where
  | satisfiable : Announces .sat 10 "s SATISFIABLE"
  | unsatisfiable : Announces .unsat 20 "s UNSATISFIABLE"
  | unknown : Announces .unknown 0 "s UNKNOWN"

theorem announces_verdictLine (status : Status) :
    Announces status status.code (Report.verdictLine status) := by
  cases status with
  | sat => exact .satisfiable
  | unsat => exact .unsatisfiable
  | unknown => exact .unknown

/-- An exit code stands for one result, and the result for one status line. -/
theorem Announces.of_code {status other : Status} {text : String}
    (announced : Announces status other.code text) :
    status = other ∧ text = Report.verdictLine other := by
  cases other <;> cases announced <;> exact ⟨rfl, rfl⟩

/-- The lines read as a result, and the exit code is that of the result. -/
structure Clean (lines : List (List Char)) (exitCode : Int) : Prop where
  kinds : ∀ line ∈ lines, ['c'] <+: line ∨ ['s', ' '] <+: line ∨ ['v', ' '] <+: line
  verdict : ∀ status text, Announces status exitCode text → ∃ before after,
    lines = before ++ text.toList :: after ∧
      (∀ line ∈ before ++ after, ¬ ['s', ' '] <+: line) ∧ (∀ line ∈ before, ¬ ['v', ' '] <+: line) ∧
        (exitCode ≠ 10 → ∀ line ∈ after, ¬ ['v', ' '] <+: line)

section Output

variable {elapsed : Duration} {comments : List String}

theorem flatMap_comments (elapsed : Duration) (comments : List String) :
    (comments.map Output.comment).flatMap (Output.lines elapsed) =
      comments.map Report.commentLine := by
  induction comments with
  | nil => rfl
  | cons text rest ih => simp [Output.lines, ih]

theorem c_prefix_of_mem {line : List Char}
    (member : line ∈ (comments.map Report.commentLine).map String.toList) : ['c'] <+: line := by
  simp only [List.mem_map] at member
  obtain ⟨_, ⟨text, _, rfl⟩, rfl⟩ := member
  exact Report.commentLine_prefix text

theorem newline_not_mem_comments (single : ∀ text ∈ comments, '\n' ∉ text.toList) :
    ∀ line ∈ comments.map Report.commentLine, '\n' ∉ line.toList := by
  intro line member
  obtain ⟨text, inComments, rfl⟩ := List.mem_map.mp member
  exact Report.newline_not_mem_commentLine (single text inComments)

theorem lines_of_comments {run : Run} (single : ∀ text ∈ comments, '\n' ∉ text.toList)
    (written : run.transcript.output.toList = comments.map Output.comment) :
    Report.lines (run.stdout elapsed) = (comments.map Report.commentLine).map String.toList := by
  rw [Run.stdout, written, flatMap_comments,
    Report.lines_textOfLines (newline_not_mem_comments single)]

theorem clean_of_comments {run : Run} (failed : run.exitCode = 1)
    (commented : ∀ line ∈ Report.lines (run.stdout elapsed), ['c'] <+: line) :
    Clean (Report.lines (run.stdout elapsed)) run.exitCode where
  kinds line member := .inl (commented line member)
  verdict status text announced := by
    rw [failed] at announced
    cases announced

theorem lines_of_outcome {run : Run} {outcome : Outcome}
    (single : ∀ text ∈ comments, '\n' ∉ text.toList)
    (written : run.transcript.output.toList =
      comments.map Output.comment ++ [.outcome outcome]) :
    Report.lines (run.stdout elapsed) =
      ((comments ++ [Report.summary elapsed outcome.stats]).map Report.commentLine).map String.toList
        ++ (Report.verdictLine outcome.status).toList ::
          (outcome.model.elim [] Report.valueLines).map String.toList := by
  have listed : (run.transcript.output.toList.flatMap (Output.lines elapsed)) =
      comments.map Report.commentLine ++ Report.outcomeLines elapsed outcome := by
    rw [written, List.flatMap_append, flatMap_comments]
    simp [Output.lines]
  have clean : ∀ line ∈ comments.map Report.commentLine ++ Report.outcomeLines elapsed outcome,
      '\n' ∉ line.toList :=
    List.forall_mem_append.mpr ⟨newline_not_mem_comments single,
      Report.newline_not_mem_outcomeLines elapsed outcome⟩
  rw [Run.stdout, listed, Report.lines_textOfLines clean, Report.outcomeLines]
  cases outcome.model <;> simp

theorem clean_of_outcome {run : Run} {outcome : Outcome}
    (values : ∀ model, outcome.model = some model → outcome.status = .sat ∧ model.size ≤ maxVar + 1)
    (exits : run.exitCode = outcome.status.code)
    (single : ∀ text ∈ comments, '\n' ∉ text.toList)
    (written : run.transcript.output.toList =
      comments.map Output.comment ++ [.outcome outcome]) :
    Clean (Report.lines (run.stdout elapsed)) run.exitCode := by
  have after : ∀ line ∈ (outcome.model.elim [] Report.valueLines).map String.toList,
      outcome.status = .sat ∧ ['v', ' '] <+: line := by
    intro line member
    obtain ⟨shown, inValues, rfl⟩ := List.mem_map.mp member
    cases present : outcome.model with
    | none => simp [present] at inValues
    | some model =>
        rw [present] at inValues
        obtain ⟨sat, bounded⟩ := values model present
        have small : model.size < 2 ^ 63 := Nat.lt_of_le_of_lt bounded (by decide)
        exact ⟨sat, Report.space_of_mem_valueLines small shown inValues⟩
  have verdict := Report.verdictLine_prefix outcome.status
  rw [lines_of_outcome single written]
  constructor
  case kinds =>
    intro line member
    rcases List.mem_append.mp member with before | member
    · exact .inl (c_prefix_of_mem before)
    · cases List.mem_cons.mp member with
      | inl same => exact .inr (.inl (same ▸ verdict))
      | inr later => exact .inr (.inr (after line later).2)
  case verdict =>
    intro status text announced
    rw [exits] at announced ⊢
    obtain ⟨_, rfl⟩ := announced.of_code
    refine ⟨_, _, rfl, ?_, ?_, ?_⟩
    · intro line member other
      rcases List.mem_append.mp member with before | later
      · exact absurd (Report.first_unique (c_prefix_of_mem before) other) (by decide)
      · exact absurd (Report.first_unique (after line later).2 other) (by decide)
    · intro line before other
      exact absurd (Report.first_unique (c_prefix_of_mem before) other) (by decide)
    · intro undecided line later
      rw [(after line later).1] at undecided
      exact absurd rfl undecided

end Output

theorem run_solve (env : Environment) {args : Args} {path : String} {settings : Settings}
    (task : args.task = .solve path settings) :
    run env args =
      match (solve env args path settings).run ⟨#[], #[]⟩ with
      | (.ok status, t) => ⟨status.code, t, none⟩
      | (.error failure, t) => ⟨1, t, some failure⟩ := by
  rw [run, runTask, task]
  dsimp only
  rw [run_bind]
  rcases (solve env args path settings).run ⟨#[], #[]⟩ with ⟨failure | status, t⟩ <;> rfl

/-- A run on a formula prints a result exactly if no stage fails, and exits with its code, whatever
the engine. The path is part of the output, so it must not break a line. -/
theorem solve_stdout_clean (env : Environment) {args : Args} {path : String} {settings : Settings}
    (task : args.task = .solve path settings) (single : '\n' ∉ path.toList) (elapsed : Duration) :
    Clean (Report.lines ((run env args).stdout elapsed)) (run env args).exitCode ∧
    (∀ outcome, Completes env args path settings outcome →
      (run env args).exitCode = outcome.status.code ∧
        ∃ text, Announces outcome.status (run env args).exitCode text) ∧
    ((∀ outcome, ¬ Completes env args path settings outcome) → (run env args).exitCode = 1 ∧
      ∀ line ∈ Report.lines ((run env args).stdout elapsed),
        ¬ ['s', ' '] <+: line ∧ ¬ ['v', ' '] <+: line) := by
  have shows := shows_solve single env args settings ⟨#[], #[]⟩
  have ended := run_solve env task
  rcases ran : (solve env args path settings).run ⟨#[], #[]⟩ with ⟨failure | status, t⟩
  · rw [ran] at shows ended
    cases shows with
    | failed unreached clean written =>
        have failed : (run env args).exitCode = 1 := by rw [ended]
        have commented : ∀ line ∈ Report.lines ((run env args).stdout elapsed), ['c'] <+: line := by
          rw [ended, lines_of_comments clean written]
          exact fun line => c_prefix_of_mem
        refine ⟨clean_of_comments failed commented,
          fun outcome reached => (unreached outcome reached).elim, fun _ => ⟨failed, ?_⟩⟩
        intro line member
        have comment := commented line member
        exact ⟨fun verdict => absurd (Report.first_unique comment verdict) (by decide),
          fun value => absurd (Report.first_unique comment value) (by decide)⟩
  · rw [ran] at shows ended
    cases shows with
    | @answered outcome comments t reached clean written =>
        have exits : (run env args).exitCode = outcome.status.code := by rw [ended]
        have output : (run env args).transcript.output.toList =
            comments.map Output.comment ++ [.outcome outcome] := by
          rw [ended]
          exact written
        refine ⟨clean_of_outcome (fun model present => reached.model present) exits clean output,
          ?_, fun unreached => (unreached outcome reached).elim⟩
        intro other again
        rw [exits, reached.unique again]
        exact ⟨rfl, _, announces_verdictLine _⟩

section Samples

/-- One file, a library that finds every formula satisfiable, and an engine that always gives up. -/
private def sampleEnvironment (path : String) : Environment where
  stdin := .ofBytes []
  file other :=
    if other = path then .ok (.ofBytes "p cnf 1 1\n1 0\n".toUTF8.data.toList)
    else .error "No such file or directory (os error 2)"
  load _ := .ok (⟨Scripted.Memory, Scripted.library (.inProcess "scripted"), ⟨.agreeable, 0⟩⟩, #[])
  engine := ⟨fun _ => .stopped "out of memory"⟩

private def sampleSettings : Settings := ⟨[], none, none, true, false⟩

private def sampleArgs (backend : Choice) (path : String) : Args :=
  ⟨none, backend, 0, .solve path sampleSettings⟩

private def sampleOutcome : Outcome := ⟨.sat, some #[none, some true], ⟨1, 1, 1, 1⟩⟩

private def sampleRun : Except Error Outcome ×
    Context (GuardedSolver (Scripted.library (.inProcess "scripted"))) Scripted.Memory :=
  (Solver.solveFormula ⟨1, [[⟨1, true⟩]]⟩ sampleSettings).run
    ⟨⟨⟨.agreeable, 1⟩, #[.solverCreated 0 (.inProcess "scripted")]⟩,
      ⟨0, .configuring, false, .zero⟩⟩

private def sampleResidentRun : Except Error Outcome ×
    Context (ResidentSolver (sampleEnvironment "a.cnf").engine) Unit :=
  (Solver.solveFormula ⟨1, [[⟨1, true⟩]]⟩ sampleSettings).run ⟨World.ofShared (), .new⟩

theorem solve_stdout_clean_sample :
    (∀ elapsed, Clean (Report.lines
      ((run (sampleEnvironment "a.cnf") (sampleArgs .shared "a.cnf")).stdout elapsed)) 10) ∧
    (∀ elapsed, Clean (Report.lines
      ((run (sampleEnvironment "a.cnf") (sampleArgs .resident "a.cnf")).stdout elapsed)) 0) ∧
    (run (sampleEnvironment "a.cnf") (sampleArgs .shared "b.cnf")).exitCode = 1 := by
  have parsed : Dimacs.parse (.ofBytes "p cnf 1 1\n1 0\n".toUTF8.data.toList) =
      .ok ⟨1, [[⟨1, true⟩]]⟩ := by cbv
  have answered : sampleRun.1 = .ok sampleOutcome := by cbv
  have gaveUp : sampleResidentRun.1 = .ok ⟨.unknown, none, ⟨1, 1, 1, 1⟩⟩ := by cbv
  have answers : Solves (sampleEnvironment "a.cnf") (sampleArgs .shared "a.cnf") sampleSettings
      ⟨1, [[⟨1, true⟩]]⟩ sampleOutcome :=
    ⟨_, rfl, _, _, sampleRun.2, rfl, run_of_result answered⟩
  have leaves : Solves (sampleEnvironment "a.cnf") (sampleArgs .resident "a.cnf") sampleSettings
      ⟨1, [[⟨1, true⟩]]⟩ ⟨.unknown, none, ⟨1, 1, 1, 1⟩⟩ :=
    ⟨_, _, sampleResidentRun.2, rfl, run_of_result gaveUp⟩
  have missing (outcome : Outcome) : ¬ Completes (sampleEnvironment "a.cnf")
      (sampleArgs .shared "b.cnf") "b.cnf" sampleSettings outcome := by
    rintro ⟨source, f, opened, _⟩
    cases opened
  have clean (backend : Choice) (path : String) (single : '\n' ∉ path.toList)
      (elapsed : Duration) := solve_stdout_clean (sampleEnvironment "a.cnf")
    (show (sampleArgs backend path).task = .solve path sampleSettings from rfl) single elapsed
  have satisfied : (run (sampleEnvironment "a.cnf") (sampleArgs .shared "a.cnf")).exitCode = 10 :=
    ((clean .shared "a.cnf" (by decide) .zero).2.1 _ ⟨_, _, rfl, parsed, answers⟩).1
  have undecided : (run (sampleEnvironment "a.cnf") (sampleArgs .resident "a.cnf")).exitCode = 0 :=
    ((clean .resident "a.cnf" (by decide) .zero).2.1 _ ⟨_, _, rfl, parsed, leaves⟩).1
  refine ⟨fun elapsed => ?_, fun elapsed => ?_, ?_⟩
  · exact satisfied ▸ (clean .shared "a.cnf" (by decide) elapsed).1
  · exact undecided ▸ (clean .resident "a.cnf" (by decide) elapsed).1
  · exact ((clean .shared "b.cnf" (by decide) .zero).2.2 missing).1

/-- A path with a newline in it can end in a line that reads as a result. -/
theorem verdict_forged :
    (run (sampleEnvironment "a.cnf\ns UNSATISFIABLE")
      (sampleArgs .shared "a.cnf\ns UNSATISFIABLE")).exitCode = 10 ∧
    ∀ elapsed, "s UNSATISFIABLE".toList ∈ Report.lines
      ((run (sampleEnvironment "a.cnf\ns UNSATISFIABLE")
        (sampleArgs .shared "a.cnf\ns UNSATISFIABLE")).stdout elapsed) := by
  have output : (run (sampleEnvironment "a.cnf\ns UNSATISFIABLE")
        (sampleArgs .shared "a.cnf\ns UNSATISFIABLE")).transcript.output =
      #[.comment "parsed 'p cnf 1 1' from a.cnf\ns UNSATISFIABLE", .comment "backend native",
        .outcome sampleOutcome] := by cbv
  refine ⟨by cbv, fun elapsed => ?_⟩
  have broken : (run (sampleEnvironment "a.cnf\ns UNSATISFIABLE")
        (sampleArgs .shared "a.cnf\ns UNSATISFIABLE")).stdout elapsed =
      Report.textOfLines (["c parsed 'p cnf 1 1' from a.cnf", "s UNSATISFIABLE", "c backend native"]
        ++ Report.outcomeLines elapsed sampleOutcome) := by
    rw [Run.stdout, output, ← String.toList_inj]
    simp [Report.textOfLines, Output.lines, Report.commentLine, String.toList_join]
  rw [broken, Report.lines_textOfLines]
  · simp
  · refine List.forall_mem_append.mpr ⟨by decide, Report.newline_not_mem_outcomeLines elapsed _⟩

end Samples

end SatBridge.Cli
