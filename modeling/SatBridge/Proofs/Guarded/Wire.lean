import Mathlib
import SatBridge.Library.Scripted
import SatBridge.Proofs.Formula.Cutting
import SatBridge.Proofs.Guarded.Recorded
import SatBridge.Proofs.Guarded.Run

/-!
# What a run puts on the wire

The calls of a run on one formula, from the first option to the last value query, in the order in
which the library gets them. Each part of the run is followed with the record that it extends.
-/

set_option autoImplicit false

namespace SatBridge.GuardedSolver

open SolverM

variable {σ : Type} {lib : Library σ}

section Calls

/-- The options, if the library can be told any. -/
def toldOptions (lib : Library σ) (settings : Settings) : List (String × Int) :=
  if lib.setOption.isSome then settings.options else []

/-- Options in turn, with the replies to them. -/
def optionCalls (solver : Nat) (options : List (String × Int)) (previous : List Int) : List Call :=
  options.zipWith (fun option before => .setOption solver option.1 option.2 before) previous

def limitCalls (offered : Bool) (limit : Option Nat) (call : Nat → Call) : List Call :=
  if offered then limit.toList.map call else []

def settingCalls (lib : Library σ) (settings : Settings) (solver : Nat) (previous : List Int) :
    List Call :=
  optionCalls solver (toldOptions lib settings) previous ++
    limitCalls lib.setConflictLimit.isSome settings.conflictLimit (.setConflictLimit solver) ++
    limitCalls lib.setDecisionLimit.isSome settings.decisionLimit (.setDecisionLimit solver)

def addCalls (solver : Nat) (clauses : List Clause) : List Call :=
  (ClauseStream.integers clauses).map (.add solver)

/-- A model is asked for only if there is one and someone wants it. -/
def Queries (f : Formula) (settings : Settings) (code : Int) (replies : List Int) : Prop :=
  if code = 10 ∧ (settings.printModel ∨ settings.verify) then InTurn f.numVars 1 replies
  else replies = []

/-- The calls of a run that ends with a result. -/
inductive Converses (lib : Library σ) (f : Formula) (settings : Settings) (solver : Nat) :
    List Call → Except Error Outcome → Prop where
  /-- The name of an option cannot be passed on, so nothing comes after the options before it. -/
  | refused {before name value after previous} :
      toldOptions lib settings = before ++ (name, value) :: after →
      (∀ option ∈ before, '\x00' ∉ option.1.toList) → '\x00' ∈ name.toList →
      previous.length = before.length →
      Converses lib f settings solver (optionCalls solver before previous) (.error .nulInOptionName)
  | completed {previous code replies result} :
      (∀ option ∈ toldOptions lib settings, '\x00' ∉ option.1.toList) →
      previous.length = (toldOptions lib settings).length →
      Queries f settings code replies →
      Converses lib f settings solver
        (settingCalls lib settings solver previous ++ addCalls solver f.clauses ++
          .solve solver code :: valueCalls solver 1 replies) result

theorem optionCalls_snoc {solver : Nat} {options : List (String × Int)} {previous : List Int}
    (counted : previous.length = options.length) (option : String × Int) (before : Int) :
    optionCalls solver (options ++ [option]) (previous ++ [before]) =
      optionCalls solver options previous ++ [.setOption solver option.1 option.2 before] :=
  List.zipWith_append counted.symm

theorem addCalls_snoc (solver : Nat) (clauses : List Clause) (c : Clause) :
    addCalls solver (clauses ++ [c]) =
      addCalls solver clauses ++ (c.map fun l => Call.add solver l.signed) ++
        [.add solver 0] := by
  simp [addCalls, ClauseStream.integers]

end Calls

/-- The record of a solver holds these calls. -/
def Sent (solver : Nat) (calls : List Call)
    (c : Context (GuardedSolver lib.recorded) (Recording σ)) : Prop :=
  c.handle.pointer = solver ∧ c.shared.calls.toList = calls

section Settings

variable {solver : Nat} {calls : List Call}
  {c : Context (GuardedSolver lib.recorded) (Recording σ)}

theorem run_setOption_sent (offered : lib.setOption.isSome)
    (configuring : c.handle.phase = .configuring) (sent : Sent solver calls c) {name : String}
    (clean : '\x00' ∉ name.toList) (value : Int) :
    ∃ previous d, (setOption name value).run c = (.ok previous, d) ∧ d.handle = c.handle ∧
      Sent solver (calls ++ [.setOption solver name value previous]) d := by
  obtain ⟨entry, given⟩ := Option.isSome_iff_exists.mp offered
  have present : lib.recorded.setOption = some _ := congrArg (Option.map _) given
  obtain ⟨log, ran⟩ := run_setOption present configuring clean value
  obtain ⟨rfl, rfl⟩ := sent
  refine ⟨_, _, ran, rfl, rfl, ?_⟩
  simp [Recording.perform]

theorem run_setLimit_sent (unsolved : Unsolved c) (sent : Sent solver calls c) (feature : Feature)
    (entry : Pointer → Nat → Entry σ Unit) (call : Nat → Nat → Call) (limit : Nat) :
    ∃ d, (setLimit feature (some fun solver limit =>
        Recording.perform solver (fun p => entry p limit) fun _ => call solver limit) limit).run c =
          (.ok (), d) ∧
      d.handle = c.handle ∧ Sent solver (calls ++ [call solver limit]) d := by
  obtain ⟨log, ran⟩ := run_setLimit unsolved feature (fun solver limit =>
    Recording.perform solver (fun p => entry p limit) fun _ => call solver limit) limit
  obtain ⟨rfl, rfl⟩ := sent
  refine ⟨_, ran, rfl, rfl, ?_⟩
  simp [Recording.perform]

theorem run_applyOption_sent (offered : lib.setOption.isSome) (fresh : Fresh c)
    (sent : Sent solver calls c) {name : String} (clean : '\x00' ∉ name.toList) (value : Int) :
    ∃ previous d, (Settings.applyOption name value).run c = (.ok (), d) ∧ Fresh d ∧
      Sent solver (calls ++ [.setOption solver name value previous]) d := by
  obtain ⟨previous, d, ran, same, extended⟩ :=
    run_setOption_sent offered fresh.1 sent clean value
  refine ⟨previous, d, run_tolerate_ok (run_bind_ok ran _), ?_, extended⟩
  rwa [Fresh, same]

theorem run_applyOption_nul (offered : lib.setOption.isSome) (fresh : Fresh c) {name : String}
    (nul : '\x00' ∈ name.toList) (value : Int) :
    (Settings.applyOption name value).run c = (.error .nulInOptionName, c) := by
  obtain ⟨entry, given⟩ := Option.isSome_iff_exists.mp offered
  have present : lib.recorded.setOption = some _ := congrArg (Option.map _) given
  have refused : (do let _ ← Backend.setOption name value :
      SolverM (GuardedSolver lib.recorded) (Recording σ) Unit).run c =
        (.error .nulInOptionName, c) :=
    run_bind_error (run_setOption_nul present fresh.1 nul value) _
  rw [Settings.applyOption, Settings.tolerate, run_tryCatch, refused]
  rfl

theorem reaches_options (offered : lib.setOption.isSome) (solver : Nat) (calls : List Call)
    {options : List (String × Int)} (clean : ∀ option ∈ options, '\x00' ∉ option.1.toList) :
    Reaches (fun c => Fresh c ∧ Sent solver calls c)
      (fun c => Fresh c ∧ ∃ previous : List Int, previous.length = options.length ∧
        Sent solver (calls ++ optionCalls solver options previous) c)
      (options.forM fun option => Settings.applyOption option.1 option.2 :
        SolverM (GuardedSolver lib.recorded) (Recording σ) Unit) := by
  let kept (taken : List (String × Int))
      (c : Context (GuardedSolver lib.recorded) (Recording σ)) : Prop :=
    Fresh c ∧ ∃ previous : List Int, previous.length = taken.length ∧
      Sent solver (calls ++ optionCalls solver taken previous) c
  have each : ∀ option ∈ options, ∀ taken, Reaches (kept taken) (kept (taken ++ [option]))
      (Settings.applyOption option.1 option.2) := by
    intro option member taken c ⟨fresh, previous, counted, sent⟩
    obtain ⟨before, d, ran, stillFresh, extended⟩ :=
      run_applyOption_sent offered fresh sent (clean option member) option.2
    refine ⟨(), d, ran, stillFresh, previous ++ [before], by simp [counted], ?_⟩
    rwa [optionCalls_snoc counted, ← List.append_assoc]
  intro c ⟨fresh, sent⟩
  refine reaches_forM_taking each c ⟨fresh, [], rfl, ?_⟩
  rwa [optionCalls, List.zipWith_nil_left, List.append_nil]

theorem reaches_toldOptions (solver : Nat) (calls : List Call) {settings : Settings}
    (clean : ∀ option ∈ toldOptions lib settings, '\x00' ∉ option.1.toList) :
    Reaches (fun c => Fresh c ∧ Sent solver calls c)
      (fun c => Fresh c ∧ ∃ previous : List Int,
        previous.length = (toldOptions lib settings).length ∧
        Sent solver (calls ++ optionCalls solver (toldOptions lib settings) previous) c)
      (settings.options.forM fun option => Settings.applyOption option.1 option.2 :
        SolverM (GuardedSolver lib.recorded) (Recording σ) Unit) := by
  unfold toldOptions at clean ⊢
  split at clean
  · rename_i offered
    rw [if_pos offered]
    exact reaches_options offered solver calls clean
  · rename_i absent
    rw [if_neg absent]
    have missing : lib.recorded.setOption = none := by simpa [Library.recorded] using absent
    -- What the library cannot be told leaves no call behind.
    have skipped : Passes (fun c => Fresh c ∧ Sent solver calls c)
        (settings.options.forM fun option => Settings.applyOption option.1 option.2 :
          SolverM (GuardedSolver lib.recorded) (Recording σ) Unit) :=
      passes_forM fun option _ => passes_tolerate (fun _ _ holds => holds) fun c holds =>
        ⟨c, .inr ⟨.option, run_bind_error (run_setOption_unsupported missing _ _) _⟩, holds⟩
    intro c holds
    obtain ⟨value, d, ran, fresh, sent⟩ := skipped c holds
    refine ⟨value, d, ran, fresh, [], rfl, ?_⟩
    rwa [optionCalls, List.zipWith_nil_left, List.append_nil]

theorem run_options_refused {settings : Settings} {before after : List (String × Int)}
    {name : String} {value : Int}
    (split : toldOptions lib settings = before ++ (name, value) :: after)
    (clean : ∀ option ∈ before, '\x00' ∉ option.1.toList) (nul : '\x00' ∈ name.toList)
    (fresh : Fresh c) (sent : Sent solver calls c) :
    ∃ (previous : List Int) (d : Context (GuardedSolver lib.recorded) (Recording σ)),
      previous.length = before.length ∧
      (settings.options.forM fun option => Settings.applyOption option.1 option.2).run c =
        (.error .nulInOptionName, d) ∧
      Sent solver (calls ++ optionCalls solver before previous) d := by
  unfold toldOptions at split
  split at split
  · rename_i offered
    obtain ⟨_, d, ran, stillFresh, previous, counted, extended⟩ :=
      reaches_options offered solver calls clean c ⟨fresh, sent⟩
    refine ⟨previous, d, counted, ?_, extended⟩
    simp only [split, List.forM_eq_forM, List.forM_append, List.forM_cons] at ran ⊢
    rw [run_bind_ok ran, run_bind_error (run_applyOption_nul offered stillFresh nul value)]
  · exact absurd split.symm (by simp)

theorem reaches_limit (solver : Nat) (calls : List Call) (feature : Feature)
    (entry : Option (Pointer → Nat → Entry σ Unit)) (call : Nat → Nat → Call)
    (limit : Option Nat) :
    Reaches (fun c => Fresh c ∧ Sent solver calls c)
      (fun c => Fresh c ∧ Sent solver (calls ++ limitCalls entry.isSome limit (call solver)) c)
      (limit.forM fun limit => Settings.tolerate (setLimit feature
        (entry.map fun entry solver limit =>
          Recording.perform solver (fun p => entry p limit) fun _ => call solver limit) limit) :
        SolverM (GuardedSolver lib.recorded) (Recording σ) Unit) := by
  intro c ⟨fresh, sent⟩
  cases limit with
  | none => exact ⟨(), c, rfl, fresh, by simpa [limitCalls] using sent⟩
  | some limit =>
      cases entry with
      | none =>
          have ran := run_setLimit_unsupported (c := c) feature limit
          have same : Sent solver (calls ++ limitCalls false (some limit) (call solver)) c := by
            simpa [limitCalls] using sent
          exact ⟨(), _, run_tolerate_unsupported ran, fresh, same⟩
      | some entry =>
          obtain ⟨d, ran, same, extended⟩ :=
            run_setLimit_sent fresh.unsolved sent feature entry call limit
          exact ⟨(), d, run_tolerate_ok ran, by rwa [Fresh, same], extended⟩

theorem reaches_apply (solver : Nat) (calls : List Call) {settings : Settings}
    (clean : ∀ option ∈ toldOptions lib settings, '\x00' ∉ option.1.toList) :
    Reaches (fun c => Fresh c ∧ Sent solver calls c)
      (fun c => Fresh c ∧ ∃ previous : List Int,
        previous.length = (toldOptions lib settings).length ∧
        Sent solver (calls ++ settingCalls lib settings solver previous) c)
      (settings.apply : SolverM (GuardedSolver lib.recorded) (Recording σ) Unit) := by
  intro c holds
  obtain ⟨_, d, options, fresh, previous, counted, sent⟩ :=
    reaches_toldOptions solver calls clean c holds
  obtain ⟨_, e, conflicts, holds⟩ := reaches_limit solver _ .conflictLimit lib.setConflictLimit
    .setConflictLimit settings.conflictLimit d ⟨fresh, sent⟩
  obtain ⟨_, final, decisions, fresh, sent⟩ := reaches_limit solver _ .decisionLimit
    lib.setDecisionLimit .setDecisionLimit settings.decisionLimit e holds
  refine ⟨(), final, ?_, fresh, previous, counted, ?_⟩
  · exact (run_bind_ok options _).trans ((run_bind_ok conflicts _).trans decisions)
  · rw [settingCalls, ← List.append_assoc, ← List.append_assoc]
    exact sent

end Settings

section Clauses

theorem run_add_sent {solver : Nat} {calls : List Call}
    {c : Context (GuardedSolver lib.recorded) (Recording σ)} (unsolved : Unsolved c)
    (sent : Sent solver calls c) (value : Int) :
    ∃ d, (Backend.add value : SolverM (GuardedSolver lib.recorded) (Recording σ) Unit).run c =
        (.ok (), d) ∧ Unsolved d ∧ d.handle.midClause = decide (value ≠ 0) ∧
      Sent solver (calls ++ [.add solver value]) d := by
  obtain ⟨rfl, rfl⟩ := sent
  obtain ⟨log, ran⟩ := run_add unsolved value
  refine ⟨_, ran, rfl, rfl, rfl, ?_⟩
  simp [Library.recorded, Recording.perform]

theorem reaches_literals (solver : Nat) (calls : List Call) {clause : Clause}
    (bounded : ∀ l ∈ clause, l.index ≤ maxVar) :
    Reaches (fun c => Unsolved c ∧ Sent solver calls c)
      (fun c => Unsolved c ∧ Sent solver (calls ++ clause.map fun l => .add solver l.signed) c)
      (clause.forM fun l => do Backend.add (← l.toInt?) :
        SolverM (GuardedSolver lib.recorded) (Recording σ) Unit) := by
  let kept (taken : Clause) (c : Context (GuardedSolver lib.recorded) (Recording σ)) : Prop :=
    Unsolved c ∧ Sent solver (calls ++ taken.map fun l => .add solver l.signed) c
  have each : ∀ l ∈ clause, ∀ taken, Reaches (kept taken) (kept (taken ++ [l]))
      (do Backend.add (← l.toInt?)) := by
    intro l member taken c ⟨unsolved, sent⟩
    obtain ⟨d, ran, stillUnsolved, _, extended⟩ := run_add_sent unsolved sent l.signed
    rw [Literal.toInt?_of_le (bounded l member)]
    refine ⟨(), d, ran, stillUnsolved, ?_⟩
    rwa [List.map_append, ← List.append_assoc]
  intro c ⟨unsolved, sent⟩
  exact reaches_forM_taking each c ⟨unsolved, by simpa using sent⟩

theorem reaches_clause (solver : Nat) (calls : List Call) {clause : Clause}
    (bounded : ∀ l ∈ clause, l.index ≤ maxVar) :
    Reaches (fun c => Unsolved c ∧ Sent solver calls c)
      (fun c => Ready c ∧ Sent solver
        (calls ++ (clause.map fun l => .add solver l.signed) ++ [.add solver 0]) c)
      (Solver.addClause clause : SolverM (GuardedSolver lib.recorded) (Recording σ) Unit) := by
  intro c holds
  obtain ⟨_, d, literals, unsolved, extended⟩ := reaches_literals solver calls bounded c holds
  -- The terminator makes the solver ready, whatever the clause was.
  obtain ⟨e, terminated, stillUnsolved, closed, complete⟩ := run_add_sent unsolved extended 0
  refine ⟨(), e, (run_bind_ok literals _).trans terminated, ⟨stillUnsolved, ?_⟩, complete⟩
  simpa using closed

/-- Clauses can be fed as long as nothing was solved; a literal in front joins the first one. -/
theorem reaches_feed {kept : Context (GuardedSolver lib.recorded) (Recording σ) → Prop}
    (unsolved : ∀ c, kept c → Unsolved c) (ready : ∀ c, Ready c → kept c) (solver : Nat)
    (calls : List Call) {f : Formula}
    (bounded : ∀ clause ∈ f.clauses, ∀ l ∈ clause, l.index ≤ maxVar) :
    Reaches (fun c => kept c ∧ Sent solver calls c)
      (fun c => kept c ∧ Sent solver (calls ++ addCalls solver f.clauses) c)
      (Solver.feed f : SolverM (GuardedSolver lib.recorded) (Recording σ) Unit) := by
  let fed (taken : List Clause) (c : Context (GuardedSolver lib.recorded) (Recording σ)) : Prop :=
    kept c ∧ Sent solver (calls ++ addCalls solver taken) c
  have each : ∀ clause ∈ f.clauses, ∀ taken, Reaches (fed taken) (fed (taken ++ [clause]))
      (Solver.addClause clause) := by
    intro clause member taken c ⟨holds, sent⟩
    obtain ⟨_, d, ran, nowReady, complete⟩ :=
      reaches_clause solver _ (bounded clause member) c ⟨unsolved c holds, sent⟩
    refine ⟨(), d, ran, ready d nowReady, ?_⟩
    rw [addCalls_snoc, ← List.append_assoc, ← List.append_assoc]
    exact complete
  intro c ⟨holds, sent⟩
  exact reaches_forM_taking each c ⟨holds, by simpa [addCalls, ClauseStream.integers] using sent⟩

end Clauses

section Queries

theorem calls_conclude {f : Formula} (bounded : f.numVars ≤ maxVar) (settings : Settings)
    {status : Status} {c : Context (GuardedSolver lib.recorded) (Recording σ)}
    (answered : c.handle.phase = .solved status) :
    ∃ replies, Queries f settings status.code replies ∧
      ((Solver.conclude f settings status).run c).2.shared.calls.toList =
        c.shared.calls.toList ++ valueCalls c.handle.pointer 1 replies := by
  rw [Solver.shared_conclude]
  have wanted_iff : Solver.wantsModel settings status = true ↔
      status.code = 10 ∧ (settings.printModel ∨ settings.verify) := by
    cases status <;> simp [Solver.wantsModel, Status.code]
  unfold Queries Solver.fetchModel
  by_cases wanted : Solver.wantsModel settings status = true
  · obtain ⟨sat, _⟩ := wanted_iff.mp wanted
    obtain rfl : status = .sat := by cases status <;> simp_all [Status.code]
    obtain ⟨replies, d, read, _, calls, inTurn⟩ :=
      run_readValues f.numVars #[none] answered (Nat.le_refl 1) (by simp; omega)
    refine ⟨replies, by rwa [if_pos (wanted_iff.mp wanted)], ?_⟩
    rw [if_pos wanted, run_map, Solver.model, read]
    exact calls
  · refine ⟨[], by rw [if_neg (mt wanted_iff.mpr wanted)], ?_⟩
    rw [if_neg wanted]
    exact (List.append_nil _).symm

theorem calls_solve_conclude {f : Formula} (bounded : f.numVars ≤ maxVar) (settings : Settings)
    {solver : Nat} {calls : List Call} {c : Context (GuardedSolver lib.recorded) (Recording σ)}
    (ready : Ready c) (sent : Sent solver calls c) :
    ∃ code replies, Queries f settings code replies ∧
      (((solve : SolverM (GuardedSolver lib.recorded) (Recording σ) Status) >>=
        Solver.conclude f settings).run c).2.shared.calls.toList =
          calls ++ .solve solver code :: valueCalls solver 1 replies := by
  obtain ⟨rfl, rfl⟩ := sent
  obtain ⟨code, d, solved, number, phase, called⟩ := run_solve_recorded ready
  cases answered : Status.ofCode? code with
  | error error =>
      -- An undefined code is an error, but the call was made.
      have undefined : ¬ (code = 10 ∧ (settings.printModel ∨ settings.verify)) := by
        rintro ⟨rfl, _⟩
        cases answered
      rw [answered] at solved
      refine ⟨code, [], by rw [Queries, if_neg undefined], ?_⟩
      rw [run_bind_error solved, called]
      rfl
  | ok status =>
      rw [answered] at solved phase
      change d.handle.phase = .solved status at phase
      obtain rfl := Status.ofCode?_eq_ok_iff.mp answered
      obtain ⟨replies, queries, asked⟩ := calls_conclude bounded settings phase
      refine ⟨_, replies, queries, ?_⟩
      rw [run_bind_ok solved, asked, called, number, List.append_assoc]
      rfl

end Queries

section Whole

variable {f : Formula} {settings : Settings} {solver : Nat} {calls : List Call}
  {c : Context (GuardedSolver lib.recorded) (Recording σ)}

theorem run_prepared_sent (bounded : ∀ clause ∈ f.clauses, ∀ l ∈ clause, l.index ≤ maxVar)
    (clean : ∀ option ∈ toldOptions lib settings, '\x00' ∉ option.1.toList)
    (fresh : Fresh c) (sent : Sent solver calls c) :
    ∃ (previous : List Int) (fed : Context (GuardedSolver lib.recorded) (Recording σ)),
      previous.length = (toldOptions lib settings).length ∧ Ready fed ∧
      Sent solver (calls ++ settingCalls lib settings solver previous ++
        addCalls solver f.clauses) fed ∧
      (Solver.solveFormula f settings).run c =
        ((solve : SolverM (GuardedSolver lib.recorded) (Recording σ) Status) >>=
          Solver.conclude f settings).run fed := by
  have filled : Reaches
      (fun c => Fresh c ∧ ∃ previous : List Int,
        previous.length = (toldOptions lib settings).length ∧
        Sent solver (calls ++ settingCalls lib settings solver previous) c)
      (fun c => Ready c ∧ ∃ previous : List Int,
        previous.length = (toldOptions lib settings).length ∧
        Sent solver (calls ++ settingCalls lib settings solver previous ++
          addCalls solver f.clauses) c)
      (Solver.feed f : SolverM (GuardedSolver lib.recorded) (Recording σ) Unit) := by
    intro c ⟨fresh, previous, counted, sent⟩
    obtain ⟨_, d, fed, ready, complete⟩ :=
      reaches_feed (fun _ ready => ready.1) (fun _ ready => ready) solver _ bounded c
        ⟨⟨fresh.unsolved, fresh.2⟩, sent⟩
    exact ⟨(), d, fed, ready, previous, counted, complete⟩
  obtain ⟨fed, ⟨ready, previous, counted, complete⟩, ran⟩ :=
    Solver.run_solveFormula (reaches_apply solver calls clean) filled (fun _ _ holds => holds)
      ⟨fresh, sent⟩
  exact ⟨previous, fed, counted, ready, complete, ran⟩

/-- The calls of a run on a fresh handle, whatever the library replies. -/
theorem converses_solveFormula (bounded : f.numVars ≤ maxVar)
    (proper : ∀ clause ∈ f.clauses, ∀ l ∈ clause, l.WellFormed) (fresh : Fresh c)
    (sent : Sent solver calls c) :
    ∃ more, ((Solver.solveFormula f settings).run c).2.shared.calls.toList = calls ++ more ∧
      Converses lib f settings solver more ((Solver.solveFormula f settings).run c).1 := by
  -- Either every name can be passed on, or there is a first one that cannot.
  by_cases clean : ∀ option ∈ toldOptions lib settings, '\x00' ∉ option.1.toList
  · obtain ⟨previous, fed, counted, ready, complete, ran⟩ := run_prepared_sent
      (fun clause member l inClause => (proper clause member l inClause).2) clean fresh sent
    obtain ⟨code, replies, queries, asked⟩ :=
      calls_solve_conclude bounded settings ready complete
    refine ⟨_, ?_, .completed clean counted queries⟩
    rw [ran, asked]
    simp only [List.append_assoc]
  · obtain ⟨before, ⟨name, value⟩, after, split, earlier, nul⟩ :=
      exists_first (fun option : String × Int => '\x00' ∈ option.1.toList) (by simpa using clean)
    obtain ⟨previous, d, counted, stopped, extended⟩ :=
      run_options_refused split earlier nul fresh sent
    have configured : (settings.apply : SolverM (GuardedSolver lib.recorded) (Recording σ) Unit).run
        c = (.error .nulInOptionName, d) := run_bind_error stopped _
    have failed : (Solver.solveFormula f settings).run c = (.error .nulInOptionName, d) :=
      run_bind_error configured _
    rw [failed]
    exact ⟨_, extended.2, .refused split earlier nul counted⟩

end Whole

/-- What a library hears of a run on a formula: the settings it can be told, the clauses, one solve
call, and queries for the model that someone wants, or the options before a name that cannot be
passed on. The clauses arrive as they are. -/
theorem solveFormula_on_wire {f : Formula} (bounded : f.numVars ≤ maxVar)
    (proper : ∀ clause ∈ f.clauses, ∀ l ∈ clause, l.WellFormed) (settings : Settings)
    (lib : Library σ) (memory : σ) (log : Log) {handle : GuardedSolver lib} {world : World σ}
    {result : Except Error Outcome} {c : Context (GuardedSolver lib) σ}
    (created : (create lib).run ⟨memory, log⟩ = (.ok handle, world))
    (ran : (Solver.solveFormula f settings).run ⟨world, handle⟩ = (result, c)) :
    (∃ recorded recording d calls,
      (create lib.recorded).run ⟨.start memory, log⟩ = (.ok recorded, recording) ∧
      (Solver.solveFormula f settings).run ⟨recording, recorded⟩ = (result, d) ∧
      d.shared.calls.toList = .init (some recorded.pointer) :: calls ∧
      Converses lib f settings recorded.pointer calls result) ∧
    (ClauseStream.cut (ClauseStream.integers f.clauses)).2 = [] ∧
      (ClauseStream.cut (ClauseStream.integers f.clauses)).1.mapM (List.mapM Literal.ofInt?) =
        .ok f.clauses := by
  refine ⟨?_, ClauseStream.mapM_ofInt?_cut_integers proper⟩
  obtain ⟨recorded, recording, createdRecorded, shadowed⟩ := create_shadows created
  obtain ⟨solver, began, rfl⟩ := create_recorded createdRecorded
  obtain ⟨same, _⟩ := shadows.solveFormula trivial (fun _ _ _ _ _ _ => trivial)
    (fun _ _ _ => trivial) settings _ _ shadowed
  rw [ran] at same
  let start : Context (GuardedSolver lib.recorded) (Recording σ) :=
    ⟨recording, ⟨solver, .configuring, false, .zero⟩⟩
  have fresh : Fresh start := ⟨rfl, rfl⟩
  have sent : Sent solver [.init (some solver)] start := ⟨rfl, began⟩
  obtain ⟨calls, recordedCalls, converses⟩ :=
    converses_solveFormula bounded proper fresh sent
  rw [← same] at converses
  exact ⟨_, recording, _, calls, createdRecorded, run_of_result same.symm, recordedCalls, converses⟩

section Samples

private def wireFormula : Formula := ⟨2, [[⟨1, true⟩, ⟨2, false⟩], []]⟩

private def wireSettings : Settings := ⟨[("seed", 7)], some 5, none, true, false⟩

private def wireLibrary : Library Scripted.Memory := Scripted.library (.inProcess "scripted")

/-- The reply for the first variable stands for no value. -/
private def wireMemory : Scripted.Memory := ⟨{ Script.agreeable with replies := [(1, 7)] }, 0⟩

private def wireHandle {σ : Type} {lib : Library σ} : GuardedSolver lib :=
  ⟨0, .configuring, false, .zero⟩

private def wireWorld : World Scripted.Memory :=
  ⟨{ wireMemory with allocated := 1 }, #[.solverCreated 0 wireLibrary.origin]⟩

private def wireRecording : World (Recording Scripted.Memory) :=
  ⟨⟨{ wireMemory with allocated := 1 }, #[0], #[.init (some 0)]⟩,
    #[.solverCreated 0 wireLibrary.origin]⟩

/-- The second variable is not asked for, since the reply for the first one is undefined. -/
theorem solveFormula_on_wire_sample :
    Converses wireLibrary wireFormula wireSettings 0
      [.setOption 0 "seed" 7 (-1), .setConflictLimit 0 5, .add 0 1, .add 0 (-2), .add 0 0,
        .add 0 0, .solve 0 10, .value 0 1 7] (.error (.undefinedValue 1 7)) := by
  have answered : ((Solver.solveFormula wireFormula wireSettings).run
      (⟨wireWorld, wireHandle⟩ : Context (GuardedSolver wireLibrary) Scripted.Memory)).1 =
        .error (.undefinedValue 1 7) := by cbv
  have recordedCalls : ((Solver.solveFormula wireFormula wireSettings).run
      (⟨wireRecording, wireHandle⟩ : Context (GuardedSolver wireLibrary.recorded)
        (Recording Scripted.Memory))).2.shared.calls.toList =
      [.init (some 0), .setOption 0 "seed" 7 (-1), .setConflictLimit 0 5, .add 0 1, .add 0 (-2),
        .add 0 0, .add 0 0, .solve 0 10, .value 0 1 7] := by cbv
  have fresh : (create wireLibrary).run ⟨wireMemory, #[]⟩ = (.ok wireHandle, wireWorld) := rfl
  obtain ⟨⟨recorded, recording, d, calls, created, ran, sent, converses⟩, _⟩ :=
    solveFormula_on_wire (by decide) (by decide) wireSettings wireLibrary wireMemory #[] fresh
      (run_of_result answered)
  have began : (create wireLibrary.recorded).run ⟨.start wireMemory, #[]⟩ =
      (.ok wireHandle, wireRecording) := rfl
  obtain ⟨sameHandle, rfl⟩ := Prod.mk.inj (began.symm.trans created)
  obtain rfl : wireHandle = recorded := Except.ok.inj sameHandle
  rw [ran] at recordedCalls
  obtain ⟨_, rfl⟩ := List.cons.inj (recordedCalls.symm.trans sent)
  exact converses

end Samples

end SatBridge.GuardedSolver
