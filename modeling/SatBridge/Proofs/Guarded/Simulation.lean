import SatBridge.Proofs.Backend.Audit
import SatBridge.Proofs.Guarded.Operations

/-!
# Handles on two libraries

Two libraries, and a relation between a pointer into the memory of one and a pointer into the memory
of the other. If related solvers give equal replies and stay related, then handles on them that have
come equally far cannot be told apart. Main statement: such handles agree on all operations.
-/

set_option autoImplicit false

namespace SatBridge

open SolverM

variable {σ τ α : Type}

/-- Calls on related solvers have equal replies and leave related solvers behind. -/
def Agreeing (behind : Pointer → σ → Pointer → τ → Prop) (first : Pointer → Entry σ α)
    (second : Pointer → Entry τ α) : Prop :=
  ∀ p memory q other, behind p memory q other →
    (first p memory).value = (second q other).value ∧
      behind p (first p memory).memory q (second q other).memory

/-- All entry points that act on solvers agree, and the same ones are missing. -/
structure Library.Simulates (first : Library σ) (second : Library τ)
    (behind : Pointer → σ → Pointer → τ → Prop) : Prop where
  add : ∀ value, Agreeing behind (fun p => first.add p value) fun q => second.add q value
  solve : Agreeing behind first.solve second.solve
  value : ∀ literal, Agreeing behind (fun p => first.value p literal) fun q =>
    second.value q literal
  setOption : Option.Rel (fun here there => ∀ name value,
    Agreeing behind (fun p => here p name value) fun q => there q name value)
    first.setOption second.setOption
  setConflictLimit : Option.Rel (fun here there => ∀ limit,
    Agreeing behind (fun p => here p limit) fun q => there q limit)
    first.setConflictLimit second.setConflictLimit
  setDecisionLimit : Option.Rel (fun here there => ∀ limit,
    Agreeing behind (fun p => here p limit) fun q => there q limit)
    first.setDecisionLimit second.setDecisionLimit

namespace GuardedSolver

variable {first : Library σ} {second : Library τ} {behind : Pointer → σ → Pointer → τ → Prop}

/-- Two handles have come equally far, and the solvers behind them are related. -/
structure Twins (behind : Pointer → σ → Pointer → τ → Prop) (c : Context (GuardedSolver first) σ)
    (d : Context (GuardedSolver second) τ) : Prop where
  phase : c.handle.phase = d.handle.phase
  midClause : c.handle.midClause = d.handle.midClause
  stats : c.handle.stats = d.handle.stats
  behind : behind c.handle.pointer c.shared d.handle.pointer d.shared

section Operations

variable {c : Context (GuardedSolver first) σ} {d : Context (GuardedSolver second) τ}

theorem Twins.result? (twins : Twins behind c d) : c.handle.result? = d.handle.result? := by
  simp only [GuardedSolver.result?, twins.phase]

theorem twins_add (simulates : first.Simulates second behind) (value : Int) :
    AgreeKeeping (Twins behind) (add value : SolverM (GuardedSolver first) σ Unit)
      (add value : SolverM (GuardedSolver second) τ Unit) := by
  intro c d twins
  cases solved : d.handle.result? with
  | some status =>
      exact agree_of_runs (run_add_solved (twins.result?.trans solved) value)
        (run_add_solved solved value) twins
  | none =>
      obtain ⟨_, ran⟩ := run_add (twins.result?.trans solved) value
      obtain ⟨_, ranOther⟩ := run_add solved value
      obtain ⟨_, after⟩ := simulates.add value _ _ _ _ twins.behind
      exact agree_of_runs ran ranOther
        ⟨rfl, rfl, congrArg (Stats.countAdded · value) twins.stats, after⟩

theorem twins_solve (simulates : first.Simulates second behind) :
    AgreeKeeping (Twins behind) (solve : SolverM (GuardedSolver first) σ Status)
      (solve : SolverM (GuardedSolver second) τ Status) := by
  intro c d twins
  cases solved : d.handle.result? with
  | some status =>
      exact agree_of_runs (run_solve_solved (twins.result?.trans solved))
        (run_solve_solved solved) twins
  | none =>
      have unsolved := twins.result?.trans solved
      cases midClause : d.handle.midClause with
      | true =>
          exact agree_of_runs (run_solve_midClause unsolved (twins.midClause.trans midClause))
            (run_solve_midClause solved midClause) twins
      | false =>
          obtain ⟨_, ran⟩ := run_solve unsolved (twins.midClause.trans midClause)
          obtain ⟨_, ranOther⟩ := run_solve solved midClause
          obtain ⟨code, after⟩ := simulates.solve _ _ _ _ twins.behind
          rw [code] at ran
          exact agree_of_runs ran ranOther
            ⟨rfl, twins.midClause, congrArg Stats.countSolve twins.stats, after⟩

theorem twins_value (simulates : first.Simulates second behind) (var : Nat) :
    AgreeKeeping (Twins behind) (value var : SolverM (GuardedSolver first) σ (Option Bool))
      (value var : SolverM (GuardedSolver second) τ (Option Bool)) := by
  intro c d twins
  by_cases satisfied : d.handle.phase = .solved .sat
  · have satisfiedHere := twins.phase.trans satisfied
    by_cases valid : 1 ≤ var ∧ var ≤ maxVar
    · obtain ⟨_, ran⟩ := run_value satisfiedHere valid
      obtain ⟨_, ranOther⟩ := run_value satisfied valid
      obtain ⟨reply, after⟩ := simulates.value var _ _ _ _ twins.behind
      rw [reply] at ran
      exact agree_of_runs ran ranOther ⟨twins.phase, twins.midClause, twins.stats, after⟩
    · have invalid : var = 0 ∨ maxVar < var := by omega
      exact agree_of_runs (run_value_invalid satisfiedHere invalid)
        (run_value_invalid satisfied invalid) twins
  · have unsatisfied : c.handle.phase ≠ .solved .sat := twins.phase ▸ satisfied
    exact agree_of_runs (run_value_noModel unsatisfied var) (run_value_noModel satisfied var) twins

theorem twins_setOption (simulates : first.Simulates second behind) (name : String) (value : Int) :
    AgreeKeeping (Twins behind) (setOption name value : SolverM (GuardedSolver first) σ Int)
      (setOption name value : SolverM (GuardedSolver second) τ Int) := by
  intro c d twins
  have entries := simulates.setOption
  cases offered : first.setOption with
  | none =>
      cases offeredOther : second.setOption with
      | none =>
          exact agree_of_runs (run_setOption_unsupported offered name value)
            (run_setOption_unsupported offeredOther name value) twins
      | some there =>
          rw [offered, offeredOther] at entries
          cases entries
  | some here =>
      cases offeredOther : second.setOption with
      | none =>
          rw [offered, offeredOther] at entries
          cases entries
      | some there =>
          rw [offered, offeredOther] at entries
          cases entries with
          | some agreeing =>
              by_cases configuring : d.handle.phase = .configuring
              · have configuringHere := twins.phase.trans configuring
                by_cases nul : '\x00' ∈ name.toList
                · exact agree_of_runs (run_setOption_nul offered configuringHere nul value)
                    (run_setOption_nul offeredOther configuring nul value) twins
                · obtain ⟨_, ran⟩ := run_setOption offered configuringHere nul value
                  obtain ⟨_, ranOther⟩ := run_setOption offeredOther configuring nul value
                  obtain ⟨previous, after⟩ := agreeing name value _ _ _ _ twins.behind
                  rw [previous] at ran
                  exact agree_of_runs ran ranOther
                    ⟨twins.phase, twins.midClause, twins.stats, after⟩
              · have locked : c.handle.phase ≠ .configuring := twins.phase ▸ configuring
                exact agree_of_runs (run_setOption_locked offered locked name value)
                  (run_setOption_locked offeredOther configuring name value) twins

theorem twins_setLimit {here : Option (Pointer → Nat → Entry σ Unit)}
    {there : Option (Pointer → Nat → Entry τ Unit)}
    (entries : Option.Rel (fun here there => ∀ limit,
      Agreeing behind (fun p => here p limit) fun q => there q limit) here there)
    (feature : Feature) (limit : Nat) :
    AgreeKeeping (Twins behind)
      (setLimit feature here limit : SolverM (GuardedSolver first) σ Unit)
      (setLimit feature there limit : SolverM (GuardedSolver second) τ Unit) := by
  intro c d twins
  cases entries with
  | none =>
      exact agree_of_runs (run_setLimit_unsupported feature limit)
        (run_setLimit_unsupported feature limit) twins
  | @some here there agreeing =>
      cases solved : d.handle.result? with
      | some status =>
          exact agree_of_runs (run_setLimit_solved (twins.result?.trans solved) feature here limit)
            (run_setLimit_solved solved feature there limit) twins
      | none =>
          obtain ⟨_, ran⟩ := run_setLimit (twins.result?.trans solved) feature here limit
          obtain ⟨_, ranOther⟩ := run_setLimit solved feature there limit
          obtain ⟨_, after⟩ := agreeing limit _ _ _ _ twins.behind
          exact agree_of_runs ran ranOther ⟨twins.phase, twins.midClause, twins.stats, after⟩

end Operations

/-- Handles on related solvers that have come equally far answer the same. -/
theorem agree_of_simulates (simulates : first.Simulates second behind) :
    Backend.Agree (fun _ => True) (fun _ => True)
      (fun _ => (Twins behind : Relation (GuardedSolver first) σ (GuardedSolver second) τ)) where
  record _ _ _ _ _ twins :=
    ⟨rfl, twins.phase, twins.midClause, twins.stats, twins.behind⟩
  add value _ := twins_add simulates value
  solve := twins_solve simulates
  value _ var _ := twins_value simulates var
  setOption _ := twins_setOption simulates
  setConflictLimit _ := twins_setLimit simulates.setConflictLimit .conflictLimit
  setDecisionLimit _ := twins_setLimit simulates.setDecisionLimit .decisionLimit
  stats _ _ _ twins := twins.stats

theorem simulates_self (lib : Library σ) :
    lib.Simulates lib fun p memory q other => p = q ∧ memory = other := by
  have same {α : Type} (entry : Pointer → Entry σ α) :
      Agreeing (fun p memory q other => p = q ∧ memory = other) entry entry := by
    rintro p memory _ _ ⟨rfl, rfl⟩
    exact ⟨rfl, rfl, rfl⟩
  have optional {α : Type} {agreeing : α → α → Prop} (each : ∀ entry, agreeing entry entry)
      (entry : Option α) : Option.Rel agreeing entry entry := by
    cases entry with
    | none => exact .none
    | some entry => exact .some (each entry)
  exact {
    add := fun value => same fun p => lib.add p value
    solve := same lib.solve
    value := fun literal => same fun p => lib.value p literal
    setOption := optional (fun entry name value => same fun p => entry p name value) _
    setConflictLimit := optional (fun entry limit => same fun p => entry p limit) _
    setDecisionLimit := optional (fun entry limit => same fun p => entry p limit) _ }

theorem twins_self {lib : Library σ} :
    (Twins (fun p memory q other => p = q ∧ memory = other) :
      Relation (GuardedSolver lib) σ (GuardedSolver lib) σ) = Audited.SameButLog := by
  funext ⟨world, s⟩ ⟨other, t⟩
  refine propext ⟨fun twins => ?_, ?_⟩
  · obtain ⟨phase, midClause, stats, pointer, memory⟩ := twins
    cases s
    cases t
    exact ⟨memory, mk.injEq .. ▸ ⟨pointer, phase, midClause, stats⟩⟩
  · rintro ⟨memory, rfl⟩
    exact ⟨rfl, rfl, rfl, rfl, memory⟩

/-- No operation looks at the log, as a handle cannot be told from itself by it. -/
theorem silent (lib : Library σ) : Backend.Agree (fun _ => True) (fun _ => True)
    fun _ => (Audited.SameButLog : Relation (GuardedSolver lib) σ (GuardedSolver lib) σ) :=
  twins_self ▸ agree_of_simulates (simulates_self lib)

end GuardedSolver

end SatBridge
