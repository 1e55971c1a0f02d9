import SatBridge.Proofs.Backend.Action
import SatBridge.Proofs.Formula.Evaluation

/-!
# What a run on one formula returns

Facts about the outcome that hold for every backend, because they rest on what a run does with the
answers and not on where they come from.
-/

set_option autoImplicit false

namespace SatBridge.Solver

open SolverM

variable {H W : Type} [Backend H W]

/-- Each value that is read gets the next slot, and the slots before it stay as they are. -/
theorem readValues_extends {count : Nat} {model final : Assignment} {c d : Context H W}
    (ran : (readValues count model).run c = (.ok final, d)) :
    ∃ values, final.toList = model.toList ++ values ∧ values.length = count := by
  induction count generalizing model c with
  | zero =>
      cases ran
      exact ⟨[], by simp, rfl⟩
  | succ count ih =>
      obtain ⟨value, between, _, later⟩ := run_bind_eq_ok ran
      obtain ⟨values, extended, counted⟩ := ih later
      refine ⟨value :: values, ?_, by simp [counted]⟩
      simpa using extended

theorem model_slots {numVars : Nat} {final : Assignment} {c d : Context H W}
    (ran : (Solver.model numVars).run c = (.ok final, d)) :
    ∃ values, final.toList = none :: values ∧ values.length = numVars :=
  readValues_extends ran

omit [Backend H W] in
theorem run_verifyModel {settings : Settings} (verified : settings.verify = true) (f : Formula)
    (model : Assignment) (c : Context H W) :
    (verifyModel f settings (some model)).run c =
      match f.firstUnsatisfied model with
      | some index => (.error (.modelRefuted index), c)
      | none => (.ok (), { c with log := c.log.push (.modelChecked f.clauses.length) }) := by
  rw [verifyModel, if_pos verified]
  change (checkModel f model).run c = _
  unfold checkModel
  cases f.firstUnsatisfied model <;> rfl

theorem run_solveFormula {f : Formula} {settings : Settings}
    {before configuring after : Context H W → Prop}
    (configured : Reaches before configuring (settings.apply : SolverM H W Unit))
    (filled : Reaches configuring after (feed f : SolverM H W Unit))
    (recorded : ∀ d event, after d → after { d with log := d.log.push event })
    {c : Context H W} (starts : before c) :
    ∃ fed, after fed ∧ (solveFormula f settings).run c =
      (Backend.solve >>= conclude f settings : SolverM H W Outcome).run fed := by
  obtain ⟨_, middle, applied, arrived⟩ := configured c starts
  obtain ⟨_, full, fed, ends⟩ := filled middle arrived
  let event : LogEvent := .formulaFed f.clauses.length f.numLiterals (Backend.name H)
  refine ⟨_, recorded full event ends, ?_⟩
  have noted := run_record event full
  exact (run_bind_ok applied _).trans ((run_bind_ok fed _).trans (run_bind_ok noted _))

omit [Backend H W] in
theorem shared_verifyModel (f : Formula) (settings : Settings) (model : Option Assignment)
    (c : Context H W) : ((verifyModel f settings model).run c).2.shared = c.shared := by
  unfold verifyModel
  split
  · cases model with
    | none => rfl
    | some model =>
        change ((checkModel f model).run c).2.shared = c.shared
        unfold checkModel
        split <;> rfl
  · rfl

/-- Whatever is concluded, the backend hears no more of it than the queries for the model. -/
theorem shared_conclude (f : Formula) (settings : Settings) (status : Status) (c : Context H W) :
    ((conclude f settings status).run c).2.shared =
      ((fetchModel f settings status).run c).2.shared := by
  rw [conclude, run_bind]
  rcases (fetchModel f settings status : SolverM H W (Option Assignment)).run c
    with ⟨error | model, read⟩
  · rfl
  · have checked := shared_verifyModel f settings model read
    simp only [run_bind]
    rcases ran : (verifyModel f settings model).run read with ⟨error | _, d⟩
    · rwa [ran] at checked
    · rwa [ran] at checked

theorem run_solveFormula_refused {f : Formula} {settings : Settings} {error : Error}
    {before : Context H W → Prop} (configured : Passes before (settings.apply : SolverM H W Unit))
    (refused : ∀ c, before c → ((feed f : SolverM H W Unit).run c).1 = .error error)
    {c : Context H W} (starts : before c) :
    ((solveFormula f settings).run c).1 = .error error := by
  obtain ⟨_, middle, applied, arrived⟩ := configured c starts
  have failed := run_of_result (refused middle arrived)
  rw [solveFormula, run_bind_ok applied, run_bind_error failed]

theorem run_conclude_unsatisfied {status : Status} (unsatisfied : status ≠ .sat) (f : Formula)
    (settings : Settings) (c : Context H W) :
    (conclude f settings status).run c = (.ok ⟨status, none, Backend.stats c.handle⟩, c) := by
  have unwanted : wantsModel settings status = false := by simp [wantsModel, unsatisfied]
  have fetched : (fetchModel f settings status : SolverM H W (Option Assignment)).run c =
      (.ok none, c) := by
    simp [fetchModel, unwanted]
  have verified : (verifyModel f settings none : SolverM H W Unit).run c = (.ok (), c) := by
    unfold verifyModel
    split <;> rfl
  exact (run_bind_ok fetched _).trans (run_bind_ok verified _)

/-- A model of the formula that can be read passes the check. -/
theorem run_conclude_satisfied {f : Formula} {model : Assignment} {c : Context H W}
    (read : (Solver.model f.numVars).run c = (.ok model, c))
    (holds : ∀ c ∈ f.clauses, Clause.eval model c = some true) (settings : Settings) :
    ∃ d, (conclude f settings .sat).run c =
      (.ok ⟨.sat, if wantsModel settings .sat then some model else none, Backend.stats c.handle⟩,
        d) := by
  cases wanted : wantsModel settings .sat with
  | false =>
      have unverified : settings.verify = false := by
        simp only [wantsModel, beq_self_eq_true, Bool.true_and, Bool.or_eq_false_iff] at wanted
        exact wanted.2
      have fetched : (fetchModel f settings .sat : SolverM H W (Option Assignment)).run c =
          (.ok none, c) := by
        simp [fetchModel, wanted]
      have skipped : (verifyModel f settings none : SolverM H W Unit).run c = (.ok (), c) := by
        simp [verifyModel, unverified]
      exact ⟨c, (run_bind_ok fetched _).trans (run_bind_ok skipped _)⟩
  | true =>
      have fetched : (fetchModel f settings .sat : SolverM H W (Option Assignment)).run c =
          (.ok (some model), c) := by
        rw [fetchModel, if_pos wanted, run_map, read]
        rfl
      have unrefuted := Formula.firstUnsatisfied_eq_none_iff.mpr holds
      obtain ⟨d, checked, same⟩ : ∃ d, (verifyModel f settings (some model) :
          SolverM H W Unit).run c = (.ok (), d) ∧ d.handle = c.handle := by
        cases verified : settings.verify with
        | false => exact ⟨c, by simp [verifyModel, verified], rfl⟩
        | true =>
            have checked := run_verifyModel verified f model c
            rw [unrefuted] at checked
            exact ⟨_, checked, rfl⟩
      refine ⟨d, (run_bind_ok fetched _).trans ((run_bind_ok checked _).trans ?_)⟩
      rw [← same]
      rfl

theorem solveFormula_eq_ok {f : Formula} {settings : Settings} {outcome : Outcome}
    {c d : Context H W} (ran : (solveFormula f settings).run c = (.ok outcome, d)) :
    ∃ status solved, (conclude f settings status).run solved = (.ok outcome, d) := by
  obtain ⟨_, _, _, ran⟩ := run_bind_eq_ok ran
  obtain ⟨_, _, _, ran⟩ := run_bind_eq_ok ran
  obtain ⟨_, _, _, ran⟩ := run_bind_eq_ok ran
  obtain ⟨status, solved, _, concluded⟩ := run_bind_eq_ok ran
  exact ⟨status, solved, concluded⟩

theorem conclude_eq_ok {f : Formula} {settings : Settings} {status : Status} {outcome : Outcome}
    {c d : Context H W} (ran : (conclude f settings status).run c = (.ok outcome, d)) :
    outcome.status = status ∧ ∃ read,
      (fetchModel f settings status).run c = (.ok outcome.model, read) ∧
        (verifyModel f settings outcome.model).run read = (.ok (), d) := by
  obtain ⟨model, read, fetched, ran⟩ := run_bind_eq_ok ran
  obtain ⟨_, checked, verified, ran⟩ := run_bind_eq_ok ran
  cases ran
  exact ⟨rfl, read, fetched, verified⟩

theorem stats_of_conclude {f : Formula} {settings : Settings} {status : Status} {outcome : Outcome}
    {c d : Context H W} (ran : (conclude f settings status).run c = (.ok outcome, d)) :
    outcome.stats = Backend.stats d.handle := by
  obtain ⟨_, _, _, ran⟩ := run_bind_eq_ok ran
  obtain ⟨_, _, _, ran⟩ := run_bind_eq_ok ran
  cases ran
  rfl

/-- A run that succeeds leaves a model exactly if it wanted one. -/
theorem model_of_solveFormula {f : Formula} {settings : Settings} {outcome : Outcome}
    {c d : Context H W} (ran : (solveFormula f settings).run c = (.ok outcome, d)) :
    if wantsModel settings outcome.status then
      ∃ model values, outcome.model = some model ∧ model.toList = none :: values ∧
        values.length = f.numVars
    else outcome.model = none := by
  obtain ⟨status, solved, concluded⟩ := solveFormula_eq_ok ran
  obtain ⟨rfl, read, fetched, _⟩ := conclude_eq_ok concluded
  unfold fetchModel at fetched
  split at fetched
  · rename_i wanted
    rw [map_eq_pure_bind] at fetched
    obtain ⟨model, between, slots, returned⟩ := run_bind_eq_ok fetched
    obtain ⟨values, filled, counted⟩ := model_slots slots
    have present : outcome.model = some model :=
      (Except.ok.inj (Prod.mk.inj returned).1).symm
    rw [if_pos wanted]
    exact ⟨model, values, present, filled, counted⟩
  · rename_i unwanted
    rw [if_neg unwanted]
    exact (Except.ok.inj (Prod.mk.inj fetched).1).symm

theorem wantsModel_iff {settings : Settings} {status : Status} :
    wantsModel settings status = true ↔
      status = .sat ∧ (settings.printModel = true ∨ settings.verify = true) := by
  simp [wantsModel]

/-- A satisfiable answer that was checked comes with a model of the formula. -/
theorem model_of_verified {f : Formula} {settings : Settings} {outcome : Outcome}
    {c d : Context H W} (verified : settings.verify = true)
    (ran : (solveFormula f settings).run c = (.ok outcome, d)) (sat : outcome.status = .sat) :
    ∃ model values, outcome.model = some model ∧ model.toList = none :: values ∧
      values.length = f.numVars ∧ ∀ c ∈ f.clauses, Clause.eval model c = some true := by
  have wanted : wantsModel settings outcome.status = true := wantsModel_iff.mpr ⟨sat, .inr verified⟩
  have kept := model_of_solveFormula ran
  rw [if_pos wanted] at kept
  obtain ⟨model, values, present, filled, counted⟩ := kept
  obtain ⟨_, _, concluded⟩ := solveFormula_eq_ok ran
  obtain ⟨rfl, _, _, checked⟩ := conclude_eq_ok concluded
  rw [present, run_verifyModel verified] at checked
  cases refuted : f.firstUnsatisfied model with
  | some index =>
      rw [refuted] at checked
      cases checked
  | none =>
      exact ⟨model, values, present, filled, counted,
        Formula.firstUnsatisfied_eq_none_iff.mp refuted⟩

end SatBridge.Solver
