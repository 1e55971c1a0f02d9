import SatBridge.Proofs.Backend.Solve
import SatBridge.Proofs.Resident.Operations
import SatBridge.Proofs.Search.Engine

/-!
# One run on a resident solver

A formula arrives one literal at a time, and the solver carries what has arrived. The first literal
that is too large ends the run. Without one the engine is given the clauses of the formula and
nothing else, and the model that is read back from it makes each of them true.
-/

set_option autoImplicit false

namespace SatBridge

/-- Whether the variable of a literal is more than the resident solver takes. -/
def Literal.tooLarge (l : Literal) : Bool :=
  decide (ResidentSolver.maxVar < l.index)

/-- What a reading of the variables `1` to `numVars` gives. -/
def Model.slots (model : Model) (numVars : Nat) : Assignment :=
  (none :: (List.range' 1 numVars).map model.value?).toArray

theorem Model.value?_slots (model : Model) {numVars var : Nat} (proper : 1 ≤ var)
    (declared : var ≤ numVars) : (model.slots numVars).value? var = model.value? var := by
  obtain ⟨position, rfl⟩ := Nat.exists_eq_add_of_le proper
  have inside : position < numVars := by omega
  have slots : (model.slots numVars).toList =
      none :: (List.range' 1 numVars).map model.value? := rfl
  rw [Assignment.value?_of_slots slots, List.getElem?_map, List.getElem?_range' inside]
  simp

/-- The answer is right, and the model that comes with it is one of the formula. -/
structure Decided (f : Formula) (settings : Settings) (outcome : Outcome) : Prop where
  sat_iff : outcome.status = .sat ↔ Satisfiable f.clauses
  unsat_iff : outcome.status = .unsat ↔ ¬ Satisfiable f.clauses
  model_iff : outcome.model.isSome = true ↔
    outcome.status = .sat ∧ (settings.printModel = true ∨ settings.verify = true)
  model : ∀ model, outcome.model = some model → model.size = f.numVars + 1 ∧
    model[0]? = some none ∧ ∀ c ∈ f.clauses, Clause.eval model c = some true

theorem Clause.fits_of_find?_eq_none {clauses : List Clause}
    (fits : clauses.flatten.find? Literal.tooLarge = none) {c : Clause} (member : c ∈ clauses) :
    ∀ l ∈ c, l.index ≤ ResidentSolver.maxVar := by
  intro l inClause
  have small := List.find?_eq_none.mp fits l (List.mem_flatten.mpr ⟨c, member, inClause⟩)
  simpa [Literal.tooLarge] using small

namespace ResidentSolver

open SolverM

variable {engine : Engine} {d : Context (ResidentSolver engine) Unit}

section Refusals

/-- The error that names the first literal that is too large. -/
def refusal? (literals : List Literal) : Option Error :=
  (literals.find? Literal.tooLarge).map fun l => .invalidLiteral l.signed

theorem refusal?_flatten (clauses : List Clause) :
    refusal? clauses.flatten = clauses.findSome? refusal? := by
  rw [refusal?, List.find?_flatten, List.map_findSome?]
  rfl

theorem refusal?_cons {l : Literal} {rest : Clause} :
    refusal? (l :: rest) =
      if l.tooLarge then some (.invalidLiteral l.signed) else refusal? rest := by
  cases large : l.tooLarge <;> simp [refusal?, large]

theorem refusal?_eq_findSome? (c : Clause) : refusal? c = c.findSome? fun l => refusal? [l] := by
  induction c with
  | nil => rfl
  | cons l rest ih =>
      rw [List.findSome?_cons, ← ih, refusal?_cons, refusal?_cons]
      cases l.tooLarge <;> rfl

end Refusals

section Literals

/-- The solver with some more literals in its open clause. -/
def opening (s : ResidentSolver engine) (literals : Clause) : ResidentSolver engine :=
  literals.foldl (fun s l => ⟨s.stream.push l, none, s.stats.countAdded l.signed⟩) s

def closing (s : ResidentSolver engine) : ResidentSolver engine :=
  ⟨s.stream.close, none, s.stats.countAdded 0⟩

theorem run_literal {l : Literal} (wellFormed : l.WellFormed) (small : l.tooLarge = false) :
    (do Backend.add (← l.toInt?) : SolverM (ResidentSolver engine) Unit Unit).run d =
      (.ok (), { d with handle := d.handle.opening [l] }) := by
  obtain ⟨proper, bounded⟩ := wellFormed
  have inRange : l.signed.natAbs ≤ maxVar := by simpa [Literal.tooLarge] using small
  have taken := add_literal (s := d.handle) inRange (Literal.signed_ne_zero proper)
  rw [Literal.ofSigned_signed proper] at taken
  rw [Literal.toInt?_of_le bounded]
  refine (run_bind_ok (run_lift _ d) _).trans ((run_act _).trans ?_)
  rw [taken]
  simp [opening, Except.map]

theorem run_literal_refused {l : Literal} (wellFormed : l.WellFormed) (large : l.tooLarge = true) :
    (do Backend.add (← l.toInt?) : SolverM (ResidentSolver engine) Unit Unit).run d =
      (.error (.invalidLiteral l.signed), d) := by
  have tooLarge : maxVar < l.signed.natAbs := by simpa [Literal.tooLarge] using large
  rw [Literal.toInt?_of_le wellFormed.2]
  exact run_add_refused (add_refused tooLarge)

theorem run_terminator :
    (Backend.add 0 : SolverM (ResidentSolver engine) Unit Unit).run d =
      (.ok (), { d with handle := d.handle.closing }) := by
  refine (run_act _).trans ?_
  rw [add_terminator]
  simp [closing, Except.map]

end Literals

section Feeding

/-- The formula so far: clauses that are closed, and the literals of one that is not. -/
structure Carries (closed : List Clause) (opened : Clause)
    (d : Context (ResidentSolver engine) Unit) : Prop where
  clauses : d.handle.stream.clauses = closed
  openClause : d.handle.stream.openClause = opened
  counted : ∀ l ∈ closed.flatten ++ opened, l.index ≤ d.handle.stats.maxVar

theorem carries_new (context : World Unit) :
    Carries [] [] (⟨context, .new⟩ : Context (ResidentSolver engine) Unit) :=
  ⟨rfl, rfl, fun _ member => by cases member⟩

theorem takes_literal {l : Literal} (wellFormed : l.WellFormed) (closed : List Clause)
    (opened : Clause) :
    Takes (refusal? [l]) (Carries closed opened) (Carries closed (opened ++ [l]))
      (do Backend.add (← l.toInt?) : SolverM (ResidentSolver engine) Unit Unit) := by
  rw [refusal?_cons]
  cases large : l.tooLarge with
  | true =>
      intro d carries
      exact congrArg Prod.fst (run_literal_refused wellFormed large)
  | false =>
      intro d carries
      have nonzero : l.signed ≠ 0 := Literal.signed_ne_zero wellFormed.1
      refine ⟨(), _, run_literal wellFormed large, carries.clauses, ?_, ?_⟩
      · exact (ClauseStream.openClause_push _ l).trans (congrArg (· ++ [l]) carries.openClause)
      · intro m member
        change m.index ≤ (d.handle.stats.countAdded l.signed).maxVar
        simp only [Stats.countAdded, if_neg nonzero, Literal.natAbs_signed]
        rw [← List.append_assoc, List.mem_append, List.mem_singleton] at member
        rcases member with earlier | rfl
        · exact Nat.le_trans (carries.counted m earlier) (Nat.le_max_left _ _)
        · exact Nat.le_max_right _ _

theorem takes_terminator (closed : List Clause) (opened : Clause) :
    Takes none (Carries closed opened) (Carries (closed ++ [opened]) [])
      (Backend.add 0 : SolverM (ResidentSolver engine) Unit Unit) := by
  intro d carries
  refine ⟨(), _, run_terminator, ?_, rfl, fun l member => carries.counted l ?_⟩
  · rw [← carries.clauses, ← carries.openClause]
    exact ClauseStream.clauses_close _
  · simpa using member

theorem takes_addClause {c : Clause} (wellFormed : ∀ l ∈ c, l.WellFormed)
    (closed : List Clause) :
    Takes (refusal? c) (Carries closed []) (Carries (closed ++ [c]) [])
      (Solver.addClause c : SolverM (ResidentSolver engine) Unit Unit) := by
  have literals : Takes (c.findSome? fun l => refusal? [l]) (Carries closed [])
      (Carries closed ([] ++ c)) (c.forM fun l => do Backend.add (← l.toInt?) :
        SolverM (ResidentSolver engine) Unit Unit) :=
    takes_forM (fun l member taken => takes_literal (wellFormed l member) closed taken) []
  have clause := takes_bind literals fun _ => takes_terminator closed c
  rwa [Option.or_none, ← refusal?_eq_findSome?] at clause

theorem takes_feed {f : Formula} (wellFormed : f.WellFormed) :
    Takes (refusal? f.clauses.flatten) (Carries [] []) (Carries f.clauses [])
      (Solver.feed f : SolverM (ResidentSolver engine) Unit Unit) := by
  have each : ∀ c ∈ f.clauses, ∀ taken, Takes (refusal? c) (Carries taken [])
      (Carries (taken ++ [c]) [])
      (Solver.addClause c : SolverM (ResidentSolver engine) Unit Unit) := by
    intro c member taken
    exact takes_addClause (fun l inClause => wellFormed.literal member inClause) taken
  rw [refusal?_flatten]
  exact takes_forM each []

theorem passes_apply (closed : List Clause) (opened : Clause) (settings : Settings) :
    Passes (Carries closed opened)
      (settings.apply : SolverM (ResidentSolver engine) Unit Unit) :=
  passes_apply_unsupported
    (fun _ _ carries => ⟨carries.clauses, carries.openClause, carries.counted⟩)
    (fun _ _ _ => rfl) (fun _ _ => rfl) (fun _ _ => rfl) settings

end Feeding

section Answer

/-- The engine decides what the solver carries, and its values reach as far as the clauses do. -/
theorem solve_carried (decides : engine.Decides) {clauses : List Clause}
    (carries : Carries clauses [] d) (taken : Taken clauses) :
    (∃ model s, d.handle.solve = .ok (.sat, s, []) ∧ s.model = some model ∧
      ∀ c ∈ clauses, ∃ l ∈ c, model.value? l.index = some l.positive) ∨
    ∃ s, d.handle.solve = .ok (.unsat, s, []) ∧ ¬ Satisfiable clauses := by
  have closed : d.handle.stream.isOpen = false := by
    have empty := carries.openClause
    simp only [ClauseStream.openClause, List.reverse_eq_nil_iff] at empty
    simp [ClauseStream.isOpen, empty]
  unfold ResidentSolver.solve
  rw [closed, carries.clauses]
  cases answered : engine.decide clauses with
  | satisfiable values =>
      refine .inl ⟨_, _, rfl, rfl, fun c member => ?_⟩
      obtain ⟨l, inClause, isTrue⟩ := decides.holds clauses values taken answered c member
      have counted : l.index ≤ d.handle.stats.maxVar :=
        carries.counted l (by simpa using ⟨c, member, inClause⟩)
      refine ⟨l, inClause, ?_⟩
      exact (if_pos ⟨(taken c member l inClause).1, counted⟩).trans isTrue
  | unsatisfiable => exact .inr ⟨_, rfl, decides.refutes clauses taken answered⟩
  | stopped reason => exact absurd answered (decides.answers clauses reason taken)

theorem run_readValues {model : Model} (kept : d.handle.model = some model) (count : Nat)
    (slots : Assignment) :
    (Solver.readValues count slots).run d =
      (.ok (slots ++ ((List.range' slots.size count).map model.value?).toArray), d) := by
  induction count generalizing slots with
  | zero => simp [Solver.readValues]
  | succ count ih =>
      have value : (Backend.value slots.size : SolverM (ResidentSolver engine) Unit _).run d =
          (.ok (model.value? slots.size), d) := by
        simp [run_value, ResidentSolver.value, kept]
      rw [Solver.readValues, run_bind_ok value, ih]
      simp [List.range'_succ]

theorem run_model {model : Model} (kept : d.handle.model = some model) (numVars : Nat) :
    (Solver.model numVars).run d = (.ok (model.slots numVars), d) := by
  rw [Solver.model, run_readValues kept]
  simp [Model.slots]

/-- An answer that is right is reported as it is, with what was read of its model. -/
theorem conclude_satisfiable {f : Formula} {settings : Settings} {model : Model}
    (kept : d.handle.model = some model) (wellFormed : f.WellFormed)
    (holds : ∀ c ∈ f.clauses, ∃ l ∈ c, model.value? l.index = some l.positive) :
    ∃ outcome, Decided f settings outcome ∧
      ((Solver.conclude f settings .sat).run d).1 = .ok outcome := by
  have evaluates : ∀ c ∈ f.clauses, Clause.eval (model.slots f.numVars) c = some true := by
    intro c member
    obtain ⟨l, inClause, isTrue⟩ := holds c member
    obtain ⟨proper, declared⟩ := wellFormed.2 c member l inClause
    refine Clause.eval_eq_some_true_iff.mpr ⟨l, inClause, ?_⟩
    rw [Literal.eval_eq_some_true_iff, model.value?_slots proper declared, isTrue]
  have satisfiable : Satisfiable f.clauses := ⟨_, satisfies_of_eval evaluates⟩
  obtain ⟨e, concluded⟩ :=
    Solver.run_conclude_satisfied (run_model kept f.numVars) evaluates settings
  refine ⟨_, ⟨by simp [satisfiable], by simp [satisfiable], ?_, ?_⟩, congrArg Prod.fst concluded⟩
  · cases wanted : Solver.wantsModel settings .sat <;> simpa [Solver.wantsModel] using wanted
  · intro slots present
    have same : slots = model.slots f.numVars := by
      split at present
      · exact (Option.some.inj present).symm
      · cases present
    subst same
    exact ⟨by simp [Model.slots], rfl, evaluates⟩

theorem conclude_unsatisfiable {f : Formula} (settings : Settings)
    (unsatisfiable : ¬ Satisfiable f.clauses) :
    ∃ outcome, Decided f settings outcome ∧
      ((Solver.conclude f settings .unsat).run d).1 = .ok outcome := by
  have unsatisfied : Status.unsat ≠ .sat := by decide
  have concluded := Solver.run_conclude_unsatisfied unsatisfied f settings d
  refine ⟨_, ⟨by simp [unsatisfiable], by simp [unsatisfiable], by simp, ?_⟩,
    congrArg Prod.fst concluded⟩
  intro model present
  cases present

end Answer

section Whole

variable {f : Formula} (settings : Settings) (context : World Unit)

theorem run_refused (wellFormed : f.WellFormed) {l : Literal}
    (found : f.clauses.flatten.find? Literal.tooLarge = some l) :
    ((Solver.solveFormula f settings).run
      (⟨context, .new⟩ : Context (ResidentSolver engine) Unit)).1 =
        .error (.invalidLiteral l.signed) := by
  have refused : refusal? f.clauses.flatten = some (.invalidLiteral l.signed) := by
    simp only [refusal?, found, Option.map_some]
  have takes : Takes _ (Carries [] []) (Carries f.clauses [])
      (Solver.feed f : SolverM (ResidentSolver engine) Unit Unit) := takes_feed wellFormed
  rw [refused] at takes
  exact Solver.run_solveFormula_refused (passes_apply [] [] settings) takes (carries_new context)

theorem run_decided (decides : engine.Decides) (wellFormed : f.WellFormed)
    (fits : f.clauses.flatten.find? Literal.tooLarge = none) :
    ∃ outcome, Decided f settings outcome ∧
      ((Solver.solveFormula f settings).run
        (⟨context, .new⟩ : Context (ResidentSolver engine) Unit)).1 = .ok outcome := by
  have accepted : refusal? f.clauses.flatten = none := by
    simp only [refusal?, fits, Option.map_none]
  have takes : Takes _ (Carries [] []) (Carries f.clauses [])
      (Solver.feed f : SolverM (ResidentSolver engine) Unit Unit) := takes_feed wellFormed
  rw [accepted] at takes
  have taken : Taken f.clauses := by
    intro c member l inClause
    exact ⟨(wellFormed.literal member inClause).1,
      Clause.fits_of_find?_eq_none fits member l inClause⟩
  obtain ⟨fed, carries, ran⟩ := Solver.run_solveFormula (passes_apply [] [] settings) takes
    (fun _ _ carries => ⟨carries.clauses, carries.openClause, carries.counted⟩)
    (carries_new context)
  rw [ran]
  rcases solve_carried decides carries taken with
    ⟨model, s, answered, kept, holds⟩ | ⟨s, answered, unsatisfiable⟩
  · obtain ⟨log, solved⟩ := run_solve answered
    rw [run_bind_ok solved]
    exact conclude_satisfiable kept wellFormed holds
  · obtain ⟨log, solved⟩ := run_solve answered
    rw [run_bind_ok solved]
    exact conclude_unsatisfiable settings unsatisfiable

end Whole

end ResidentSolver

end SatBridge
