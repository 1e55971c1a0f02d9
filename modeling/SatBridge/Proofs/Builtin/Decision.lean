import SatBridge.Proofs.Builtin.Mirror
import SatBridge.Proofs.Guarded.Run
import SatBridge.Proofs.Resident.Run

/-!
# Formulas that both solvers of this process decide

The resident solver and the builtin library give the right answer to every formula that they have
room for. Where they have not, they differ: the resident solver refuses the first literal that is
too large, and the library, which cannot, takes all of them and answers that nothing is known.
-/

set_option autoImplicit false

namespace SatBridge.Builtin

open SolverM GuardedSolver

variable {engine : Engine} {c : Context (GuardedSolver (library engine)) (Memory engine)}

section Spoiling

/-- There is a solver behind the handle, and if so asked, a spoiled one. -/
def Live (spoiled : Bool) (c : Context (GuardedSolver (library engine)) (Memory engine)) : Prop :=
  ∃ cell, c.shared.cell? c.handle.pointer = some cell ∧ (spoiled = true → cell.spoiled = true)

theorem spoiled_add (value : Int) (cell : Cell engine) : (cell.add value).1.spoiled =
    (cell.spoiled || decide (ResidentSolver.maxVar < value.natAbs)) := by
  unfold Cell.add
  by_cases large : ResidentSolver.maxVar < value.natAbs
  · simp [ResidentSolver.add, large]
  · simp [ResidentSolver.add, large]

theorem run_add_live {cell : Cell engine} (unsolved : Unsolved c)
    (live : c.shared.cell? c.handle.pointer = some cell) (value : Int) :
    ∃ d, (Backend.add value : HandleM engine Unit).run c = (.ok (), d) ∧
      Unsolved d ∧ d.shared.cell? d.handle.pointer = some (cell.add value).1 := by
  obtain ⟨log, ran⟩ := run_add unsolved value
  exact ⟨_, ran, rfl, cell?_add live value⟩

theorem keeps_add (spoiled : Bool) (value : Int) :
    Keeps (Live spoiled) (Backend.add value : HandleM engine Unit) := by
  intro c holds
  obtain ⟨cell, live, stays⟩ := holds
  cases solved : c.handle.result? with
  | some status =>
      have refused : (Backend.add value : HandleM engine Unit).run c = (.error .alreadySolved, c) :=
        run_add_solved solved value
      rw [refused]
      exact ⟨cell, live, stays⟩
  | none =>
      obtain ⟨d, ran, _, liveLater⟩ := run_add_live solved live value
      rw [ran]
      refine ⟨_, liveLater, fun asked => ?_⟩
      rw [spoiled_add, stays asked, Bool.true_or]

theorem spoils_add {value : Int} (large : ResidentSolver.maxVar < value.natAbs) :
    Reaches (fun c => Unsolved c ∧ Live false c) (fun c => Unsolved c ∧ Live true c)
      (Backend.add value : HandleM engine Unit) := by
  intro c holds
  obtain ⟨unsolved, cell, live, _⟩ := holds
  obtain ⟨d, ran, stillUnsolved, liveLater⟩ := run_add_live unsolved live value
  refine ⟨(), d, ran, stillUnsolved, _, liveLater, fun _ => ?_⟩
  rw [spoiled_add, decide_eq_true large, Bool.or_true]

theorem keeps_addClause (spoiled : Bool) (clause : Clause) :
    Keeps (Live spoiled) (Solver.addClause clause : HandleM engine Unit) := by
  refine keeps_bind (keeps_forM fun l _ => ?_) fun _ => keeps_add spoiled 0
  exact keeps_bind (keeps_lift _) (keeps_add spoiled)

theorem passes_addClause {clause : Clause} (bounded : ∀ l ∈ clause, l.index ≤ maxVar)
    (spoiled : Bool) :
    Passes (fun c => Ready c ∧ Live spoiled c)
      (Solver.addClause clause : HandleM engine Unit) := by
  refine reaches_keeping (fun c ready => ?_) (keeps_addClause spoiled clause)
  exact reaches_addClause bounded c ready.1

theorem spoils_addClause {clause : Clause} (bounded : ∀ l ∈ clause, l.index ≤ maxVar)
    {l : Literal} (inClause : l ∈ clause) (large : l.tooLarge = true) :
    Reaches (fun c => Ready c ∧ Live false c) (fun c => Ready c ∧ Live true c)
      (Solver.addClause clause : HandleM engine Unit) := by
  have passes (spoiled : Bool) : ∀ m ∈ clause, Passes (fun c => Unsolved c ∧ Live spoiled c)
      (do Backend.add (← m.toInt?) : HandleM engine Unit) := by
    intro m member
    exact reaches_keeping (passes_literal (bounded m member))
      (keeps_bind (keeps_lift _) (keeps_add spoiled))
  have turns : Reaches (fun c => Unsolved c ∧ Live false c) (fun c => Unsolved c ∧ Live true c)
      (do Backend.add (← l.toInt?) : HandleM engine Unit) := by
    have tooLarge : ResidentSolver.maxVar < l.signed.natAbs := by
      rw [Literal.natAbs_signed]
      exact of_decide_eq_true large
    rw [Literal.toInt?_of_le (bounded l inClause)]
    intro c holds
    obtain ⟨value, d, ran, spoiled⟩ := spoils_add tooLarge c holds
    exact ⟨value, d, (run_bind_ok (run_lift (.ok l.signed) c) _).trans ran, spoiled⟩
  have literals := reaches_forM (passes false) (passes true) ⟨l, inClause, turns⟩
  have clause := reaches_bind literals fun _ =>
    reaches_keeping reaches_terminator (keeps_add true 0)
  exact fun c ⟨ready, live⟩ => clause c ⟨ready.1, live⟩

theorem spoils_feed {f : Formula} (wellFormed : f.WellFormed) {l : Literal}
    (found : f.clauses.flatten.find? Literal.tooLarge = some l) :
    Reaches (fun c => Ready c ∧ Live false c) (fun c => Ready c ∧ Live true c)
      (Solver.feed f : HandleM engine Unit) := by
  have bounded : ∀ clause ∈ f.clauses, ∀ m ∈ clause, m.index ≤ maxVar := by
    intro clause member m inClause
    exact (wellFormed.literal member inClause).2
  obtain ⟨clause, member, inClause⟩ := List.mem_flatten.mp (List.mem_of_find?_eq_some found)
  exact reaches_forM (fun d inside => passes_addClause (bounded d inside) false)
    (fun d inside => passes_addClause (bounded d inside) true)
    ⟨clause, member, spoils_addClause (bounded clause member) inClause (List.find?_some found)⟩

theorem solve_spoiled (ready : Ready c) (live : Live true c) :
    ∃ d, (Backend.solve : HandleM engine Status).run c = (.ok .unknown, d) := by
  obtain ⟨cell, live, spoiled⟩ := live
  have code : ((library engine).solve c.handle.pointer c.shared).value = Status.unknown.code := by
    change (solve c.handle.pointer c.shared).value = _
    rw [solve_value live, Cell.solve, if_pos (spoiled rfl)]
  obtain ⟨log, ran⟩ := run_solve ready.1 ready.2
  rw [code, Status.ofCode?_code] at ran
  exact ⟨_, ran⟩

theorem run_spoiled {f : Formula} (wellFormed : f.WellFormed) {l : Literal}
    (found : f.clauses.flatten.find? Literal.tooLarge = some l) (settings : Settings)
    (ready : Ready c) (live : Live false c) :
    ∃ outcome, ((Solver.solveFormula f settings).run c).1 = .ok outcome ∧
      outcome.status = .unknown ∧ outcome.model = none := by
  have configured : Passes (fun c => Ready c ∧ Live false c)
      (settings.apply : HandleM engine Unit) :=
    passes_apply_unsupported (fun _ _ holds => holds)
      (fun name value c => run_setOption_unsupported rfl name value)
      (fun limit c => run_setLimit_unsupported .conflictLimit limit)
      (fun limit c => run_setLimit_unsupported .decisionLimit limit) settings
  obtain ⟨fed, ⟨readyFed, liveFed⟩, ran⟩ := Solver.run_solveFormula configured
    (spoils_feed wellFormed found) (fun _ _ holds => holds) ⟨ready, live⟩
  obtain ⟨solved, answered⟩ := solve_spoiled readyFed liveFed
  have unsatisfied : Status.unknown ≠ .sat := by decide
  rw [ran, run_bind_ok answered, Solver.run_conclude_unsatisfied unsatisfied]
  exact ⟨_, rfl, rfl, rfl⟩

end Spoiling

/-- What becomes of a formula: both solvers decide it, or the first literal that is too large stops
the one and spoils the other. -/
theorem backends_decide {engine : Engine} (decides : engine.Decides) {f : Formula}
    (wellFormed : f.WellFormed) (settings : Settings) (memory : Memory engine) (log : Log)
    (context : World Unit) :
    ∃ handle world,
      (GuardedSolver.create (library engine)).run ⟨memory, log⟩ = (.ok handle, world) ∧
      match f.clauses.flatten.find? Literal.tooLarge with
      | none => ∃ outcome, Decided f settings outcome ∧
          ((Solver.solveFormula f settings).run
            (⟨context, .new⟩ : Context (ResidentSolver engine) Unit)).1 = .ok outcome ∧
          ((Solver.solveFormula f settings).run ⟨world, handle⟩).1 = .ok outcome
      | some l =>
          ((Solver.solveFormula f settings).run
            (⟨context, .new⟩ : Context (ResidentSolver engine) Unit)).1 =
              .error (.invalidLiteral l.signed) ∧
          ∃ outcome, ((Solver.solveFormula f settings).run ⟨world, handle⟩).1 = .ok outcome ∧
            outcome.status = .unknown ∧ outcome.model = none := by
  obtain ⟨handle, world, created, mirrors⟩ := create_mirrors memory log context
  refine ⟨handle, world, created, ?_⟩
  cases found : f.clauses.flatten.find? Literal.tooLarge with
  | none =>
      obtain ⟨outcome, decided, resident⟩ :=
        ResidentSolver.run_decided settings context decides wellFormed found
      have admitted : ∀ clause ∈ f.clauses, clause.Admitted InRange := by
        intro clause member
        exact Clause.admitted_of_le (Clause.fits_of_find?_eq_none found member)
      have vars : ∀ index, 1 ≤ index → index ≤ f.numVars → 1 ≤ index ∧ index ≤ maxVar :=
        fun index proper declared => ⟨proper, Nat.le_trans declared wellFormed.1⟩
      obtain ⟨same, _⟩ := agree.solveFormula inRange_zero admitted vars settings _ _ mirrors
      exact ⟨outcome, decided, resident, same.trans resident⟩
  | some l =>
      obtain ⟨unsolved, flag, _⟩ := mirrors.before rfl
      have ready : Ready ⟨world, handle⟩ := ⟨unsolved, flag⟩
      have live : Live false ⟨world, handle⟩ := ⟨_, mirrors.cell, fun asked => by cases asked⟩
      exact ⟨ResidentSolver.run_refused settings context wellFormed found,
        run_spoiled wellFormed found settings ready live⟩

section Samples

private def sampleRequest : Settings := ⟨[("seed", 7)], some 5, none, false, true⟩

/-- A repeated literal, and a variable that no clause uses. -/
private def roomySample : Formula := ⟨3, [[⟨1, true⟩, ⟨2, false⟩], [⟨2, true⟩, ⟨2, true⟩]]⟩

private def crowdedSample : Formula := ⟨268435457, [[⟨1, true⟩], [⟨268435457, false⟩], []]⟩

theorem backends_decide_samples :
    (∃ handle world, (GuardedSolver.create library).run ⟨.empty, #[]⟩ = (.ok handle, world) ∧
      ∃ outcome, Decided roomySample sampleRequest outcome ∧
        ((Solver.solveFormula roomySample sampleRequest).run
          (⟨⟨(), #[]⟩, .new⟩ : Context ResidentSolver Unit)).1 = .ok outcome ∧
        ((Solver.solveFormula roomySample sampleRequest).run ⟨world, handle⟩).1 = .ok outcome) ∧
    ∃ handle world, (GuardedSolver.create library).run ⟨.empty, #[]⟩ = (.ok handle, world) ∧
      ((Solver.solveFormula crowdedSample sampleRequest).run
        (⟨⟨(), #[]⟩, .new⟩ : Context ResidentSolver Unit)).1 =
          .error (.invalidLiteral (-268435457)) ∧
      ∃ outcome, ((Solver.solveFormula crowdedSample sampleRequest).run ⟨world, handle⟩).1 =
          .ok outcome ∧ outcome.status = .unknown ∧ outcome.model = none := by
  have roomy : roomySample.WellFormed := by decide
  have crowded : crowdedSample.WellFormed := by decide
  exact ⟨backends_decide Search.engine_decides roomy sampleRequest .empty #[] ⟨(), #[]⟩,
    backends_decide Search.engine_decides crowded sampleRequest .empty #[] ⟨(), #[]⟩⟩

end Samples

end SatBridge.Builtin
