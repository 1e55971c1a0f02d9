import SatBridge.Proofs.Backend.Solve
import SatBridge.Proofs.Backend.Trace
import SatBridge.Proofs.Guarded.Simulation
import SatBridge.Proofs.Resident.History

/-!
# Exact statistics

Two backends keep their statistics apart from each other and refuse different integers. Each of
their operations counts what it let through and nothing else, so the statistics are always those of
the trace. Main statement: they are, for every handle of every pool of either backend, and a run on
one formula counts exactly that formula.
-/

set_option autoImplicit false

namespace SatBridge

open SolverM

section Feeding

variable {H W α : Type} [Backend H W] {c d : Context H W}

/-- Whenever the action succeeds, it has counted these integers. -/
def SolverM.Adds (values : List Int) (action : SolverM H W Unit) : Prop :=
  ∀ c d, action.run c = (.ok (), d) →
    Backend.stats d.handle = values.foldl Stats.countAdded (Backend.stats c.handle)

theorem adds_bind {values more : List Int} {first second : SolverM H W Unit}
    (adds : Adds values first) (next : Adds more second) :
    Adds (values ++ more) (first >>= fun _ => second) := by
  intro c d ran
  obtain ⟨_, middle, ranFirst, ranSecond⟩ := run_bind_eq_ok ran
  rw [next middle d ranSecond, adds c middle ranFirst, List.foldl_append]

theorem adds_forM {items : List α} {values : α → List Int} {action : α → SolverM H W PUnit}
    (each : ∀ item ∈ items, Adds (values item) (action item)) :
    Adds (items.flatMap values) (items.forM action) := by
  induction items with
  | nil =>
      intro c d ran
      cases ran
      rfl
  | cons item rest ih =>
      rw [List.flatMap_cons]
      exact adds_bind (each item List.mem_cons_self)
        (ih fun other member => each other (List.mem_cons_of_mem _ member))

namespace Backend.Counts

theorem adds (counts : Backend.Counts H) (value : Int) :
    Adds [value] (Backend.add value : SolverM H W Unit) := by
  intro c d ran
  exact (counts.add value).after ran

theorem adds_literal (counts : Backend.Counts H) {l : Literal} (wellFormed : l.WellFormed) :
    Adds [l.signed] (do Backend.add (← l.toInt?) : SolverM H W Unit) := by
  rw [Literal.toInt?_of_le wellFormed.2]
  exact counts.adds l.signed

theorem adds_addClause (counts : Backend.Counts H) {clause : Clause}
    (wellFormed : ∀ l ∈ clause, l.WellFormed) :
    Adds (clause.map Literal.signed ++ [0]) (Solver.addClause clause : SolverM H W Unit) := by
  rw [List.map_eq_flatMap]
  exact adds_bind (adds_forM fun l member => counts.adds_literal (wellFormed l member))
    (counts.adds 0)

theorem adds_feed (counts : Backend.Counts H) {f : Formula}
    (wellFormed : ∀ c ∈ f.clauses, ∀ l ∈ c, l.WellFormed) :
    Adds (ClauseStream.integers f.clauses) (Solver.feed f : SolverM H W Unit) := by
  rw [ClauseStream.integers, List.flatMap_map]
  exact adds_forM fun c member => counts.adds_addClause (wellFormed c member)

theorem keepsBeside (counts : Backend.Counts H) (stats : Stats) :
    Backend.KeepsBeside fun c : Context H W => Backend.stats c.handle = stats where
  record _ := fun _ same => same
  value var := fun c same => (counts.value var c).trans same
  setOption name value := fun c same => (counts.setOption name value c).trans same
  setConflictLimit limit := fun c same => (counts.setConflictLimit limit c).trans same
  setDecisionLimit limit := fun c same => (counts.setDecisionLimit limit c).trans same

/-- Nothing but feeding and the one solve call changes the statistics of a run. -/
theorem stats_solveFormula (counts : Backend.Counts H) {f : Formula}
    (wellFormed : ∀ c ∈ f.clauses, ∀ l ∈ c, l.WellFormed) {settings : Settings}
    {outcome : Outcome} (ran : (Solver.solveFormula f settings).run c = (.ok outcome, d)) :
    outcome.stats =
      ((ClauseStream.integers f.clauses).foldl Stats.countAdded
        (Backend.stats c.handle)).countSolve := by
  obtain ⟨_, configured, applied, ran⟩ := run_bind_eq_ok ran
  obtain ⟨_, full, fed, ran⟩ := run_bind_eq_ok ran
  obtain ⟨_, noted, recorded, ran⟩ := run_bind_eq_ok ran
  obtain ⟨status, solved, answered, concluded⟩ := run_bind_eq_ok ran
  have untouched := ((counts.keepsBeside _).apply settings).after applied rfl
  have filled := counts.adds_feed wellFormed configured full fed
  have asked := counts.solve.after answered
  have kept := ((counts.keepsBeside _).conclude f settings status).after concluded rfl
  rw [Solver.stats_of_conclude concluded, kept, asked, ← untouched, ← filled]
  cases recorded
  rfl

end Backend.Counts

end Feeding

section Backends

/-- The statistics of a backend are exact. -/
structure Backend.CountsExactly (H : Type) {W : Type} [Backend H W] : Prop where
  /-- Whatever was done in a pool, each handle in it has counted what its trace amounts to. -/
  handles : ∀ (shared : W) (steps : List Pool.Step) (slot : Nat) (s : H),
    ((Pool.ofShared shared : Pool H W).steps steps).2.handle? slot = some s →
    ∃ attempts, ((Pool.ofShared shared : Pool (Traced H) W).steps steps).2.handle? slot =
      some ⟨s, attempts⟩ ∧ Backend.stats s = Attempt.summary attempts
  /-- The traces show in no response. -/
  responses : ∀ (shared : W) (steps : List Pool.Step),
    ((Pool.ofShared shared : Pool (Traced H) W).steps steps).1 =
      ((Pool.ofShared shared : Pool H W).steps steps).1
  outcome : ∀ (before after : World W) (s : H),
    (Backend.create (H := H)).run before = (.ok s, after) →
    ∀ (world : World W) (f : Formula) (settings : Settings) (outcome : Outcome) (d : Context H W),
      (∀ c ∈ f.clauses, ∀ l ∈ c, l.WellFormed) →
      (Solver.solveFormula f settings).run ⟨world, s⟩ = (.ok outcome, d) →
      outcome.stats = ⟨1, f.clauses.length, f.numLiterals,
        (f.clauses.flatten.map Literal.index).foldl max 0⟩

theorem Stats.countSolve_integers {clauses : List Clause}
    (proper : ∀ c ∈ clauses, ∀ l ∈ c, 1 ≤ l.index) :
    ((ClauseStream.integers clauses).foldl Stats.countAdded .zero).countSolve =
      ⟨1, clauses.length, clauses.flatten.length,
        (clauses.flatten.map Literal.index).foldl max 0⟩ := by
  have sizes : Int.natAbs ∘ Literal.signed = Literal.index := funext Literal.natAbs_signed
  rw [Attempt.foldl_countAdded, ClauseStream.count_zero_integers proper,
    ClauseStream.filter_integers proper, List.length_map, List.map_map, sizes]
  rfl

theorem Backend.Counts.exactly {H W : Type} [Backend H W] (counts : Backend.Counts H)
    (silent : Backend.Silent H) : Backend.CountsExactly H where
  handles shared steps slot s live := by
    have found := ((Pool.beside_ofShared shared).steps silent steps).2.handle? slot
    rw [live] at found
    obtain ⟨⟨_, attempts⟩, kept, rfl⟩ := Option.map_eq_some_iff.mp found.symm
    have empty : ∀ slot (t : Traced H), (Pool.ofShared shared).handle? slot = some t → t.Exact := by
      simp [Pool.ofShared, Pool.handle?]
    have exact := Pool.forall_handle_steps (fun _ _ _ => Traced.exact_of_create counts)
      (Traced.keeps_exact counts) steps empty
    exact ⟨attempts, kept, exact slot _ kept⟩
  responses shared steps := ((Pool.beside_ofShared shared).steps silent steps).1
  outcome before after s created world f settings outcome d wellFormed ran := by
    have proper : ∀ c ∈ f.clauses, ∀ l ∈ c, 1 ≤ l.index :=
      fun c inFormula l inClause => (wellFormed c inFormula l inClause).1
    rw [counts.stats_solveFormula wellFormed ran, counts.create before s after created,
      Stats.countSolve_integers proper]
    rfl

namespace GuardedSolver

variable {σ : Type} (lib : Library σ)

/-- An undefined code is no refusal. -/
theorem asked_ofCode? (code : Int) : (Attempt.solve (Status.ofCode? code)).asked = true := by
  unfold Status.ofCode?
  split
  · rfl
  split
  · rfl
  split <;> rfl

theorem counts : Backend.Counts (GuardedSolver lib) where
  create world s after created := by
    change (create lib).run world = _ at created
    cases given : (lib.init world.shared).value with
    | none =>
        obtain ⟨_, failed⟩ := run_create_null given
        rw [failed] at created
        cases created
    | some pointer =>
        obtain ⟨_, succeeded⟩ := run_create given
        rw [succeeded] at created
        cases created
        rfl
  add value := counts_of_runs fun c => by
    cases solved : c.handle.result? with
    | some status => exact ⟨_, _, run_add_solved solved value, rfl⟩
    | none =>
        obtain ⟨log, ran⟩ := run_add solved value
        exact ⟨_, _, ran, rfl⟩
  solve := counts_of_runs fun c => by
    cases solved : c.handle.result? with
    | some status => exact ⟨_, _, run_solve_solved solved, rfl⟩
    | none =>
        cases midClause : c.handle.midClause with
        | true => exact ⟨_, _, run_solve_midClause solved midClause, rfl⟩
        | false =>
            obtain ⟨log, ran⟩ := run_solve solved midClause
            exact ⟨_, _, ran, (if_pos (asked_ofCode? _)).symm⟩
  value var c := congrArg stats (handle_value var c)
  setOption name value c := congrArg stats (handle_setOption name value c)
  setConflictLimit limit c := congrArg stats (handle_setLimit _ _ limit c)
  setDecisionLimit limit c := congrArg stats (handle_setLimit _ _ limit c)

theorem isSilent : Backend.Silent (GuardedSolver lib) where
  operations := silent lib
  create first second shared := by
    change ((create lib).run first).1 = ((create lib).run second).1 ∧
      ((create lib).run first).2.shared = ((create lib).run second).2.shared
    cases given : (lib.init second.shared).value with
    | none =>
        obtain ⟨_, failed⟩ := run_create_null (shared ▸ given)
        obtain ⟨_, failedOther⟩ := run_create_null given
        rw [failed, failedOther, shared]
        exact ⟨rfl, rfl⟩
    | some pointer =>
        obtain ⟨_, succeeded⟩ := run_create (shared ▸ given)
        obtain ⟨_, succeededOther⟩ := run_create given
        rw [succeeded, succeededOther, shared]
        exact ⟨rfl, rfl⟩
  release s _ _ shared := congrArg (fun memory => (lib.release s.pointer memory).memory) shared

end GuardedSolver

namespace ResidentSolver

variable (engine : Engine)

theorem counts : Backend.Counts (ResidentSolver engine) where
  create world s after created := by
    cases created
    rfl
  add value := counts_of_runs fun c => by
    cases taken : c.handle.add value with
    | error error => exact ⟨_, _, run_add_refused taken, rfl⟩
    | ok t =>
        obtain ⟨log, ran⟩ := run_add taken
        obtain ⟨_, rfl⟩ := add_eq_ok taken
        exact ⟨_, _, ran, rfl⟩
  solve := counts_of_runs fun c => by
    cases opened : c.handle.stream.isOpen with
    | true => exact ⟨_, _, run_solve_refused (solve_open opened), rfl⟩
    | false =>
        obtain ⟨status, t, events, answered, counted, _⟩ := solve_closed opened
        obtain ⟨log, ran⟩ := run_solve answered
        exact ⟨_, _, ran, counted⟩
  value var := counts_of_runs fun c => ⟨_, _, run_value var, rfl⟩
  setOption _ _ _ := rfl
  setConflictLimit _ _ := rfl
  setDecisionLimit _ _ := rfl

theorem isSilent : Backend.Silent (ResidentSolver engine) where
  operations := silent
  create _ _ shared := ⟨rfl, shared⟩
  release _ _ _ shared := shared

end ResidentSolver

/-- Every handle of every pool has counted what it took and what it was asked, and the outcome of a
formula counts that formula. Of the two backends only one takes the least 32-bit integer. -/
theorem statistics_exact :
    (∀ {σ : Type} (lib : Library σ), Backend.CountsExactly (GuardedSolver lib)) ∧
    (∀ engine : Engine, Backend.CountsExactly (ResidentSolver engine)) ∧
    (∀ {σ : Type} (lib : Library σ) (c : Context (GuardedSolver lib) σ),
      c.handle.result? = none → ∃ d, (Backend.add (-2147483648)).run c = (.ok (), d) ∧
        (Backend.stats d.handle).maxVar = max (Backend.stats c.handle).maxVar 2147483648) ∧
    ∀ (engine : Engine) (c : Context (ResidentSolver engine) Unit),
      (Backend.add (-2147483648)).run c = (.error (.invalidLiteral (-2147483648)), c) := by
  refine ⟨fun lib => ?_, fun engine => ?_, fun lib c unsolved => ?_, fun engine c => ?_⟩
  · exact (GuardedSolver.counts lib).exactly (GuardedSolver.isSilent lib)
  · exact (ResidentSolver.counts engine).exactly (ResidentSolver.isSilent engine)
  · obtain ⟨log, ran⟩ := GuardedSolver.run_add unsolved (-2147483648)
    exact ⟨_, ran, rfl⟩
  · exact ResidentSolver.run_add_refused (ResidentSolver.add_refused (by decide))

/-- The second literal is refused, which leaves the clause open for the first solve call. -/
example :
    let traced : Pool (Traced (ResidentSolver ⟨fun _ => .unsatisfiable⟩)) Unit :=
      ((Pool.ofShared ()).steps
        [.create, .perform 0 (.addClause [⟨1, true⟩, ⟨300000000, true⟩]), .perform 0 .solve,
          .perform 0 (.add 0), .perform 0 .solve]).2
    (traced.handle? 0).map (fun s => (s.attempts.length, Backend.stats s.solver)) =
      some (5, ⟨1, 1, 1, 1⟩) := by
  rfl

end Backends

end SatBridge
