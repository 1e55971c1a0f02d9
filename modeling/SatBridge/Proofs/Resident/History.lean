import Mathlib
import SatBridge.Proofs.Backend.Audit
import SatBridge.Proofs.Resident.Operations
import SatBridge.Proofs.Search.Engine

/-!
# The history of a resident solver

A resident solver is solved again and again while clauses keep arriving. Its state is at every moment
what its deeds amount to: each operation keeps this, so every sequence of commands does. Main
statement: whatever commands came before, the answers that the solver gives next are right for the
clauses that were closed by then.
-/

set_option autoImplicit false

namespace SatBridge

/-- The engine decides, and its values leave no variable open below one that the clauses have. -/
structure Engine.DecidesFully (engine : Engine) : Prop extends engine.Decides where
  assigns : ∀ clauses values, Taken clauses → engine.decide clauses = .satisfiable values →
    ∀ c ∈ clauses, ∀ l ∈ c, ∀ var, 1 ≤ var → var ≤ l.index → (values var).isSome = true

theorem Search.engine_decidesFully : engine.DecidesFully where
  toDecides := engine_decides
  assigns clauses values _ answered c _ l _ var _ _ := by
    simp only [engine] at answered
    split at answered
    · cases answered
      rfl
    · cases answered

theorem Satisfiable.mono {fewer more : List Clause} (subset : fewer ⊆ more)
    (satisfiable : Satisfiable more) : Satisfiable fewer := by
  obtain ⟨v, satisfies⟩ := satisfiable
  exact ⟨v, fun c member => satisfies c (subset member)⟩

theorem satisfiable_of_values {values : Nat → Option Bool} {clauses : List Clause}
    (holds : ∀ c ∈ clauses, ∃ l ∈ c, values l.index = some l.positive) : Satisfiable clauses := by
  -- Open variables may be taken for false.
  refine ⟨fun var => values var == some true, fun c member => ?_⟩
  obtain ⟨l, inClause, isTrue⟩ := holds c member
  exact List.any_eq_true.mpr ⟨l, inClause, by simp [Literal.holds, isTrue]⟩

namespace ResidentSolver

open SolverM

variable {engine : Engine} {s t : ResidentSolver engine} {deeds : List Deed}

/-- The state of a solver is what its deeds amount to. -/
structure Accounts (s : ResidentSolver engine) (deeds : List Deed) : Prop where
  stream : s.stream = .ofInts (Deed.accepted deeds)
  taken : ∀ value ∈ Deed.accepted deeds, value.natAbs ≤ maxVar
  stats : s.stats = Deed.tally deeds
  model : deeds.getLast? = some (.solved .sat) → Deed.remainder deeds = [] ∧
    ∃ values, engine.decide (Deed.committed deeds) = .satisfiable values ∧
      s.model = some ⟨s.stats.maxVar, values⟩
  noModel : deeds.getLast? ≠ some (.solved .sat) → s.model = none
  refuted : .solved .unsat ∈ deeds → ¬ Satisfiable (Deed.committed deeds)

theorem accounts_new : Accounts (.new : ResidentSolver engine) [] where
  stream := rfl
  taken := by simp [Deed.accepted]
  stats := rfl
  model := by simp
  noModel _ := rfl
  refuted := by simp

section Reading

theorem Accounts.clauses (accounts : Accounts s deeds) :
    s.stream.clauses = Deed.committed deeds := by
  rw [accounts.stream]
  exact (ClauseStream.clauses_ofInts _).1

theorem Accounts.isOpen_iff (accounts : Accounts s deeds) :
    s.stream.isOpen = false ↔ Deed.remainder deeds = [] := by
  rw [ClauseStream.isOpen_eq_false_iff, accounts.stream, (ClauseStream.clauses_ofInts _).2,
    List.map_eq_nil_iff]
  rfl

theorem Accounts.mem_committed (accounts : Accounts s deeds) {c : Clause}
    (member : c ∈ Deed.committed deeds) {l : Literal} (inClause : l ∈ c) :
    ∃ value ∈ Deed.accepted deeds, value ≠ 0 ∧ l.index = value.natAbs := by
  obtain ⟨run, inRuns, rfl⟩ := List.mem_map.mp member
  obtain ⟨value, inRun, rfl⟩ := List.mem_map.mp inClause
  obtain ⟨accepted, nonzero⟩ := ClauseStream.mem_of_mem_cut inRuns inRun
  have small : value.natAbs ≤ 268435456 := accounts.taken value accepted
  exact ⟨value, accepted, nonzero, Literal.index_ofSigned (by omega)⟩

theorem Accounts.taken_committed (accounts : Accounts s deeds) :
    Taken (Deed.committed deeds) := by
  intro c member l inClause
  obtain ⟨value, accepted, nonzero, index⟩ := accounts.mem_committed member inClause
  rw [index]
  exact ⟨Int.natAbs_pos.mpr nonzero, accounts.taken value accepted⟩

theorem Accounts.index_le (accounts : Accounts s deeds) {c : Clause}
    (member : c ∈ Deed.committed deeds) {l : Literal} (inClause : l ∈ c) :
    l.index ≤ s.stats.maxVar := by
  obtain ⟨value, accepted, _, index⟩ := accounts.mem_committed member inClause
  have bounds := foldl_max_le_iff.mp (Nat.le_of_eq (Deed.maxVar_tally deeds).symm)
  rw [accounts.stats, index]
  exact bounds.2 _ (List.mem_map_of_mem accepted)

theorem Accounts.exists_le_index (accounts : Accounts s deeds)
    (closed : Deed.remainder deeds = []) {var : Nat} (positive : 1 ≤ var)
    (below : var ≤ s.stats.maxVar) :
    ∃ c ∈ Deed.committed deeds, ∃ l ∈ c, var ≤ l.index := by
  -- Otherwise the largest variable that was counted would be less than `var`.
  have reached : ∃ value ∈ Deed.accepted deeds, var ≤ value.natAbs := by
    by_contra none
    have bounded : ((Deed.accepted deeds).map Int.natAbs).foldl max 0 ≤ var - 1 := by
      refine foldl_max_le_iff.mpr ⟨Nat.zero_le _, fun size member => ?_⟩
      obtain ⟨value, accepted, rfl⟩ := List.mem_map.mp member
      have small : ¬ var ≤ value.natAbs := fun large => none ⟨value, accepted, large⟩
      omega
    rw [← Deed.maxVar_tally, ← accounts.stats] at bounded
    omega
  obtain ⟨value, accepted, large⟩ := reached
  -- No clause is open, so an integer that was taken is a zero or in a committed clause.
  have kept : value ∈ (Deed.accepted deeds).filter (· ≠ 0) := by
    refine List.mem_filter.mpr ⟨accepted, ?_⟩
    have nonzero : value ≠ 0 := by omega
    simpa using nonzero
  rw [← ClauseStream.flatten_cut] at kept
  change value ∈ (ClauseStream.cut (Deed.accepted deeds)).1.flatten ++ Deed.remainder deeds at kept
  rw [closed, List.append_nil] at kept
  obtain ⟨run, inRuns, inRun⟩ := List.mem_flatten.mp kept
  have small : value.natAbs ≤ 268435456 := accounts.taken value accepted
  refine ⟨run.map Literal.ofSigned, List.mem_map_of_mem inRuns, _, List.mem_map_of_mem inRun, ?_⟩
  rwa [Literal.index_ofSigned (by omega)]

end Reading

section Steps

theorem add_eq_ok {value : Int} (taken : s.add value = .ok t) :
    value.natAbs ≤ maxVar ∧
      t = ⟨s.stream.take value, none, s.stats.countAdded value⟩ := by
  unfold ResidentSolver.add at taken
  split at taken
  · cases taken
  · rename_i small
    cases taken
    exact ⟨Nat.not_lt.mp small, rfl⟩

theorem solve_eq_ok {status : Status} {events : List LogEvent}
    (answered : s.solve = .ok (status, t, events)) :
    s.stream.isOpen = false ∧ t.stream = s.stream ∧ t.stats = s.stats.countSolve ∧
      ((∃ values, engine.decide s.stream.clauses = .satisfiable values ∧ status = .sat ∧
          t.model = some ⟨s.stats.maxVar, values⟩) ∨
        (engine.decide s.stream.clauses = .unsatisfiable ∧ status = .unsat ∧ t.model = none) ∨
        (∃ reason, engine.decide s.stream.clauses = .stopped reason ∧ status = .unknown ∧
          t.model = none)) := by
  unfold ResidentSolver.solve at answered
  split at answered
  · cases answered
  · rename_i closed
    simp only [Bool.not_eq_true] at closed
    split at answered
    · rename_i values decided
      cases answered
      exact ⟨closed, rfl, rfl, .inl ⟨values, decided, rfl, rfl⟩⟩
    · rename_i decided
      cases answered
      exact ⟨closed, rfl, rfl, .inr (.inl ⟨decided, rfl, rfl⟩)⟩
    · rename_i reason decided
      cases answered
      exact ⟨closed, rfl, rfl, .inr (.inr ⟨reason, decided, rfl, rfl⟩)⟩

theorem Accounts.add (accounts : Accounts s deeds) {value : Int} (taken : s.add value = .ok t) :
    Accounts t (deeds ++ [.added value]) := by
  obtain ⟨small, rfl⟩ := add_eq_ok taken
  refine {
    stream := by rw [Deed.accepted_added, ClauseStream.ofInts_snoc, ← accounts.stream]
    taken := ?taken
    stats := by rw [Deed.tally_snoc, ← accounts.stats]; rfl
    model := by simp
    noModel := fun _ => rfl
    refuted := ?refuted }
  case taken =>
    rw [Deed.accepted_added]
    exact List.forall_mem_append.mpr ⟨accounts.taken, by simpa using small⟩
  case refuted =>
    -- More clauses have no more valuations.
    intro member satisfiable
    have earlier : .solved .unsat ∈ deeds := by simpa using member
    exact accounts.refuted earlier (satisfiable.mono (Deed.committed_subset_added deeds value))

theorem Accounts.solve (decides : engine.Decides) (accounts : Accounts s deeds) {status : Status}
    {events : List LogEvent} (answered : s.solve = .ok (status, t, events)) :
    Accounts t (deeds ++ [.solved status]) := by
  obtain ⟨closed, sameStream, counted, decided⟩ := solve_eq_ok answered
  rw [accounts.clauses] at decided
  refine {
    stream := by rw [sameStream, accounts.stream, Deed.accepted_solved]
    taken := by rw [Deed.accepted_solved]; exact accounts.taken
    stats := by rw [counted, Deed.tally_snoc, ← accounts.stats]; rfl
    model := ?model
    noModel := ?noModel
    refuted := ?refuted }
  case model =>
    intro last
    obtain rfl : status = .sat := by simpa using last
    rw [Deed.remainder_solved, Deed.committed_solved, counted]
    refine ⟨accounts.isOpen_iff.mp closed, ?_⟩
    obtain ⟨values, satisfiable, _, kept⟩ | ⟨_, other, _⟩ | ⟨_, _, other, _⟩ := decided
    · exact ⟨values, satisfiable, kept⟩
    · cases other
    · cases other
  case noModel =>
    intro last
    obtain ⟨_, _, rfl, _⟩ | ⟨_, _, gone⟩ | ⟨_, _, _, gone⟩ := decided
    · simp at last
    · exact gone
    · exact gone
  case refuted =>
    intro member
    rw [Deed.committed_solved]
    obtain ⟨_, _, rfl, _⟩ | ⟨unsatisfiable, rfl, _⟩ | ⟨_, _, rfl, _⟩ := decided
    · exact accounts.refuted (by simpa using member)
    · exact decides.refutes _ accounts.taken_committed unsatisfiable
    · exact accounts.refuted (by simpa using member)

theorem Accounts.solve_open (accounts : Accounts s deeds) (opened : Deed.remainder deeds ≠ []) :
    s.solve = .error .unterminatedClause := by
  have isOpen : s.stream.isOpen = true := by
    rw [← Bool.not_eq_false]
    exact fun closed => opened (accounts.isOpen_iff.mp closed)
  exact ResidentSolver.solve_open isOpen

theorem Accounts.solve_closed (decides : engine.Decides) (accounts : Accounts s deeds)
    (closed : Deed.remainder deeds = []) :
    ∃ status t events, s.solve = .ok (status, t, events) ∧
      (status = .sat ∧ Satisfiable (Deed.committed deeds) ∨
        status = .unsat ∧ ¬ Satisfiable (Deed.committed deeds)) := by
  obtain ⟨status, t, events, answered, _⟩ :=
    ResidentSolver.solve_closed (accounts.isOpen_iff.mpr closed)
  refine ⟨status, t, events, answered, ?_⟩
  obtain ⟨_, _, _, decided⟩ := solve_eq_ok answered
  rw [accounts.clauses] at decided
  obtain ⟨values, satisfiable, rfl, _⟩ | ⟨unsatisfiable, rfl, _⟩ | ⟨reason, stopped, _⟩ := decided
  · exact .inl ⟨rfl, satisfiable_of_values
      (decides.holds _ values accounts.taken_committed satisfiable)⟩
  · exact .inr ⟨rfl, decides.refutes _ accounts.taken_committed unsatisfiable⟩
  · exact absurd stopped (decides.answers _ reason accounts.taken_committed)

/-- The kept model makes every committed clause true, also where it ends at the largest variable. -/
theorem Accounts.model_holds (decides : engine.Decides) (accounts : Accounts s deeds)
    (last : deeds.getLast? = some (.solved .sat)) :
    ∃ model, s.model = some model ∧
      ∀ c ∈ Deed.committed deeds, ∃ l ∈ c, model.value? l.index = some l.positive := by
  obtain ⟨_, values, satisfiable, kept⟩ := accounts.model last
  refine ⟨_, kept, fun c member => ?_⟩
  obtain ⟨l, inClause, isTrue⟩ :=
    decides.holds _ values accounts.taken_committed satisfiable c member
  have proper := (accounts.taken_committed c member l inClause).1
  exact ⟨l, inClause, (if_pos ⟨proper, accounts.index_le member inClause⟩).trans isTrue⟩

end Steps

section Runs

theorem silent_act {α : Type}
    (step : ResidentSolver engine → Except Error (α × ResidentSolver engine × List LogEvent)) :
    AgreeKeeping Audited.SameButLog (act step) (act step) := by
  intro c d same
  obtain ⟨_, sameHandle⟩ := same
  rw [run_act, run_act, sameHandle]
  cases step d.handle with
  | error error => exact ⟨rfl, rfl, sameHandle⟩
  | ok reply => exact ⟨rfl, rfl, rfl⟩

/-- No operation looks at the log. -/
theorem silent : Backend.Agree (fun _ => True) (fun _ => True)
    fun _ => (Audited.SameButLog :
      Relation (ResidentSolver engine) Unit (ResidentSolver engine) Unit) where
  record _ _ _ := fun _ _ same => ⟨rfl, same⟩
  add value _ := silent_act _
  solve := silent_act _
  value _ var _ := by
    intro c d same
    rw [run_value, run_value, same.2]
    exact ⟨rfl, same⟩
  setOption _ _ _ := agreeKeeping_throw _
  setConflictLimit _ _ := agreeKeeping_throw _
  setDecisionLimit _ _ := agreeKeeping_throw _
  stats _ _ _ same := congrArg ResidentSolver.stats same.2

theorem Accounts.run_add {c d : Context (ResidentSolver engine) Unit} {value : Int}
    (ran : (Backend.add value : SolverM (ResidentSolver engine) Unit Unit).run c = (.ok (), d))
    (accounts : Accounts c.handle deeds) : Accounts d.handle (deeds ++ [.added value]) := by
  cases taken : c.handle.add value with
  | error error =>
      rw [run_add_refused taken] at ran
      cases ran
  | ok t =>
      obtain ⟨log, answered⟩ := ResidentSolver.run_add taken
      rw [answered] at ran
      cases ran
      exact accounts.add taken

theorem Accounts.run_solve (decides : engine.Decides) {c d : Context (ResidentSolver engine) Unit}
    {status : Status}
    (ran : (Backend.solve : SolverM (ResidentSolver engine) Unit Status).run c = (.ok status, d))
    (accounts : Accounts c.handle deeds) : Accounts d.handle (deeds ++ [.solved status]) := by
  cases answered : c.handle.solve with
  | error error =>
      rw [run_solve_refused answered] at ran
      cases ran
  | ok reply =>
      obtain ⟨found, t, events⟩ := reply
      obtain ⟨log, solved⟩ := ResidentSolver.run_solve answered
      rw [solved] at ran
      cases ran
      exact accounts.solve decides answered

theorem eq_of_act_error {α : Type}
    {step : ResidentSolver engine → Except Error (α × ResidentSolver engine × List LogEvent)}
    {c d : Context (ResidentSolver engine) Unit} {error : Error}
    (refused : (act step).run c = (.error error, d)) : d = c := by
  rw [run_act] at refused
  cases stepped : step c.handle with
  | error other =>
      rw [stepped] at refused
      cases refused
      rfl
  | ok reply =>
      rw [stepped] at refused
      cases refused

theorem keeps_accounts (decides : engine.Decides) :
    Backend.Keeps fun c : Context (Audited (ResidentSolver engine)) Unit =>
      Accounts c.handle.solver c.handle.deeds where
  record _ _ accounts := accounts
  add value := by
    refine Audited.keeps_enter (fun c _ d before ran accounts => accounts.run_add ran) ?_
    intro c error d before refused accounts
    rwa [eq_of_act_error refused]
  solve := by
    refine Audited.keeps_enter (fun c _ d before ran => Accounts.run_solve decides ran) ?_
    intro c error d before refused accounts
    rwa [eq_of_act_error refused]
  value var := by
    refine Audited.keeps_enter ?_ ?_
    · intro c value d before ran accounts
      rw [run_value] at ran
      obtain ⟨_, rfl⟩ := Prod.mk.inj ran
      rwa [List.append_nil]
    · intro c error d before ran accounts
      rw [run_value] at ran
      obtain ⟨_, rfl⟩ := Prod.mk.inj ran
      exact accounts
  setOption _ _ := Audited.keeps_enter_throw _ _
  setConflictLimit _ := Audited.keeps_enter_throw _ _
  setDecisionLimit _ := Audited.keeps_enter_throw _ _

theorem accounts_runCommands (decides : engine.Decides) (world : World Unit)
    (commands : List Command) :
    Accounts (runCommands (⟨world, .new⟩ : Context (ResidentSolver engine) Unit) commands).handle
      (Audited.deedsOf (⟨world, .new⟩ : Context (ResidentSolver engine) Unit) commands) := by
  let fresh : Context (ResidentSolver engine) Unit := ⟨world, .new⟩
  have begins : Audited.Follows (Audited.start fresh) fresh := ⟨rfl, rfl⟩
  obtain ⟨_, sameSolver⟩ := Audited.follows_runCommands silent commands begins
  have accounts := (keeps_accounts decides).runCommands commands
    (c := Audited.start fresh) accounts_new
  change Accounts (Audited.inner (runCommands (Audited.start fresh) commands)).handle
    (Audited.deedsOf fresh commands) at accounts
  rwa [sameSolver] at accounts

end Runs

section Answers

/-- What the next answers of a solver are worth, given its deeds so far. -/
structure Sound (deeds : List Deed) (d : Context (ResidentSolver engine) Unit) : Prop where
  unterminated_iff : (Backend.solve.run d).1 = .error .unterminatedClause ↔
    Deed.remainder deeds ≠ []
  sat_iff : Deed.remainder deeds = [] →
    ((Backend.solve.run d).1 = .ok .sat ↔ Satisfiable (Deed.committed deeds))
  unsat_iff : Deed.remainder deeds = [] →
    ((Backend.solve.run d).1 = .ok .unsat ↔ ¬ Satisfiable (Deed.committed deeds))
  /-- Clauses that were refuted once stay refuted. -/
  unsat_stays : .solved .unsat ∈ deeds → ∀ status, (Backend.solve.run d).1 = .ok status →
    status = .unsat
  value_iff : ∀ var, (∃ value, ((Backend.value var).run d).1 = .ok value) ↔
    deeds.getLast? = some (.solved .sat)
  noModel : deeds.getLast? ≠ some (.solved .sat) →
    ∀ var, ((Backend.value var).run d).1 = .error .noModel
  model : deeds.getLast? = some (.solved .sat) → ∃ values : Nat → Option Bool,
    (∀ var, ((Backend.value var).run d).1 = .ok (values var)) ∧
    (∀ c ∈ Deed.committed deeds, ∃ l ∈ c, values l.index = some l.positive) ∧
    ∀ var, (values var).isSome = true ↔ 1 ≤ var ∧ var ≤ (Backend.stats d.handle).maxVar
  refused : ∀ value : Int, 268435456 < value.natAbs →
    (Backend.add value).run d = (.error (.invalidLiteral value), d)
  taken : ∀ value : Int, value.natAbs ≤ 268435456 → ∃ e, (Backend.add value).run d = (.ok (), e)

theorem Accounts.run_solve_open {d : Context (ResidentSolver engine) Unit}
    (accounts : Accounts d.handle deeds) (opened : Deed.remainder deeds ≠ []) :
    (Backend.solve.run d).1 = .error .unterminatedClause := by
  rw [run_solve_refused (accounts.solve_open opened)]

theorem Accounts.run_solve_closed {d : Context (ResidentSolver engine) Unit}
    (decides : engine.Decides) (accounts : Accounts d.handle deeds)
    (closed : Deed.remainder deeds = []) :
    (Backend.solve.run d).1 = .ok .sat ∧ Satisfiable (Deed.committed deeds) ∨
      (Backend.solve.run d).1 = .ok .unsat ∧ ¬ Satisfiable (Deed.committed deeds) := by
  obtain ⟨status, t, events, answered, verdict⟩ := accounts.solve_closed decides closed
  obtain ⟨log, ran⟩ := ResidentSolver.run_solve answered
  rw [ran]
  obtain ⟨rfl, satisfiable⟩ | ⟨rfl, unsatisfiable⟩ := verdict
  · exact .inl ⟨rfl, satisfiable⟩
  · exact .inr ⟨rfl, unsatisfiable⟩

theorem Accounts.run_solve_sat_iff {d : Context (ResidentSolver engine) Unit}
    (decides : engine.Decides) (accounts : Accounts d.handle deeds)
    (closed : Deed.remainder deeds = []) :
    (Backend.solve.run d).1 = .ok .sat ↔ Satisfiable (Deed.committed deeds) := by
  obtain ⟨ran, satisfiable⟩ | ⟨ran, unsatisfiable⟩ := accounts.run_solve_closed decides closed
  · simp [ran, satisfiable]
  · simp [ran, unsatisfiable]

theorem Accounts.run_value_noModel {d : Context (ResidentSolver engine) Unit}
    (accounts : Accounts d.handle deeds) (last : deeds.getLast? ≠ some (.solved .sat)) (var : Nat) :
    ((Backend.value var).run d).1 = .error .noModel := by
  rw [run_value, ResidentSolver.value, accounts.noModel last]

theorem Accounts.run_value_model {d : Context (ResidentSolver engine) Unit}
    (decides : engine.DecidesFully) (accounts : Accounts d.handle deeds)
    (last : deeds.getLast? = some (.solved .sat)) :
    ∃ values : Nat → Option Bool, (∀ var, ((Backend.value var).run d).1 = .ok (values var)) ∧
      (∀ c ∈ Deed.committed deeds, ∃ l ∈ c, values l.index = some l.positive) ∧
      ∀ var, (values var).isSome = true ↔ 1 ≤ var ∧ var ≤ (Backend.stats d.handle).maxVar := by
  obtain ⟨closed, values, satisfiable, kept⟩ := accounts.model last
  obtain ⟨model, same, holds⟩ := accounts.model_holds decides.toDecides last
  obtain rfl := Option.some.inj (kept.symm.trans same)
  refine ⟨Model.value? ⟨d.handle.stats.maxVar, values⟩, fun var => ?_, holds, fun var => ?_⟩
  · rw [run_value, ResidentSolver.value, kept]
  · by_cases inside : 1 ≤ var ∧ var ≤ d.handle.stats.maxVar
    · obtain ⟨c, member, l, inClause, below⟩ := accounts.exists_le_index closed inside.1 inside.2
      have assigned := decides.assigns _ values accounts.taken_committed satisfiable c member l
        inClause var inside.1 below
      have value : Model.value? ⟨d.handle.stats.maxVar, values⟩ var = values var := if_pos inside
      rw [value]
      exact iff_of_true assigned inside
    · have value : Model.value? ⟨d.handle.stats.maxVar, values⟩ var = none := if_neg inside
      rw [value]
      exact iff_of_false (by simp) inside

theorem Accounts.sound {d : Context (ResidentSolver engine) Unit} (decides : engine.DecidesFully)
    (accounts : Accounts d.handle deeds) : Sound deeds d where
  unterminated_iff := by
    refine ⟨fun refused closed => ?_, accounts.run_solve_open⟩
    obtain ⟨ran, _⟩ | ⟨ran, _⟩ := accounts.run_solve_closed decides.toDecides closed
    · rw [ran] at refused
      cases refused
    · rw [ran] at refused
      cases refused
  sat_iff := accounts.run_solve_sat_iff decides.toDecides
  unsat_iff closed := by
    obtain ⟨ran, satisfiable⟩ | ⟨ran, unsatisfiable⟩ :=
      accounts.run_solve_closed decides.toDecides closed
    · simp [ran, satisfiable]
    · simp [ran, unsatisfiable]
  unsat_stays member status answered := by
    by_cases closed : Deed.remainder deeds = []
    · obtain ⟨_, satisfiable⟩ | ⟨ran, _⟩ := accounts.run_solve_closed decides.toDecides closed
      · exact absurd satisfiable (accounts.refuted member)
      · exact (Except.ok.inj (ran.symm.trans answered)).symm
    · rw [accounts.run_solve_open closed] at answered
      cases answered
  value_iff var := by
    by_cases last : deeds.getLast? = some (.solved .sat)
    · obtain ⟨values, answered, _⟩ := accounts.run_value_model decides last
      exact ⟨fun _ => last, fun _ => ⟨values var, answered var⟩⟩
    · simp [accounts.run_value_noModel last var, last]
  noModel last := accounts.run_value_noModel last
  model := accounts.run_value_model decides
  refused value large := run_add_refused (add_refused large)
  taken value small := by
    by_cases zero : value = 0
    · obtain ⟨log, ran⟩ := ResidentSolver.run_add (d := d) add_terminator
      exact ⟨_, zero ▸ ran⟩
    · obtain ⟨log, ran⟩ := ResidentSolver.run_add (d := d) (add_literal small zero)
      exact ⟨_, ran⟩

end Answers

/-- After any commands, the answers of a resident solver are right for what it did so far. Its deeds
are those in the account of an audited solver, which answers the same. -/
theorem answers_sound_after (decides : engine.DecidesFully) (world : World Unit)
    (commands : List Command) :
    (∀ command : Command, (command.perform.run (runCommands (Audited.start
        (⟨world, .new⟩ : Context (ResidentSolver engine) Unit)) commands)).1 =
      (command.perform.run (runCommands
        (⟨world, .new⟩ : Context (ResidentSolver engine) Unit) commands)).1) ∧
    Sound (Audited.deedsOf (⟨world, .new⟩ : Context (ResidentSolver engine) Unit) commands)
      (runCommands (⟨world, .new⟩ : Context (ResidentSolver engine) Unit) commands) := by
  have accounts := accounts_runCommands decides.toDecides world commands
  exact ⟨Audited.perform_start silent _ commands, accounts.sound decides⟩

/-- A solve call inside a clause and a literal too large leave no deed, and the clause is decided
without them. -/
theorem answers_sound_after_sample :
    Sound [.added 1, .added 0] (runCommands (⟨⟨(), #[]⟩, .new⟩ : Context ResidentSolver Unit)
      [.add 1, .solve, .add 268435457, .add 0]) ∧
    (Backend.solve.run (runCommands (⟨⟨(), #[]⟩, .new⟩ : Context ResidentSolver Unit)
      [.add 1, .solve, .add 268435457, .add 0])).1 = .ok .sat := by
  have sound := (answers_sound_after Search.engine_decidesFully ⟨(), #[]⟩
    [.add 1, .solve, .add 268435457, .add 0]).2
  have deeds : Audited.deedsOf (⟨⟨(), #[]⟩, .new⟩ : Context ResidentSolver Unit)
      [.add 1, .solve, .add 268435457, .add 0] = [.added 1, .added 0] := by cbv
  rw [deeds] at sound
  have satisfiable : Satisfiable (Deed.committed [.added 1, .added 0]) :=
    ⟨fun _ => true, by decide⟩
  exact ⟨sound, (sound.sat_iff rfl).mpr satisfiable⟩

end ResidentSolver

end SatBridge
