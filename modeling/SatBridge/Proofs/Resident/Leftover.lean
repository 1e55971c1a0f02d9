import SatBridge.Proofs.Resident.History
import SatBridge.Proofs.Resident.Run

/-!
# What a refused clause leaves behind

A clause is taken one literal at a time, up to the first one that is too large. The literals before
it are not given back: they stay open, and the next clause begins with them. Main statement: the
clauses that a solve call decides are the accepted ones, each behind what was left by the refused
ones right before it.
-/

set_option autoImplicit false

namespace SatBridge

def Clause.fits (c : Clause) : Bool :=
  c.all fun l => !l.tooLarge

/-- The literals before the first one that is too large. -/
def Clause.fitting (c : Clause) : Clause :=
  c.takeWhile fun l => !l.tooLarge

/-- The clauses that come of some clauses in turn, the first one behind literals that are open
already, and the literals that are open in the end. -/
def joined : (opened : Clause) → List Clause → List Clause × Clause
  | opened, [] => ([], opened)
  | opened, c :: rest =>
    if c.fits then ((opened ++ c) :: (joined [] rest).1, (joined [] rest).2)
    else joined (opened ++ c.fitting) rest

theorem Clause.fitting_of_fits {c : Clause} (fits : c.fits = true) : c.fitting = c :=
  List.takeWhile_eq_self_iff.mpr (List.all_eq_true.mp fits)

theorem joined_of_clean {clauses : List Clause}
    (clean : ∀ c ∈ clauses, c.fits = false → c.fitting = []) :
    joined [] clauses = (clauses.filter Clause.fits, []) := by
  induction clauses with
  | nil => rfl
  | cons c rest ih =>
      have later := ih fun other member => clean other (List.mem_cons_of_mem _ member)
      cases fits : c.fits with
      | true => simp [joined, fits, later]
      | false => simp [joined, fits, clean c List.mem_cons_self fits, later]

namespace ResidentSolver

open SolverM

variable {engine : Engine} {d : Context (ResidentSolver engine) Unit}

section Clauses

theorem stream_opening (s : ResidentSolver engine) (literals : Clause) :
    (s.opening literals).stream.clauses = s.stream.clauses ∧
      (s.opening literals).stream.openClause = s.stream.openClause ++ literals := by
  induction literals generalizing s with
  | nil => exact ⟨rfl, (List.append_nil _).symm⟩
  | cons l rest ih =>
      obtain ⟨clauses, opened⟩ := ih ⟨s.stream.push l, none, s.stats.countAdded l.signed⟩
      rw [ClauseStream.openClause_push, List.append_assoc] at opened
      exact ⟨clauses, opened⟩

theorem opening_eq_self_iff {s : ResidentSolver engine} {literals : Clause} :
    s.opening literals = s ↔ literals = [] := by
  constructor
  · intro same
    have opened := (stream_opening s literals).2
    rwa [same, List.self_eq_append_right] at opened
  · rintro rfl
    rfl

theorem refusal?_eq_none_iff {c : Clause} : refusal? c = none ↔ c.fits = true := by
  simp [refusal?, Clause.fits]

theorem run_literals {c : Clause} (wellFormed : ∀ l ∈ c, l.WellFormed) :
    (c.forM fun l => do Backend.add (← l.toInt?) :
        SolverM (ResidentSolver engine) Unit Unit).run d =
      ((refusal? c).elim (.ok ()) .error, { d with handle := d.handle.opening c.fitting }) := by
  induction c generalizing d with
  | nil => rfl
  | cons l rest ih =>
      have first := wellFormed l List.mem_cons_self
      rw [refusal?_cons]
      cases large : l.tooLarge with
      | true =>
          have nothing : Clause.fitting (l :: rest) = [] := by simp [Clause.fitting, large]
          rw [nothing]
          exact run_bind_error (run_literal_refused first large) _
      | false =>
          have more : Clause.fitting (l :: rest) = l :: Clause.fitting rest := by
            simp [Clause.fitting, large]
          rw [more]
          refine (run_bind_ok (run_literal first large) _).trans ?_
          exact ih fun other member => wellFormed other (List.mem_cons_of_mem _ member)

theorem run_addClause_fits {c : Clause} (wellFormed : ∀ l ∈ c, l.WellFormed)
    (fits : c.fits = true) :
    (Solver.addClause c : SolverM (ResidentSolver engine) Unit Unit).run d =
      (.ok (), { d with handle := (d.handle.opening c).closing }) := by
  have literals := run_literals (d := d) wellFormed
  rw [refusal?_eq_none_iff.mpr fits, Clause.fitting_of_fits fits] at literals
  exact (run_bind_ok literals _).trans run_terminator

theorem run_addClause_refused {c : Clause} (wellFormed : ∀ l ∈ c, l.WellFormed) {error : Error}
    (refused : refusal? c = some error) :
    (Solver.addClause c : SolverM (ResidentSolver engine) Unit Unit).run d =
      (.error error, { d with handle := d.handle.opening c.fitting }) := by
  have literals := run_literals (d := d) wellFormed
  rw [refused] at literals
  exact run_bind_error literals _

end Clauses

section Runs

/-- The clauses that a solver reports as taken, out of some that it is given in turn. -/
def reported (d : Context (ResidentSolver engine) Unit) : List Clause → List Clause
  | [] => []
  | c :: rest =>
    match (Solver.addClause c).run d with
    | (.ok (), e) => c :: reported e rest
    | (.error _, e) => reported e rest

theorem reported_eq_filter {clauses : List Clause}
    (wellFormed : ∀ c ∈ clauses, ∀ l ∈ c, l.WellFormed) :
    reported d clauses = clauses.filter Clause.fits := by
  induction clauses generalizing d with
  | nil => rfl
  | cons c rest ih =>
      have first := wellFormed c List.mem_cons_self
      have later (e : Context (ResidentSolver engine) Unit) :
          reported e rest = rest.filter Clause.fits :=
        ih fun other member => wellFormed other (List.mem_cons_of_mem _ member)
      unfold reported
      cases refused : refusal? c with
      | none =>
          have fits := refusal?_eq_none_iff.mp refused
          rw [run_addClause_fits first fits, List.filter_cons_of_pos fits]
          exact congrArg (c :: ·) (later _)
      | some error =>
          have tooLarge : ¬ c.fits = true := by
            rw [← refusal?_eq_none_iff, refused]
            simp
          rw [run_addClause_refused first refused, List.filter_cons_of_neg tooLarge]
          exact later _

/-- Every clause that is given either ends the open clause or goes into it as far as it fits. -/
theorem stream_addClauses {clauses : List Clause}
    (wellFormed : ∀ c ∈ clauses, ∀ l ∈ c, l.WellFormed) :
    (runCommands d (clauses.map .addClause)).handle.stream.clauses =
        d.handle.stream.clauses ++ (joined d.handle.stream.openClause clauses).1 ∧
      (runCommands d (clauses.map .addClause)).handle.stream.openClause =
        (joined d.handle.stream.openClause clauses).2 := by
  -- The rest may find any literals open, so the solver is arbitrary.
  induction clauses generalizing d with
  | nil => exact ⟨(List.append_nil _).symm, rfl⟩
  | cons c rest ih =>
      have first := wellFormed c List.mem_cons_self
      have later (e : Context (ResidentSolver engine) Unit) := ih (d := e) fun other member =>
        wellFormed other (List.mem_cons_of_mem _ member)
      cases refused : refusal? c with
      | none =>
          have fits := refusal?_eq_none_iff.mp refused
          have ran : ((Command.addClause c).perform.run d).2 =
              { d with handle := (d.handle.opening c).closing } :=
            congrArg Prod.snd (run_bind_ok (run_addClause_fits first fits) _)
          obtain ⟨clauses, opened⟩ := stream_opening d.handle c
          rw [joined, if_pos fits, List.map_cons, runCommands, List.foldl_cons, ran]
          obtain ⟨laterClauses, laterOpened⟩ :=
            later { d with handle := (d.handle.opening c).closing }
          refine ⟨laterClauses.trans ?_, laterOpened⟩
          change (d.handle.opening c).stream.close.clauses ++ _ = _
          rw [ClauseStream.clauses_close, clauses, opened, List.append_assoc]
          rfl
      | some error =>
          have tooLarge : ¬ c.fits = true := by
            rw [← refusal?_eq_none_iff, refused]
            simp
          have ran : ((Command.addClause c).perform.run d).2 =
              { d with handle := d.handle.opening c.fitting } :=
            congrArg Prod.snd (run_bind_error (run_addClause_refused first refused) _)
          obtain ⟨clauses, opened⟩ := stream_opening d.handle c.fitting
          rw [joined, if_neg tooLarge, List.map_cons, runCommands, List.foldl_cons, ran]
          have step := later { d with handle := d.handle.opening c.fitting }
          rw [clauses, opened] at step
          exact step

end Runs

section Answers

/-- What comes of clauses that are given to a solver between clauses. -/
structure Absorbs (d : Context (ResidentSolver engine) Unit) : Prop where
  /-- A clause that fits is committed. -/
  taken : ∀ c : Clause, (∀ l ∈ c, l.WellFormed) → (∀ l ∈ c, l.index ≤ maxVar) →
    (Solver.addClause c).run d = (.ok (), { d with handle := (d.handle.opening c).closing })
  /-- A clause that does not fit is refused for its first literal that is too large, and those
  before it stay in the open clause. -/
  refused : ∀ before l after, (∀ m ∈ before ++ l :: after, m.WellFormed) →
    (∀ m ∈ before, m.index ≤ maxVar) → maxVar < l.index →
    (Solver.addClause (before ++ l :: after)).run d =
      (.error (.invalidLiteral l.signed), { d with handle := d.handle.opening before })
  /-- Only a clause that is too large from the start leaves nothing. -/
  unchanged_iff : ∀ before : Clause, d.handle.opening before = d.handle ↔ before = []
  /-- Between clauses again, a solve call decides the accepted clauses behind what was left. -/
  sat_iff : ∀ clauses : List Clause, (∀ c ∈ clauses, ∀ l ∈ c, l.WellFormed) →
    (joined [] clauses).2 = [] →
    ((Backend.solve.run (runCommands d (clauses.map .addClause))).1 = .ok .sat ↔
      Satisfiable (d.handle.stream.clauses ++ (joined [] clauses).1))
  unterminated : ∀ clauses : List Clause, (∀ c ∈ clauses, ∀ l ∈ c, l.WellFormed) →
    (joined [] clauses).2 ≠ [] →
    (Backend.solve.run (runCommands d (clauses.map .addClause))).1 = .error .unterminatedClause
  /-- Where the refused clauses left nothing, those that were reported as taken are decided. -/
  sat_iff_reported : ∀ clauses : List Clause, (∀ c ∈ clauses, ∀ l ∈ c, l.WellFormed) →
    (∀ c ∈ clauses, c.fits = false → c.fitting = []) →
    ((Backend.solve.run (runCommands d (clauses.map .addClause))).1 = .ok .sat ↔
      Satisfiable (d.handle.stream.clauses ++ reported d clauses))

theorem fits_iff {c : Clause} : c.fits = true ↔ ∀ l ∈ c, l.index ≤ maxVar := by
  simp [Clause.fits, Literal.tooLarge]

theorem refusal?_split {before : Clause} {l : Literal} (small : ∀ m ∈ before, m.index ≤ maxVar)
    (large : maxVar < l.index) (after : Clause) :
    refusal? (before ++ l :: after) = some (.invalidLiteral l.signed) ∧
      Clause.fitting (before ++ l :: after) = before := by
  have fits : ∀ m ∈ before, m.tooLarge = false := by simpa [Literal.tooLarge] using small
  have tooLarge : l.tooLarge = true := by simpa [Literal.tooLarge] using large
  have none : before.find? Literal.tooLarge = Option.none := by simpa using fits
  constructor
  · simp [refusal?, List.find?_append, none, tooLarge]
  · have kept : ∀ m ∈ before, (!m.tooLarge) = true := by simpa using fits
    simp [Clause.fitting, List.takeWhile_append_of_pos kept, tooLarge]

theorem run_solve_terminated {deeds : List Deed} (decides : engine.Decides)
    (accounts : Accounts d.handle deeds) (closed : d.handle.stream.openClause = []) :
    (Backend.solve.run d).1 = .ok .sat ↔ Satisfiable d.handle.stream.clauses := by
  have nothingOpen := (ClauseStream.isOpen_eq_false_iff _).mpr closed
  rw [accounts.clauses]
  exact accounts.run_solve_sat_iff decides (accounts.isOpen_iff.mp nothingOpen)

theorem run_solve_unterminated (opened : d.handle.stream.openClause ≠ []) :
    (Backend.solve.run d).1 = .error .unterminatedClause := by
  have isOpen : d.handle.stream.isOpen = true := by
    rw [← Bool.not_eq_false, ClauseStream.isOpen_eq_false_iff]
    exact opened
  rw [run_solve_refused (solve_open isOpen)]

theorem absorbs_of_accounts (decides : engine.Decides)
    (accounts : ∀ commands, ∃ deeds, Accounts (runCommands d commands).handle deeds)
    (closed : d.handle.stream.isOpen = false) : Absorbs d := by
  have nothingOpen := (ClauseStream.isOpen_eq_false_iff _).mp closed
  have satIff (clauses : List Clause) (wellFormed : ∀ c ∈ clauses, ∀ l ∈ c, l.WellFormed)
      (terminated : (joined [] clauses).2 = []) :
      (Backend.solve.run (runCommands d (clauses.map .addClause))).1 = .ok .sat ↔
        Satisfiable (d.handle.stream.clauses ++ (joined [] clauses).1) := by
    obtain ⟨committed, opened⟩ := stream_addClauses (d := d) wellFormed
    rw [nothingOpen] at committed opened
    rw [← committed]
    obtain ⟨deeds, accounts⟩ := accounts (clauses.map .addClause)
    exact run_solve_terminated decides accounts (opened.trans terminated)
  refine {
    taken := fun c wellFormed small => run_addClause_fits wellFormed (fits_iff.mpr small)
    refused := ?refused
    unchanged_iff := fun before => opening_eq_self_iff
    sat_iff := satIff
    unterminated := ?unterminated
    sat_iff_reported := ?reported }
  case refused =>
    intro before l after wellFormed small large
    obtain ⟨refused, fitting⟩ := refusal?_split small large after
    rw [run_addClause_refused wellFormed refused, fitting]
  case unterminated =>
    intro clauses wellFormed left
    obtain ⟨_, opened⟩ := stream_addClauses (d := d) wellFormed
    rw [nothingOpen] at opened
    exact run_solve_unterminated (opened.symm ▸ left)
  case reported =>
    intro clauses wellFormed clean
    have separate := joined_of_clean clean
    rw [reported_eq_filter wellFormed, satIff clauses wellFormed (by rw [separate]), separate]

/-- Whatever commands came before, a clause that is refused leaves its literals up to the one that
is too large, and the next accepted clause is weaker by them. -/
theorem absorbs_after (decides : engine.Decides) (world : World Unit) (commands : List Command)
    (closed : (runCommands (⟨world, .new⟩ : Context (ResidentSolver engine) Unit)
      commands).handle.stream.isOpen = false) :
    Absorbs (runCommands (⟨world, .new⟩ : Context (ResidentSolver engine) Unit) commands) := by
  refine absorbs_of_accounts decides (fun more => ?_) closed
  rw [← runCommands_append]
  exact ⟨_, accounts_runCommands decides world (commands ++ more)⟩

section Samples

private def halfRefused : Clause := [⟨1, true⟩, ⟨268435457, true⟩]

private def contradictory : List Clause := [[⟨2, true⟩], [⟨2, false⟩]]

/-- The first clause is refused and the others are taken. Those have no valuation, and yet a solve
call finds one, since the first of them now begins with a literal of the refused clause. -/
theorem contradiction_weakened :
    reported (⟨⟨(), #[]⟩, .new⟩ : Context ResidentSolver Unit) (halfRefused :: contradictory) =
        contradictory ∧
      ¬ Satisfiable contradictory ∧
      (Backend.solve.run (runCommands (⟨⟨(), #[]⟩, .new⟩ : Context ResidentSolver Unit)
        ((halfRefused :: contradictory).map .addClause))).1 = .ok .sat := by
  have accounts := accounts_runCommands Search.engine_decides ⟨(), #[]⟩
    ((halfRefused :: contradictory).map .addClause)
  obtain ⟨clauses, opened⟩ := stream_addClauses
    (d := (⟨⟨(), #[]⟩, .new⟩ : Context ResidentSolver Unit))
    (show ∀ c ∈ halfRefused :: contradictory, ∀ l ∈ c, l.WellFormed by decide)
  refine ⟨reported_eq_filter (by decide), ?_, ?_⟩
  · intro satisfiable
    obtain ⟨v, holds⟩ := satisfiable
    have positive : (v 2 == true || false) = true := holds [⟨2, true⟩] (by simp [contradictory])
    have negative : (v 2 == false || false) = true := holds [⟨2, false⟩] (by simp [contradictory])
    cases isTrue : v 2 <;> simp [isTrue] at positive negative
  · refine (run_solve_terminated Search.engine_decides accounts opened).mpr ?_
    rw [clauses]
    exact ⟨fun var => var == 1, by decide⟩

theorem absorbs_after_clause :
    (Backend.solve.run (runCommands (runCommands (⟨⟨(), #[]⟩, .new⟩ : Context ResidentSolver Unit)
      [.addClause [⟨2, false⟩]]) ([halfRefused, [⟨2, true⟩]].map .addClause))).1 = .ok .sat := by
  have committed : (runCommands (⟨⟨(), #[]⟩, .new⟩ : Context ResidentSolver Unit)
      [.addClause [⟨2, false⟩]]).handle.stream.clauses = [[⟨2, false⟩]] := by cbv
  have absorbs := absorbs_after Search.engine_decides ⟨(), #[]⟩ [.addClause [⟨2, false⟩]] (by cbv)
  refine (absorbs.sat_iff [halfRefused, [⟨2, true⟩]] (by decide) rfl).mpr ?_
  rw [committed]
  exact ⟨fun var => var == 1, by decide⟩

end Samples

end Answers

end ResidentSolver

end SatBridge
