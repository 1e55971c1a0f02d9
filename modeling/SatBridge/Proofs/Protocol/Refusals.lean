import SatBridge.Proofs.Guarded.Wire
import SatBridge.Proofs.Protocol.Conformance

/-!
# Refusals

Which operations a guarded solver refuses, and why, read off the calls that were made on its
solver. The handle keeps no record of them, yet its guards decide like a reader of the whole word.
Main statement: an operation that is refused is as if it had never been tried, and any other one
makes its calls and no more.
-/

set_option autoImplicit false

namespace SatBridge.Protocol

open SolverM GuardedSolver

variable {σ : Type} {lib : Library σ}

section Words

theorem any_iff_exists_mem {ι : Type} {isOne : Call → Bool} {call : ι → Call}
    (one_iff : ∀ c, isOne c = true ↔ ∃ i, c = call i) (word : List Call) :
    word.any isOne = true ↔ ∃ i, call i ∈ word := by
  simp only [List.any_eq_true, one_iff]
  constructor
  · intro found
    obtain ⟨c, member, i, rfl⟩ := found
    exact ⟨i, member⟩
  · intro found
    obtain ⟨i, member⟩ := found
    exact ⟨_, member, i, rfl⟩

def isAdd : Call → Bool
  | .add .. => true
  | _ => false

def isSolve : Call → Bool
  | .solve .. => true
  | _ => false

def isSatisfied : Call → Bool
  | .solve _ code => code == 10
  | _ => false

theorem isAdd_iff (c : Call) : isAdd c = true ↔ ∃ i : Nat × Int, c = .add i.1 i.2 := by
  cases c <;> simp [isAdd]

theorem isSolve_iff (c : Call) : isSolve c = true ↔ ∃ i : Nat × Int, c = .solve i.1 i.2 := by
  cases c <;> simp [isSolve]

theorem isSatisfied_iff (c : Call) : isSatisfied c = true ↔ ∃ solver, c = .solve solver 10 := by
  cases c <;> simp [isSatisfied]

instance (word : List Call) : Decidable (Added word) :=
  decidable_of_iff _ ((any_iff_exists_mem isAdd_iff word).trans Prod.exists)

instance (word : List Call) : Decidable (Solved word) :=
  decidable_of_iff _ ((any_iff_exists_mem isSolve_iff word).trans Prod.exists)

instance (word : List Call) : Decidable (Satisfied word) :=
  decidable_of_iff _ (any_iff_exists_mem isSatisfied_iff word)

instance (word : List Call) : Decidable (ClauseClosed word) :=
  inferInstanceAs (Decidable (∀ value ∈ lastAdded? word, value = 0))

end Words

section Specification

/-- One operation of a backend, with literals and variables that the library can be told. -/
def Operation : Command → Prop
  | .addClause clause => ∀ l ∈ clause, l.WellFormed
  | .feed f => ∀ clause ∈ f.clauses, ∀ l ∈ clause, l.WellFormed
  | .model numVars => numVars ≤ maxVar
  | .configure _ | .solveFormula .. => False
  | _ => True

def limitRefusal? (offered : Bool) (feature : Feature) (word : List Call) : Option Error :=
  if ¬ offered then some (.unsupported feature)
  else if Solved word then some .alreadySolved
  else none

/-- Why an operation is refused after the calls of a word: the first of its guards that fails. -/
def refusal? (offer : Offer) (word : List Call) : Command → Option Error
  | .add _ | .addClause _ => if Solved word then some .alreadySolved else none
  | .feed f => if Solved word ∧ f.clauses ≠ [] then some .alreadySolved else none
  | .solve =>
    if Solved word then some .alreadySolved
    else if ¬ ClauseClosed word then some .unterminatedClause
    else none
  | .value var =>
    if ¬ Satisfied word then some .noModel
    else if var = 0 ∨ maxVar < var then some (.invalidLiteral var)
    else none
  | .model numVars => if ¬ Satisfied word ∧ numVars ≠ 0 then some .noModel else none
  | .setOption name _ =>
    if ¬ offer.setOption then some (.unsupported .option)
    else if Added word ∨ Solved word then some .optionsLocked
    else if '\x00' ∈ name.toList then some .nulInOptionName
    else none
  | .setConflictLimit _ => limitRefusal? offer.setConflictLimit .conflictLimit word
  | .setDecisionLimit _ => limitRefusal? offer.setDecisionLimit .decisionLimit word
  | .configure _ | .solveFormula .. => none

/-- The calls of an operation that is not refused, and the answer that it makes of the replies. -/
inductive Sends (solver : Nat) : Command → List Call → Except Error Answer → Prop where
  | add {value} : Sends solver (.add value) [.add solver value] (.ok .done)
  | addClause {clause} :
      Sends solver (.addClause clause)
        (clause.map (fun l => .add solver l.signed) ++ [.add solver 0]) (.ok .done)
  | feed {f} : Sends solver (.feed f) (addCalls solver f.clauses) (.ok .done)
  | solve {code} :
      Sends solver .solve [.solve solver code] ((Status.ofCode? code).map .status)
  | value {var reply} :
      Sends solver (.value var) [.value solver var reply] ((decodeValue var reply).map .value)
  | model {numVars replies} : InTurn numVars 1 replies →
      Sends solver (.model numVars) (valueCalls solver 1 replies)
        ((decodeValues 1 replies).map fun values => .model (none :: values).toArray)
  | setOption {name value previous} :
      Sends solver (.setOption name value) [.setOption solver name value previous]
        (.ok (.previous previous))
  | setConflictLimit {limit} :
      Sends solver (.setConflictLimit limit) [.setConflictLimit solver limit] (.ok .done)
  | setDecisionLimit {limit} :
      Sends solver (.setDecisionLimit limit) [.setDecisionLimit solver limit] (.ok .done)

end Specification

section Refused

variable {c : Context (GuardedSolver lib) σ} {word : List Call} {error : Error}

theorem Tracks.exists_result (tracks : Tracks c.handle word) (solved : Solved word) :
    ∃ status, c.handle.result? = some status := by
  cases found : c.handle.result? with
  | none => exact absurd solved (tracks.unsolved.mp found)
  | some status => exact ⟨status, rfl⟩

theorem run_addClause_solved {status : Status} (solved : c.handle.result? = some status)
    {clause : Clause} (proper : ∀ l ∈ clause, l.WellFormed) :
    (Solver.addClause clause).run c = (.error .alreadySolved, c) := by
  cases clause with
  | nil => exact (run_bind_ok rfl _).trans (run_add_solved solved 0)
  | cons l rest =>
      have bounded : l.index ≤ maxVar := (proper l List.mem_cons_self).2
      have refused : (do Backend.add (← l.toInt?) : SolverM (GuardedSolver lib) σ Unit).run c =
          (.error .alreadySolved, c) := by
        rw [Literal.toInt?_of_le bounded]
        exact run_add_solved solved l.signed
      exact run_bind_error (run_bind_error refused _) _

theorem run_setLimit_refused {feature : Feature} {entry : Option (Pointer → Nat → Entry σ Unit)}
    (tracks : Tracks c.handle word)
    (refused : limitRefusal? entry.isSome feature word = some error) (limit : Nat) :
    (setLimit feature entry limit : SolverM (GuardedSolver lib) σ Unit).run c =
      (.error error, c) := by
  unfold limitRefusal? at refused
  cases entry with
  | none =>
      cases refused
      exact run_setLimit_unsupported feature limit
  | some entry =>
      rw [Option.isSome_some, if_neg (by simp)] at refused
      split at refused
      · rename_i solved
        cases refused
        obtain ⟨status, found⟩ := tracks.exists_result solved
        exact run_setLimit_solved found feature entry limit
      · cases refused

/-- A refused operation calls nothing, tells the log nothing and leaves the handle as it is. -/
theorem run_refused (tracks : Tracks c.handle word) {command : Command}
    (operation : Operation command) (refused : refusal? lib.offer word command = some error) :
    command.perform.run c = (.error error, c) := by
  cases command with
  | add value =>
      simp only [refusal?, Option.ite_none_right_eq_some] at refused
      obtain ⟨solved, ⟨⟩⟩ := refused
      obtain ⟨status, found⟩ := tracks.exists_result solved
      exact run_bind_error (run_add_solved found value) _
  | addClause clause =>
      simp only [refusal?, Option.ite_none_right_eq_some] at refused
      obtain ⟨solved, ⟨⟩⟩ := refused
      obtain ⟨status, found⟩ := tracks.exists_result solved
      exact run_bind_error (run_addClause_solved found operation) _
  | feed f =>
      simp only [refusal?, Option.ite_none_right_eq_some] at refused
      obtain ⟨⟨solved, nonempty⟩, ⟨⟩⟩ := refused
      obtain ⟨status, found⟩ := tracks.exists_result solved
      obtain ⟨clause, rest, clauses⟩ := List.exists_cons_of_ne_nil nonempty
      have proper : ∀ l ∈ clause, l.WellFormed := operation clause (by simp [clauses])
      have fed : (Solver.feed f).run c = (.error .alreadySolved, c) := by
        rw [Solver.feed, clauses]
        exact run_bind_error (run_addClause_solved found proper) _
      exact run_bind_error fed _
  | solve =>
      simp only [refusal?] at refused
      split at refused
      · rename_i solved
        cases refused
        obtain ⟨status, found⟩ := tracks.exists_result solved
        exact run_bind_error (run_solve_solved found) _
      · rename_i notSolved
        simp only [Option.ite_none_right_eq_some] at refused
        obtain ⟨opened, ⟨⟩⟩ := refused
        have midClause : c.handle.midClause = true := by
          rwa [← tracks.closed, Bool.not_eq_false] at opened
        exact run_bind_error (run_solve_midClause (tracks.unsolved.mpr notSolved) midClause) _
  | value var =>
      simp only [refusal?] at refused
      split at refused
      · rename_i unsatisfied
        cases refused
        rw [← tracks.satisfied] at unsatisfied
        exact run_bind_error (run_value_noModel unsatisfied var) _
      · rename_i satisfied
        rw [not_not, ← tracks.satisfied] at satisfied
        simp only [Option.ite_none_right_eq_some] at refused
        obtain ⟨invalid, ⟨⟩⟩ := refused
        exact run_bind_error (run_value_invalid satisfied invalid) _
  | model numVars =>
      simp only [refusal?, Option.ite_none_right_eq_some] at refused
      obtain ⟨⟨unsatisfied, nonzero⟩, ⟨⟩⟩ := refused
      rw [← tracks.satisfied] at unsatisfied
      obtain ⟨count, rfl⟩ := Nat.exists_eq_succ_of_ne_zero nonzero
      exact run_bind_error (run_bind_error (run_value_noModel unsatisfied _) _) _
  | setOption name value =>
      simp only [refusal?] at refused
      cases present : lib.setOption with
      | none =>
          simp only [Library.offer, present] at refused
          cases refused
          exact run_bind_error (run_setOption_unsupported present name value) _
      | some entry =>
          simp only [Library.offer, present, Option.isSome_some, not_true_eq_false,
            if_false] at refused
          split at refused
          · rename_i late
            cases refused
            have locked : c.handle.phase ≠ .configuring := by
              rw [ne_eq, tracks.configuring, ← not_or, not_not]
              exact late
            exact run_bind_error (run_setOption_locked present locked name value) _
          · rename_i early
            rw [not_or, ← tracks.configuring] at early
            simp only [Option.ite_none_right_eq_some] at refused
            obtain ⟨nul, ⟨⟩⟩ := refused
            exact run_bind_error (run_setOption_nul present early nul value) _
  | setConflictLimit limit => exact run_bind_error (run_setLimit_refused tracks refused limit) _
  | setDecisionLimit limit => exact run_bind_error (run_setLimit_refused tracks refused limit) _
  | configure settings => cases refused
  | solveFormula f settings => cases refused

end Refused

section Accepted

variable {c : Context (GuardedSolver lib.recorded) (Recording σ)} {word : List Call}

theorem run_setLimit_accepted {feature : Feature}
    {entry : Option (Pointer → Nat → Entry σ Unit)} (tracks : Tracks c.handle word)
    (accepted : limitRefusal? entry.isSome feature word = none) (call : Nat → Nat → Call)
    (limit : Nat) :
    ∃ d, (setLimit feature (entry.map fun entry solver limit =>
        Recording.perform solver (fun p => entry p limit) fun _ => call solver limit) limit :
        SolverM (GuardedSolver lib.recorded) (Recording σ) Unit).run c = (.ok (), d) ∧
      d.shared.calls.toList = c.shared.calls.toList ++ [call c.handle.pointer limit] := by
  unfold limitRefusal? at accepted
  cases entry with
  | none => simp at accepted
  | some entry =>
      have unsolved : Unsolved c := tracks.unsolved.mpr (by simpa using accepted)
      obtain ⟨d, ran, _, _, calls⟩ :=
        run_setLimit_sent unsolved ⟨rfl, rfl⟩ feature entry call limit
      exact ⟨d, ran, calls⟩

theorem run_setOption_accepted (tracks : Tracks c.handle word) {name : String} {value : Int}
    (accepted : refusal? lib.offer word (.setOption name value) = none) :
    ∃ previous d, (GuardedSolver.setOption name value :
        SolverM (GuardedSolver lib.recorded) (Recording σ) Int).run c = (.ok previous, d) ∧
      d.shared.calls.toList =
        c.shared.calls.toList ++ [.setOption c.handle.pointer name value previous] := by
  have offered : lib.setOption.isSome := by
    by_contra absent
    simp [refusal?, Library.offer, absent] at accepted
  have early : ¬ (Added word ∨ Solved word) := by
    intro late
    simp [refusal?, Library.offer, offered, late] at accepted
  have clean : '\x00' ∉ name.toList := by
    simpa [refusal?, Library.offer, offered, early] using accepted
  rw [not_or, ← tracks.configuring] at early
  obtain ⟨previous, d, ran, _, _, calls⟩ :=
    run_setOption_sent offered early ⟨rfl, rfl⟩ clean value
  exact ⟨previous, d, ran, calls⟩

/-- What is not refused reaches the library as a whole, and only the replies decide the answer. -/
theorem run_accepted (tracks : Tracks c.handle word) {command : Command}
    (operation : Operation command) (accepted : refusal? lib.offer word command = none) :
    ∃ calls answer d, Sends c.handle.pointer command calls answer ∧
      command.perform.run c = (answer, d) ∧
      d.shared.calls.toList = c.shared.calls.toList ++ calls := by
  have sent : Sent c.handle.pointer c.shared.calls.toList c := ⟨rfl, rfl⟩
  cases command with
  | add value =>
      have unsolved : Unsolved c := tracks.unsolved.mpr (by simpa [refusal?] using accepted)
      obtain ⟨d, ran, _, _, _, calls⟩ := run_add_sent unsolved sent value
      exact ⟨_, _, d, .add, run_bind_ok ran _, calls⟩
  | addClause clause =>
      have unsolved : Unsolved c := tracks.unsolved.mpr (by simpa [refusal?] using accepted)
      have bounded : ∀ l ∈ clause, l.index ≤ maxVar := fun l member => (operation l member).2
      obtain ⟨_, d, ran, _, _, calls⟩ := reaches_clause _ _ bounded c ⟨unsolved, sent⟩
      rw [List.append_assoc] at calls
      exact ⟨_, _, d, .addClause, run_bind_ok ran _, calls⟩
  | feed f =>
      by_cases empty : f.clauses = []
      · have ran : (Solver.feed f).run c = (.ok (), c) := by
          rw [Solver.feed, empty]
          rfl
        refine ⟨_, _, c, .feed, run_bind_ok ran _, ?_⟩
        simp [empty, addCalls, ClauseStream.integers]
      · have unsolved : Unsolved c :=
          tracks.unsolved.mpr (by simpa [refusal?, empty] using accepted)
        have bounded : ∀ clause ∈ f.clauses, ∀ l ∈ clause, l.index ≤ maxVar :=
          fun clause member l inClause => (operation clause member l inClause).2
        obtain ⟨_, d, ran, _, _, calls⟩ := reaches_feed (fun _ unsolved => unsolved)
          (fun _ ready => ready.1) _ _ bounded c ⟨unsolved, sent⟩
        exact ⟨_, _, d, .feed, run_bind_ok ran _, calls⟩
  | solve =>
      have unsolved : ¬ Solved word := by
        intro solved
        simp [refusal?, solved] at accepted
      have closed : ClauseClosed word := by simpa [refusal?, unsolved] using accepted
      obtain ⟨code, d, ran, _, _, calls⟩ :=
        run_solve_recorded ⟨tracks.unsolved.mpr unsolved, tracks.closed.mpr closed⟩
      refine ⟨_, _, d, .solve, ?_, calls⟩
      change (Answer.status <$> GuardedSolver.solve).run c = _
      rw [run_map, ran]
  | value var =>
      have guards : Satisfied word ∧ 1 ≤ var ∧ var ≤ maxVar := by
        by_cases satisfied : Satisfied word
        · have valid : ¬ (var = 0 ∨ maxVar < var) := by simpa [refusal?, satisfied] using accepted
          exact ⟨satisfied, by omega⟩
        · simp [refusal?, satisfied] at accepted
      rw [← tracks.satisfied] at guards
      obtain ⟨reply, d, ran, _, calls⟩ := run_value_recorded guards.1 guards.2
      refine ⟨_, _, d, .value, ?_, calls⟩
      change (Answer.value <$> GuardedSolver.value var).run c = _
      rw [run_map, ran]
  | model numVars =>
      cases numVars with
      | zero => exact ⟨_, _, c, .model .done, rfl, (List.append_nil _).symm⟩
      | succ count =>
          have satisfied : Satisfied word := by simpa [refusal?] using accepted
          rw [← tracks.satisfied] at satisfied
          have bounded : 1 + (count + 1) ≤ maxVar + 1 := by
            rw [Nat.add_comm 1]
            exact Nat.succ_le_succ operation
          obtain ⟨replies, d, read, _, calls, inTurn⟩ :=
            run_readValues (count + 1) #[none] satisfied (Nat.le_refl 1) bounded
          refine ⟨_, _, d, .model inTurn, ?_, calls⟩
          change (Answer.model <$> Solver.readValues (count + 1) #[none]).run c = _
          rw [run_map, read]
          change _ = ((decodeValues (#[none] : Assignment).size replies).map _, d)
          cases decodeValues (#[none] : Assignment).size replies <;> simp [Except.map]
  | setOption name value =>
      obtain ⟨previous, d, ran, calls⟩ := run_setOption_accepted tracks accepted
      exact ⟨_, _, d, .setOption, run_bind_ok ran _, calls⟩
  | setConflictLimit limit =>
      obtain ⟨d, ran, calls⟩ := run_setLimit_accepted tracks accepted .setConflictLimit limit
      exact ⟨_, _, d, .setConflictLimit, run_bind_ok ran _, calls⟩
  | setDecisionLimit limit =>
      obtain ⟨d, ran, calls⟩ := run_setLimit_accepted tracks accepted .setDecisionLimit limit
      exact ⟨_, _, d, .setDecisionLimit, run_bind_ok ran _, calls⟩
  | configure settings => cases operation
  | solveFormula f settings => cases operation

end Accepted

section Pools

theorem Tracks.original {s : GuardedSolver lib.recorded} {word : List Call}
    (tracks : Tracks s word) (pointers : Array Pointer) :
    Tracks (s.original pointers) word :=
  ⟨tracks.conforms, tracks.live, tracks.configuring, tracks.unsolved, tracks.satisfied,
    tracks.closed⟩

theorem offer_recorded (lib : Library σ) : lib.recorded.offer = lib.offer := by
  simp [Library.offer, Library.recorded]

/-- What an operation on the solver of a slot leads to, in a pool and in the one that records the
calls: either nothing but an error, or the calls of the operation and the answer to them. -/
def Settles (pool : Pool (GuardedSolver lib) σ) (recorded : RecordedPool lib) (slot solver : Nat)
    (command : Command) : Prop :=
  match refusal? lib.offer (wordOf recorded solver) command with
  | some error =>
    pool.perform slot command = (some (.error error), pool) ∧
      recorded.perform slot command = (some (.error error), recorded)
  | none =>
    ∃ calls answer, Sends solver command calls answer ∧
      (pool.perform slot command).1 = some answer ∧
      (recorded.perform slot command).1 = some answer ∧
      (recorded.perform slot command).2.shared.calls.toList =
        recorded.shared.calls.toList ++ calls

theorem settles_of_tracks {pool : Pool (GuardedSolver lib) σ} {recorded : RecordedPool lib}
    (projects : Projects recorded pool) (accounted : Accounted recorded) {slot : Nat}
    {s : GuardedSolver lib.recorded} (live : recorded.handle? slot = some s) {command : Command}
    (operation : Operation command) : Settles pool recorded slot s.pointer command := by
  have tracks := accounted.tracked slot s live
  have livePlain : pool.handle? slot = some (s.original recorded.shared.pointers) := by
    rw [projects.handle?, live]
    rfl
  unfold Settles
  split
  · rename_i error refused
    refine ⟨Pool.perform_unchanged livePlain ?_, Pool.perform_unchanged live ?_⟩
    · exact run_refused (tracks.original _) operation refused
    · exact run_refused tracks operation ((offer_recorded lib).symm ▸ refused)
  · rename_i accepted
    obtain ⟨calls, answer, d, sends, ran, grown⟩ :=
      run_accepted (c := ⟨recorded.toWorld, s⟩) tracks operation accepted
    have recordedAnswer : recorded.perform slot command = _ := Pool.perform_live live command
    rw [ran] at recordedAnswer
    refine ⟨calls, answer, sends, ?_, by rw [recordedAnswer], by rw [recordedAnswer]; exact grown⟩
    rw [(projects.perform accounted slot command).1, recordedAnswer]

def poolAfter (lib : Library σ) (memory : σ) (steps : List Pool.Step) :
    Pool (GuardedSolver lib) σ :=
  ((Pool.ofShared memory).steps steps).2

/-- Whatever was done before on whichever handles, an operation on a live handle is refused exactly
for what the calls on its solver say, and then nothing shows that it was tried: not the handle, not
the library, not the log. -/
theorem refusals_exact (lib : Library σ) (memory : σ) (steps : List Pool.Step) (slot : Nat)
    {handle : GuardedSolver lib} (live : (poolAfter lib memory steps).handle? slot = some handle)
    {command : Command} (operation : Operation command) :
    ∃ s, (poolAfter lib.recorded (.start memory) steps).handle? slot = some s ∧
      Settles (poolAfter lib memory steps) (poolAfter lib.recorded (.start memory) steps) slot
        s.pointer command := by
  have begins : Accounted (Pool.ofShared (Recording.start memory) : RecordedPool lib) :=
    accounted_start memory
  have together : Projects (Pool.ofShared (Recording.start memory) : RecordedPool lib)
      (Pool.ofShared memory) := projects_start memory
  have projects := (together.after begins steps).2
  have sameSlot := projects.handle? slot
  rw [show (Pool.steps _ steps).2.handle? slot = _ from live] at sameSlot
  obtain ⟨s, found, _⟩ := Option.map_eq_some_iff.mp sameSlot.symm
  exact ⟨s, found, settles_of_tracks projects (begins.steps steps) found operation⟩

section Samples

private def oddLibrary : Library Scripted.Memory := Scripted.library (.inProcess "scripted")

private def oddMemory : Scripted.Memory := ⟨Script.agreeable.withCodes [42], 0⟩

private def oddSteps : List Pool.Step :=
  [.create, .perform 0 (.add 1), .perform 0 (.add 0), .perform 0 .solve]

/-- A solve call with an undefined code was a solve call all the same. -/
theorem refusals_exact_after_undefined_code :
    (poolAfter oddLibrary oddMemory oddSteps).perform 0 (.add 2) =
      (some (.error .alreadySolved), poolAfter oddLibrary oddMemory oddSteps) := by
  have live : (poolAfter oddLibrary oddMemory oddSteps).handle? 0 =
      some ⟨0, .solved .unknown, false, ⟨1, 1, 1, 1⟩⟩ := by cbv
  have liveRecorded : (poolAfter oddLibrary.recorded (.start oddMemory) oddSteps).handle? 0 =
      some ⟨0, .solved .unknown, false, ⟨1, 1, 1, 1⟩⟩ := by cbv
  have refused : refusal? oddLibrary.offer
      (wordOf (poolAfter oddLibrary.recorded (.start oddMemory) oddSteps) 0) (.add 2) =
        some .alreadySolved := by cbv
  have operation : Operation (.add 2) := trivial
  obtain ⟨s, found, settles⟩ := refusals_exact oddLibrary oddMemory oddSteps 0 live operation
  rw [liveRecorded] at found
  cases found
  rw [Settles, refused] at settles
  exact settles.1

end Samples

end Pools

end SatBridge.Protocol
