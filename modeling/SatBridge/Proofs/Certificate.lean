import Mathlib
import SatBridge.Dimacs.Parser
import SatBridge.Library.Scripted
import SatBridge.Proofs.Dimacs.WellFormed
import SatBridge.Proofs.Guarded.Recorded
import SatBridge.Proofs.Guarded.Run
import SatBridge.Proofs.Report.Reading

/-!
# Verified answers

From the bytes of a formula to the lines of its model, over a library that may reply whatever it
likes. A checked satisfiable answer prints a certificate of the formula; and as long as the library
keeps to the values that the protocol defines, the check refuses exactly the models in which some
clause has no literal that a reply made true.
-/

set_option autoImplicit false

namespace SatBridge

open SolverM GuardedSolver

section Printing

/-- The integers that stand for values, for the variables from `var` on. -/
def Report.literals (var : Nat) (values : List (Option Bool)) : List Int :=
  (values.zipIdx var).map fun (value, var) =>
    if value = some true then (var : Int) else -(var : Int)

theorem Report.values_of_slots {model : Assignment} {values : List (Option Bool)}
    (slots : model.toList = none :: values) :
    Report.values model = Report.literals 1 values ++ [0] := by
  rw [Report.values, slots]
  rfl

theorem Report.natAbs_literals (var : Nat) (values : List (Option Bool)) :
    (Report.literals var values).map Int.natAbs = List.range' var values.length := by
  have sizes : ∀ entry : Option Bool × Nat,
      (if entry.1 = some true then (entry.2 : Int) else -(entry.2 : Int)).natAbs = entry.2 := by
    intro entry
    split <;> simp
  rw [Report.literals, List.map_map, ← List.zipIdx_map_snd]
  exact List.map_congr_left fun entry _ => sizes entry

theorem Report.signed_mem_literals {model : Assignment} {values : List (Option Bool)}
    (slots : model.toList = none :: values) {l : Literal} (proper : 1 ≤ l.index)
    (isTrue : l.eval model = some true) : l.signed ∈ Report.literals 1 values := by
  obtain ⟨position, located⟩ := Nat.exists_eq_add_of_le proper
  rw [Literal.eval_eq_some_true_iff, located, Assignment.value?_of_slots slots] at isTrue
  have found : values[position]? = some (some l.positive) := Option.join_eq_some_iff.mp isTrue
  have entry : (some l.positive, l.index) ∈ values.zipIdx 1 := by
    rw [located, List.mk_mem_zipIdx_iff_le_and_getElem?_sub]
    simpa using found
  refine List.mem_map.mpr ⟨_, entry, ?_⟩
  cases sign : l.positive <;> simp [Literal.signed, sign]

end Printing

/-- The value lines of the text give each variable of the formula one value, and each clause has a
literal among them. -/
def Certifies (text : String) (f : Formula) : Prop :=
  ∃ literals, Report.readValues? text = some (literals ++ [0]) ∧
    literals.map Int.natAbs = List.range' 1 f.numVars ∧
    ∀ c ∈ f.clauses, ∃ l ∈ c, ∃ value ∈ literals, l.toInt? = .ok value

theorem certifies_of_model {f : Formula} (wellFormed : f.WellFormed) {outcome : Outcome}
    {model : Assignment} {values : List (Option Bool)} (present : outcome.model = some model)
    (slots : model.toList = none :: values) (counted : values.length = f.numVars)
    (holds : ∀ c ∈ f.clauses, Clause.eval model c = some true) (elapsed : Duration) :
    Certifies (Report.textOfLines (Report.outcomeLines elapsed outcome)) f := by
  refine ⟨Report.literals 1 values, ?_, ?_, ?_⟩
  · rw [Report.readValues?_outcomeLines, present]
    exact congrArg some (Report.values_of_slots slots)
  · rw [Report.natAbs_literals, counted]
  · intro c member
    obtain ⟨l, inClause, isTrue⟩ := Clause.eval_eq_some_true_iff.mp (holds c member)
    obtain ⟨proper, bounded⟩ := wellFormed.literal member inClause
    refine ⟨l, inClause, l.signed, Report.signed_mem_literals slots proper isTrue, ?_⟩
    exact Literal.toInt?_of_le bounded

/-- Some reply made a literal of the clause true. -/
def Confirmed (calls : Array Call) (c : Clause) : Prop :=
  ∃ l ∈ c, ∃ solver reply, .value solver l.index reply ∈ calls ∧ l.toInt? = .ok reply

section Confirmation

variable {calls : Array Call} {before : List Call} {solver : Nat} {replies : List Int}
  {values : List (Option Bool)}

/-- The replies are in the record exactly once, and nowhere before the solve call. -/
theorem mem_calls_iff
    (asked : calls.toList = before ++ .solve solver 10 :: valueCalls solver 1 replies)
    (silent : ∀ call ∈ before, ¬ Asks call) {number : Nat} {literal reply : Int} :
    .value number literal reply ∈ calls ↔
      .value number literal reply ∈ valueCalls solver 1 replies := by
  rw [← Array.mem_toList_iff, asked, List.mem_append, List.mem_cons]
  constructor
  · intro somewhere
    obtain early | same | queried := somewhere
    · exact absurd trivial (silent _ early)
    · cases same
    · exact queried
  · exact fun queried => .inr (.inr queried)

theorem eval_eq_some_true_iff_replied
    (asked : calls.toList = before ++ .solve solver 10 :: valueCalls solver 1 replies)
    (silent : ∀ call ∈ before, ¬ Asks call) (decoded : decodeValues 1 replies = .ok values)
    {l : Literal} (proper : 1 ≤ l.index) (bounded : l.index ≤ maxVar) :
    l.eval (none :: values).toArray = some true ↔
      ∃ solver reply, .value solver l.index reply ∈ calls ∧ l.toInt? = .ok reply := by
  obtain ⟨position, located⟩ := Nat.exists_eq_add_of_le proper
  have slots : (none :: values).toArray.toList = none :: values := rfl
  rw [Literal.eval_eq_some_true_iff, located, Assignment.value?_of_slots slots,
    Option.join_eq_some_iff, getElem?_decodeValues_iff decoded position, ← located]
  constructor
  · intro valued
    obtain ⟨reply, found, stands⟩ := valued
    rw [decodeValue_eq_some_iff proper] at stands
    subst stands
    refine ⟨solver, l.signed, (mem_calls_iff asked silent).mpr ?_, Literal.toInt?_of_le bounded⟩
    exact mem_valueCalls_iff.mpr ⟨position, l.signed, found, by rw [← located]⟩
  · intro replied
    obtain ⟨number, reply, queried, given⟩ := replied
    rw [Literal.toInt?_of_le bounded] at given
    cases given
    obtain ⟨slot, reply, found, same⟩ :=
      mem_valueCalls_iff.mp ((mem_calls_iff asked silent).mp queried)
    obtain ⟨_, sameVar, rfl⟩ := Call.value.inj same
    have samePosition : slot = position := by omega
    exact ⟨l.signed, samePosition ▸ found, (decodeValue_eq_some_iff proper).mpr rfl⟩

theorem confirmed_iff_eval
    (asked : calls.toList = before ++ .solve solver 10 :: valueCalls solver 1 replies)
    (silent : ∀ call ∈ before, ¬ Asks call) (decoded : decodeValues 1 replies = .ok values)
    {f : Formula} (wellFormed : f.WellFormed) {c : Clause} (member : c ∈ f.clauses) :
    Confirmed calls c ↔ Clause.eval (none :: values).toArray c = some true := by
  rw [Clause.eval_eq_some_true_iff]
  refine exists_congr fun l => and_congr_right fun inClause => ?_
  obtain ⟨proper, bounded⟩ := wellFormed.literal member inClause
  exact (eval_eq_some_true_iff_replied asked silent decoded proper bounded).symm

end Confirmation

/-- What becomes of a run whose library calls the formula satisfiable and replies with values. -/
structure Judged (f : Formula) (result : Except Error Outcome) (calls : Array Call) : Prop where
  /-- There was one solve call, and after it one query for each variable in turn. -/
  asked : ∃ before solver replies, replies.length = f.numVars ∧
    calls.toList = before ++ .solve solver 10 :: valueCalls solver 1 replies ∧
    ∀ call ∈ before, ¬ Asks call
  fails_iff : (∃ error, result = .error error) ↔ ∃ c ∈ f.clauses, ¬ Confirmed calls c
  /-- The error names the first clause without a true literal. -/
  least : ∀ error, result = .error error → ∃ index, error = .modelRefuted index ∧
    (∃ c, f.clauses[index]? = some c ∧ ¬ Confirmed calls c) ∧
    ∀ c ∈ f.clauses.take index, Confirmed calls c

theorem judged_of_check {f : Formula} (wellFormed : f.WellFormed)
    {result : Except Error Outcome} {calls : Array Call} {before : List Call} {solver : Nat}
    {replies : List Int} {values : List (Option Bool)} (counted : replies.length = f.numVars)
    (asked : calls.toList = before ++ .solve solver 10 :: valueCalls solver 1 replies)
    (silent : ∀ call ∈ before, ¬ Asks call) (decoded : decodeValues 1 replies = .ok values)
    (checked : match f.firstUnsatisfied (none :: values).toArray with
      | some index => result = .error (.modelRefuted index)
      | none => ∃ outcome, result = .ok outcome) : Judged f result calls := by
  have confirmed : ∀ c ∈ f.clauses,
      (Confirmed calls c ↔ Clause.eval (none :: values).toArray c = some true) :=
    fun c member => confirmed_iff_eval asked silent decoded wellFormed member
  cases refuted : f.firstUnsatisfied (none :: values).toArray with
  | none =>
      rw [refuted] at checked
      obtain ⟨outcome, rfl⟩ := checked
      have holds := Formula.firstUnsatisfied_eq_none_iff.mp refuted
      refine ⟨⟨before, solver, replies, counted, asked, silent⟩, ⟨?_, ?_⟩, ?_⟩
      · intro fails
        obtain ⟨error, failed⟩ := fails
        cases failed
      · intro unconfirmed
        obtain ⟨c, member, open_⟩ := unconfirmed
        exact absurd ((confirmed c member).mpr (holds c member)) open_
      · intro error failed
        cases failed
  | some index =>
      rw [refuted] at checked
      subst checked
      obtain ⟨⟨c, found, falsified⟩, least⟩ := Formula.firstUnsatisfied_eq_some_iff.mp refuted
      have member := List.mem_of_getElem? found
      have unconfirmed : ¬ Confirmed calls c := fun held => falsified ((confirmed c member).mp held)
      refine ⟨⟨before, solver, replies, counted, asked, silent⟩, ?_, ?_⟩
      · exact ⟨fun _ => ⟨c, member, unconfirmed⟩, fun _ => ⟨_, rfl⟩⟩
      · intro error failed
        cases failed
        refine ⟨index, rfl, ⟨c, found, unconfirmed⟩, fun d early => ?_⟩
        exact (confirmed d (List.mem_of_mem_take early)).mpr (least d early)

variable {σ : Type} {lib : Library σ}

theorem judged_of_meaningful {f : Formula} (wellFormed : f.WellFormed) {settings : Settings}
    (verified : settings.verify = true)
    (clean : ∀ setting ∈ settings.options, '\x00' ∉ setting.1.toList) {solver : Nat}
    {c : Context (GuardedSolver lib.recorded) (Recording σ)}
    (began : c.shared.calls.toList = [.init (some solver)])
    (created : c.handle = ⟨solver, .configuring, false, .zero⟩)
    (meaningful : Meaningful ((Solver.solveFormula f settings).run c).2.shared.calls) :
    Judged f ((Solver.solveFormula f settings).run c).1
      ((Solver.solveFormula f settings).run c).2.shared.calls := by
  have fresh : Fresh c := by simp [Fresh, created]
  have primitives :
      Backend.Keeps (H := GuardedSolver lib.recorded) (Protocol.Following solver c.shared) :=
    Protocol.keeps_following solver c.shared
  obtain ⟨fed, ready, followsFed, prepared⟩ :=
    run_prepared wellFormed clean primitives fresh (following_created began created)
  have silent := not_asks_of_ready began followsFed ready
  obtain ⟨code, solved, answered, number, phase, called⟩ := run_solve_recorded ready
  have followsSolved : Protocol.Following solver c.shared solved := by
    have kept := primitives.solve fed followsFed
    change Protocol.Following solver c.shared
      ((GuardedSolver.solve : SolverM (GuardedSolver lib.recorded) (Recording σ) Status).run fed).2
      at kept
    rwa [answered] at kept
  have satisfiable : code = 10 := by
    refine meaningful.satisfiable fed.handle.pointer code ?_
    rw [prepared]
    exact mem_calls_of_solved followsSolved answered (by rw [called]; simp)
  subst satisfiable
  have concluded := prepared.trans (run_bind_ok answered (Solver.conclude f settings))
  rw [concluded] at meaningful ⊢
  obtain ⟨replies, values, counted, decoded, asked, checked⟩ :=
    run_conclude_sat wellFormed.1 verified phase meaningful
  have whole : ((Solver.conclude f settings .sat).run solved).2.shared.calls.toList =
      fed.shared.calls.toList ++
        .solve fed.handle.pointer 10 :: valueCalls fed.handle.pointer 1 replies := by
    rw [asked, called, number, List.append_assoc]
    rfl
  exact judged_of_check wellFormed counted whole silent decoded checked

/-- A verified satisfiable answer can be trusted whatever the library replies, and replies that
stand for values are refused only when they satisfy no model of the formula. -/
theorem verified_answers_certified {source : Source} {f : Formula}
    (parsed : Dimacs.parse source = .ok f) {settings : Settings}
    (verified : settings.verify = true) (lib : Library σ) (memory : σ) (log : Log) :
    (∀ handle world outcome c,
      (create lib).run ⟨memory, log⟩ = (.ok handle, world) →
      (Solver.solveFormula f settings).run ⟨world, handle⟩ = (.ok outcome, c) →
      outcome.status = .sat →
      Satisfiable f.clauses ∧
        ∀ elapsed, Certifies (Report.textOfLines (Report.outcomeLines elapsed outcome)) f) ∧
    (∀ handle world result c,
      (create lib).run ⟨memory, log⟩ = (.ok handle, world) →
      (Solver.solveFormula f settings).run ⟨world, handle⟩ = (result, c) →
      (∀ setting ∈ settings.options, '\x00' ∉ setting.1.toList) →
      ∃ recorded recording d,
        (create lib.recorded).run ⟨.start memory, log⟩ = (.ok recorded, recording) ∧
        (Solver.solveFormula f settings).run ⟨recording, recorded⟩ = (result, d) ∧
        (Meaningful d.shared.calls → Judged f result d.shared.calls)) := by
  have wellFormed := Dimacs.wellFormed_of_parse parsed
  constructor
  · intro handle world outcome c _ ran sat
    obtain ⟨model, values, present, slots, counted, holds⟩ :=
      Solver.model_of_verified verified ran sat
    exact ⟨⟨_, satisfies_of_eval holds⟩,
      certifies_of_model wellFormed present slots counted holds⟩
  · intro handle world result c created ran clean
    obtain ⟨recorded, recording, createdRecorded, shadowed⟩ := create_shadows created
    obtain ⟨solver, began, fresh⟩ := create_recorded createdRecorded
    obtain ⟨same, _⟩ := shadows.solveFormula trivial (fun _ _ _ _ _ _ => trivial)
      (fun _ _ _ => trivial) settings _ _ shadowed
    rw [ran] at same
    have judged := judged_of_meaningful wellFormed verified clean (c := ⟨recording, recorded⟩)
      began fresh
    refine ⟨recorded, recording, _, createdRecorded, run_of_result same.symm, fun meaningful => ?_⟩
    have verdict := judged meaningful
    rwa [← same] at verdict

section Samples

private def sampleFormula : Formula := ⟨2, [[⟨1, true⟩, ⟨2, false⟩], [⟨2, true⟩]]⟩

private def sampleSettings : Settings := ⟨[("seed", 7)], some 5, none, false, true⟩

private def sampleLibrary : Library Scripted.Memory := Scripted.library (.inProcess "scripted")

private def sampleHandle {σ : Type} {lib : Library σ} : GuardedSolver lib :=
  ⟨0, .configuring, false, .zero⟩

/-- Every literal is true. -/
private def agreeable : Scripted.Memory := ⟨.agreeable, 0⟩

/-- The second variable has no value. -/
private def silent : Scripted.Memory := ⟨{ Script.agreeable with replies := [(2, 0)] }, 0⟩

private def createdIn (memory : Scripted.Memory) : World Scripted.Memory :=
  ⟨{ memory with allocated := 1 }, #[.solverCreated 0 sampleLibrary.origin]⟩

private def recordedIn (memory : Scripted.Memory) : World (Recording Scripted.Memory) :=
  ⟨⟨{ memory with allocated := 1 }, #[0], #[.init (some 0)]⟩,
    #[.solverCreated 0 sampleLibrary.origin]⟩

private def sampleRun (memory : Scripted.Memory) :
    Except Error Outcome × Context (GuardedSolver sampleLibrary) Scripted.Memory :=
  (Solver.solveFormula sampleFormula sampleSettings).run ⟨createdIn memory, sampleHandle⟩

private def recordedRun (memory : Scripted.Memory) : Except Error Outcome ×
    Context (GuardedSolver sampleLibrary.recorded) (Recording Scripted.Memory) :=
  (Solver.solveFormula sampleFormula sampleSettings).run ⟨recordedIn memory, sampleHandle⟩

/-- One library gives the sample a model, the other leaves its second clause open. -/
theorem verified_answers_sample :
    Dimacs.parseText "p cnf 2 2\n1 -2 0\n2 0\n" = .ok sampleFormula ∧
    (∀ elapsed, Certifies (Report.textOfLines (Report.outcomeLines elapsed
      ⟨.sat, some #[none, some true, some true], ⟨1, 2, 3, 2⟩⟩)) sampleFormula) ∧
    Judged sampleFormula (.error (.modelRefuted 1))
      #[.init (some 0), .setOption 0 "seed" 7 (-1), .setConflictLimit 0 5, .add 0 1, .add 0 (-2),
        .add 0 0, .add 0 2, .add 0 0, .solve 0 10, .value 0 1 1, .value 0 2 0] := by
  have parsed : Dimacs.parseText "p cnf 2 2\n1 -2 0\n2 0\n" = .ok sampleFormula := by cbv
  have answered : (sampleRun agreeable).1 =
      .ok ⟨.sat, some #[none, some true, some true], ⟨1, 2, 3, 2⟩⟩ := by cbv
  have refused : (sampleRun silent).1 = .error (.modelRefuted 1) := by cbv
  have calls : (recordedRun silent).2.shared.calls =
      #[.init (some 0), .setOption 0 "seed" 7 (-1), .setConflictLimit 0 5, .add 0 1, .add 0 (-2),
        .add 0 0, .add 0 2, .add 0 0, .solve 0 10, .value 0 1 1, .value 0 2 0] := by cbv
  have meaningful : Meaningful (recordedRun silent).2.shared.calls := by
    rw [calls]
    refine ⟨by simp, fun solver literal reply member => ?_⟩
    simp only [List.mem_toArray, List.mem_cons, reduceCtorEq, Call.value.injEq, false_or,
      List.not_mem_nil, or_false] at member
    omega
  have verified : sampleSettings.verify = true := rfl
  obtain ⟨trusted, _⟩ := verified_answers_certified parsed verified sampleLibrary agreeable #[]
  obtain ⟨_, judged⟩ := verified_answers_certified parsed verified sampleLibrary silent #[]
  obtain ⟨recorded, recording, d, created, ran, judge⟩ :=
    judged sampleHandle (createdIn silent) _ _ rfl (run_of_result refused) (by decide)
  have began : (create sampleLibrary.recorded).run ⟨.start silent, #[]⟩ =
      (.ok sampleHandle, recordedIn silent) := rfl
  obtain ⟨sameHandle, rfl⟩ := Prod.mk.inj (began.symm.trans created)
  obtain rfl : sampleHandle = recorded := Except.ok.inj sameHandle
  obtain rfl : (recordedRun silent).2 = d := congrArg Prod.snd ran
  refine ⟨parsed, (trusted sampleHandle (createdIn agreeable) _ _ rfl (run_of_result answered)
    rfl).2, ?_⟩
  rw [← calls]
  exact judge meaningful

end Samples

end SatBridge
