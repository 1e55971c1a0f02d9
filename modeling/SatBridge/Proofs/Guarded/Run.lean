import SatBridge.Proofs.Backend.Solve
import SatBridge.Proofs.Protocol.Handle

/-!
# One run on a guarded solver

What happens from a fresh handle to the conclusion, call by call. Settings and clauses are never
refused, since names without a zero byte and literals in range are all that the guards ask for. The
replies to the value queries then decide what the model is, or which reply makes it undefined.
-/

set_option autoImplicit false

namespace SatBridge.GuardedSolver

open SolverM

variable {σ : Type} {lib : Library σ}

section Preparation

theorem create_recorded {memory : σ} {log : Log} {handle : GuardedSolver lib.recorded}
    {world : World (Recording σ)}
    (created : (create lib.recorded).run ⟨.start memory, log⟩ = (.ok handle, world)) :
    ∃ solver, world.shared.calls.toList = [.init (some solver)] ∧
      handle = ⟨solver, .configuring, false, .zero⟩ := by
  cases reply : (lib.init memory).value with
  | none =>
      obtain ⟨null, _, _⟩ := Protocol.init_null (r := .start memory) reply
      obtain ⟨_, failed⟩ : ∃ after, (create lib.recorded).run ⟨.start memory, log⟩ =
          (.error .nullHandle, ⟨(lib.recorded.init (.start memory)).memory, after⟩) :=
        run_create_null null
      rw [failed] at created
      cases created
  | some pointer =>
      obtain ⟨given, _, calls⟩ := Protocol.init_given (r := .start memory) reply
      obtain ⟨_, succeeded⟩ : ∃ after, (create lib.recorded).run ⟨.start memory, log⟩ =
          (.ok ⟨_, .configuring, false, .zero⟩,
            ⟨(lib.recorded.init (.start memory)).memory, after⟩) :=
        run_create given
      rw [succeeded] at created
      cases created
      exact ⟨_, congrArg Array.toList calls, rfl⟩

/-- Options may still be set. -/
def Fresh (c : Context (GuardedSolver lib) σ) : Prop :=
  c.handle.phase = .configuring ∧ c.handle.midClause = false

def Unsolved (c : Context (GuardedSolver lib) σ) : Prop :=
  c.handle.result? = none

/-- The solve call may be made. -/
def Ready (c : Context (GuardedSolver lib) σ) : Prop :=
  Unsolved c ∧ c.handle.midClause = false

theorem Fresh.unsolved {c : Context (GuardedSolver lib) σ} (fresh : Fresh c) : Unsolved c := by
  simp [Unsolved, result?, fresh.1]

theorem passes_applyOption {name : String} (clean : '\x00' ∉ name.toList) (value : Int) :
    Passes Fresh (Settings.applyOption name value : SolverM (GuardedSolver lib) σ Unit) := by
  refine passes_tolerate (fun _ _ holds => holds) fun c fresh => ?_
  cases offered : lib.setOption with
  | none =>
      refine ⟨c, .inr ⟨.option, ?_⟩, fresh⟩
      exact run_bind_error (run_setOption_unsupported offered name value) _
  | some entry =>
      obtain ⟨log, ran⟩ := run_setOption offered fresh.1 clean value
      exact ⟨_, .inl (run_bind_ok ran _), fresh⟩

theorem passes_setLimit (feature : Feature) (entry : Option (Pointer → Nat → Entry σ Unit))
    (limit : Nat) :
    Passes Fresh (Settings.tolerate (setLimit feature entry limit) :
      SolverM (GuardedSolver lib) σ Unit) := by
  refine passes_tolerate (fun _ _ holds => holds) fun c fresh => ?_
  cases entry with
  | none => exact ⟨c, .inr ⟨feature, run_setLimit_unsupported feature limit⟩, fresh⟩
  | some entry =>
      obtain ⟨log, ran⟩ := run_setLimit fresh.unsolved feature entry limit
      exact ⟨_, .inl ran, fresh⟩

theorem passes_apply {settings : Settings}
    (clean : ∀ setting ∈ settings.options, '\x00' ∉ setting.1.toList) :
    Passes Fresh (settings.apply : SolverM (GuardedSolver lib) σ Unit) :=
  SolverM.passes_apply (fun setting member => passes_applyOption (clean setting member) setting.2)
    (passes_setLimit .conflictLimit lib.setConflictLimit)
    (passes_setLimit .decisionLimit lib.setDecisionLimit)

theorem passes_add (value : Int) :
    Passes Unsolved (Backend.add value : SolverM (GuardedSolver lib) σ Unit) := by
  intro c unsolved
  obtain ⟨log, ran⟩ := run_add unsolved value
  exact ⟨(), _, ran, rfl⟩

theorem passes_literal {l : Literal} (bounded : l.index ≤ maxVar) :
    Passes Unsolved (do Backend.add (← l.toInt?) : SolverM (GuardedSolver lib) σ Unit) := by
  rw [Literal.toInt?_of_le bounded]
  exact reaches_bind (passes_pure _) passes_add

theorem reaches_terminator :
    Reaches Unsolved Ready (Backend.add 0 : SolverM (GuardedSolver lib) σ Unit) := by
  intro c unsolved
  obtain ⟨log, ran⟩ := run_add unsolved 0
  exact ⟨(), _, ran, rfl, by simp⟩

theorem reaches_addClause {clause : Clause} (bounded : ∀ l ∈ clause, l.index ≤ maxVar) :
    Reaches Unsolved Ready (Solver.addClause clause : SolverM (GuardedSolver lib) σ Unit) :=
  reaches_bind (passes_forM fun l member => passes_literal (bounded l member)) fun _ =>
    reaches_terminator

theorem passes_feed {f : Formula} (wellFormed : f.WellFormed) :
    Passes Ready (Solver.feed f : SolverM (GuardedSolver lib) σ Unit) := by
  refine passes_forM fun clause member c ready => ?_
  have bounded : ∀ l ∈ clause, l.index ≤ maxVar := fun l inClause =>
    (wellFormed.literal member inClause).2
  exact reaches_addClause bounded c ready.1

theorem run_prepared {f : Formula} (wellFormed : f.WellFormed) {settings : Settings}
    (clean : ∀ setting ∈ settings.options, '\x00' ∉ setting.1.toList)
    {kept : Context (GuardedSolver lib) σ → Prop}
    (primitives : Backend.Keeps (H := GuardedSolver lib) kept)
    {c : Context (GuardedSolver lib) σ} (fresh : Fresh c) (holds : kept c) :
    ∃ fed, Ready fed ∧ kept fed ∧ (Solver.solveFormula f settings).run c =
      ((GuardedSolver.solve : SolverM (GuardedSolver lib) σ Status) >>=
        Solver.conclude f settings).run fed := by
  have configured := reaches_keeping (passes_apply clean) (primitives.apply settings)
  have filled := reaches_keeping (passes_feed wellFormed) (primitives.feed f)
  have started : Reaches (fun c => Fresh c ∧ kept c) (fun c => Ready c ∧ kept c)
      (Solver.feed f : SolverM (GuardedSolver lib) σ Unit) := by
    intro c both
    obtain ⟨fresh, holds⟩ := both
    exact filled c ⟨⟨fresh.unsolved, fresh.2⟩, holds⟩
  obtain ⟨fed, ⟨ready, keptFed⟩, prepared⟩ :=
    Solver.run_solveFormula configured started
      (fun d event holds => ⟨holds.1, primitives.record event d holds.2⟩) ⟨fresh, holds⟩
  exact ⟨fed, ready, keptFed, prepared⟩

end Preparation

section Replies

/-- The value queries for the variables from `var` on, one for each reply. -/
def valueCalls (solver : Nat) : (var : Nat) → List Int → List Call
  | _, [] => []
  | var, reply :: replies => .value solver var reply :: valueCalls solver (var + 1) replies

/-- The values that the replies for the variables from `var` on stand for. -/
def decodeValues : (var : Nat) → List Int → Except Error (List (Option Bool))
  | _, [] => .ok []
  | var, reply :: replies =>
    match decodeValue var reply with
    | .error error => .error error
    | .ok value =>
      match decodeValues (var + 1) replies with
      | .error error => .error error
      | .ok values => .ok (value :: values)

/-- A reply that says something about the variable, or that it has no value. -/
def Stands (var : Nat) (reply : Int) : Prop :=
  reply = var ∨ reply = -(var : Int) ∨ reply = 0

/-- One reply for each of the `count` variables from `var` on, unless one of them does not stand for
a value: then it is the last. -/
inductive InTurn : (count var : Nat) → List Int → Prop where
  | done {var} : InTurn 0 var []
  | undefined {count var reply} : ¬ Stands var reply → InTurn (count + 1) var [reply]
  | next {count var reply replies} :
      Stands var reply → InTurn count (var + 1) replies → InTurn (count + 1) var (reply :: replies)

theorem decodeValue_defined_iff {var : Nat} {reply : Int} :
    (∃ value, decodeValue var reply = .ok value) ↔ Stands var reply := by
  unfold decodeValue Stands
  split
  · exact ⟨fun _ => .inr (.inr ‹_›), fun _ => ⟨none, rfl⟩⟩
  split
  · exact ⟨fun _ => .inl ‹_›, fun _ => ⟨some true, rfl⟩⟩
  split
  · exact ⟨fun _ => .inr (.inl ‹_›), fun _ => ⟨some false, rfl⟩⟩
  · constructor
    · rintro ⟨value, accepted⟩
      cases accepted
    · omega

theorem InTurn.length_eq {count var : Nat} {replies : List Int} (inTurn : InTurn count var replies)
    {values : List (Option Bool)} (decoded : decodeValues var replies = .ok values) :
    replies.length = count := by
  induction inTurn generalizing values with
  | done => rfl
  | @undefined count var reply undefined =>
      simp only [decodeValues] at decoded
      split at decoded
      · cases decoded
      · rename_i value accepted
        exact absurd (decodeValue_defined_iff.mp ⟨value, accepted⟩) undefined
  | @next count var reply replies _ _ ih =>
      simp only [decodeValues] at decoded
      split at decoded
      · cases decoded
      · split at decoded
        · cases decoded
        · rename_i rest later
          rw [List.length_cons, ih later]

theorem run_value_recorded {c : Context (GuardedSolver lib.recorded) (Recording σ)}
    (satisfied : c.handle.phase = .solved .sat) {var : Nat} (valid : 1 ≤ var ∧ var ≤ maxVar) :
    ∃ reply d, (value var).run c = (decodeValue var reply, d) ∧ d.handle = c.handle ∧
      d.shared.calls.toList = c.shared.calls.toList ++ [.value c.handle.pointer var reply] := by
  obtain ⟨log, ran⟩ := run_value satisfied valid
  refine ⟨_, _, ran, rfl, ?_⟩
  simp [Library.recorded, Recording.perform]

/-- Reading a model asks for one variable after the other, up to the first reply that is none. -/
theorem run_readValues (count : Nat) (model : Assignment)
    {c : Context (GuardedSolver lib.recorded) (Recording σ)}
    (satisfied : c.handle.phase = .solved .sat) (proper : 1 ≤ model.size)
    (bounded : model.size + count ≤ maxVar + 1) :
    ∃ replies d, (Solver.readValues count model).run c =
        ((decodeValues model.size replies).map fun values => model ++ values.toArray, d) ∧
      d.handle = c.handle ∧
      d.shared.calls.toList =
        c.shared.calls.toList ++ valueCalls c.handle.pointer model.size replies ∧
      InTurn count model.size replies := by
  induction count generalizing model c with
  | zero =>
      refine ⟨[], c, ?_, rfl, (List.append_nil _).symm, .done⟩
      simp [Solver.readValues, decodeValues, Except.map]
  | succ count ih =>
      obtain ⟨reply, between, ran, sameHandle, called⟩ :=
        run_value_recorded satisfied ⟨proper, by omega⟩
      cases decoded : decodeValue model.size reply with
      | error error =>
          rw [decoded] at ran
          have undefined : ¬ Stands model.size reply := by
            rw [← decodeValue_defined_iff, decoded]
            simp
          refine ⟨[reply], between, ?_, sameHandle, called, .undefined undefined⟩
          simp only [decodeValues, decoded]
          exact run_bind_error ran _
      | ok value =>
          rw [decoded] at ran
          rw [← sameHandle] at satisfied
          have grownProper : 1 ≤ (model.push value).size := by simp
          have grownBounded : (model.push value).size + count ≤ maxVar + 1 := by
            rw [Array.size_push]
            omega
          obtain ⟨replies, d, later, stillSame, calls, inTurn⟩ :=
            ih (model.push value) satisfied grownProper grownBounded
          rw [Array.size_push] at later calls inTurn
          have stands := decodeValue_defined_iff.mp ⟨value, decoded⟩
          refine ⟨reply :: replies, d, ?_, stillSame.trans sameHandle, ?_, .next stands inTurn⟩
          · rw [Solver.readValues]
            refine (run_bind_ok ran _).trans (later.trans ?_)
            simp only [decodeValues, decoded]
            cases decodeValues (model.size + 1) replies with
            | error error => rfl
            | ok values => simp [Except.map]
          · rw [calls, called, sameHandle, List.append_assoc]
            rfl

theorem mem_valueCalls_iff {solver var : Nat} {replies : List Int} {call : Call} :
    call ∈ valueCalls solver var replies ↔
      ∃ position reply, replies[position]? = some reply ∧
        call = .value solver (var + position : Nat) reply := by
  induction replies generalizing var with
  | nil => simp [valueCalls]
  | cons first rest ih =>
      rw [valueCalls, List.mem_cons, ih]
      constructor
      · intro asked
        obtain rfl | ⟨position, reply, found, rfl⟩ := asked
        · exact ⟨0, first, rfl, rfl⟩
        · exact ⟨position + 1, reply, found, by rw [Nat.add_right_comm, Nat.add_assoc]⟩
      · intro asked
        obtain ⟨position, reply, found, rfl⟩ := asked
        cases position with
        | zero =>
            cases found
            exact .inl rfl
        | succ position =>
            exact .inr ⟨position, reply, found, by rw [Nat.add_right_comm, Nat.add_assoc]⟩

theorem decodeValue_eq_some_iff {l : Literal} (proper : 1 ≤ l.index) {reply : Int} :
    decodeValue l.index reply = .ok (some l.positive) ↔ reply = l.signed := by
  have nonzero : l.index ≠ 0 := by omega
  have distinct : (l.index : Int) ≠ -(l.index : Int) := by omega
  unfold decodeValue Literal.signed
  by_cases silent : reply = 0
  · cases l.positive <;> simp [silent] <;> omega
  by_cases affirmed : reply = l.index
  · cases l.positive <;> simp [affirmed, nonzero, distinct]
  by_cases denied : reply = -(l.index : Int)
  · cases l.positive <;> simp [denied, distinct.symm, nonzero]
  · cases l.positive <;> simp [silent, affirmed, denied]

theorem getElem?_decodeValues_iff {var : Nat} {replies : List Int} {values : List (Option Bool)}
    (decoded : decodeValues var replies = .ok values) (position : Nat) {value : Option Bool} :
    values[position]? = some value ↔
      ∃ reply, replies[position]? = some reply ∧
        decodeValue (var + position) reply = .ok value := by
  induction replies generalizing var values position with
  | nil =>
      cases decoded
      simp
  | cons reply rest ih =>
      unfold decodeValues at decoded
      split at decoded
      · cases decoded
      · rename_i own first
        split at decoded
        · cases decoded
        · rename_i later decodedRest
          cases decoded
          cases position with
          | zero => simp [first]
          | succ position =>
              have next := ih decodedRest position
              rw [Nat.add_right_comm, Nat.add_assoc] at next
              exact next

theorem decodeValues_defined {var : Nat} {replies : List Int}
    (defined : ∀ position reply, replies[position]? = some reply →
      ∃ value, decodeValue (var + position) reply = .ok value) :
    ∃ values, decodeValues var replies = .ok values := by
  induction replies generalizing var with
  | nil => exact ⟨[], rfl⟩
  | cons reply rest ih =>
      obtain ⟨value, first⟩ := defined 0 reply rfl
      rw [Nat.add_zero] at first
      have shifted : ∀ position reply, rest[position]? = some reply →
          ∃ value, decodeValue (var + 1 + position) reply = .ok value := by
        intro position reply found
        rw [Nat.add_right_comm, Nat.add_assoc]
        exact defined (position + 1) reply found
      obtain ⟨values, later⟩ := ih shifted
      exact ⟨value :: values, by simp [decodeValues, first, later]⟩

end Replies

section Answers

def Asks : Call → Prop
  | .solve .. | .value .. => True
  | _ => False

/-- The solve call is answered by the code of a satisfiable formula, and each value query by a
literal of its variable or by zero. -/
structure Meaningful (calls : Array Call) : Prop where
  satisfiable : ∀ solver code, .solve solver code ∈ calls → code = 10
  defined : ∀ solver literal reply, .value solver literal reply ∈ calls →
    reply = literal ∨ reply = -literal ∨ reply = 0

theorem not_asks_of_unsolved {word : List Call} (conforms : Protocol.SingleShot word)
    (unsolved : ¬ Protocol.Solved word) : ∀ call ∈ word, ¬ Asks call := by
  intro call member asks
  cases call with
  | solve solver code => exact unsolved ⟨solver, code, member⟩
  | value solver literal reply =>
      obtain ⟨before, after, rfl⟩ := List.append_of_mem member
      obtain ⟨_, ⟨other, solved⟩, _⟩ := conforms before _ after rfl
      exact unsolved ⟨other, 10, List.mem_append_left _ solved⟩
  | _ => exact asks

theorem following_created {c : Context (GuardedSolver lib.recorded) (Recording σ)} {solver : Nat}
    (began : c.shared.calls.toList = [.init (some solver)])
    (created : c.handle = ⟨solver, .configuring, false, .zero⟩) :
    Protocol.Following solver c.shared c := by
  have onlyInit : callsOn solver c.shared.calls.toList = [.init (some solver)] := by
    simp [began, callsOn, Call.solver?]
  refine ⟨by rw [created], .refl solver c.shared, ?_⟩
  rw [created, onlyInit]
  exact Protocol.tracks_fresh solver solver

/-- Before the solve call nothing was asked, if all calls since the init are on one solver. -/
theorem not_asks_of_ready {base : Recording σ} {solver : Nat}
    {c : Context (GuardedSolver lib.recorded) (Recording σ)}
    (began : base.calls.toList = [.init (some solver)])
    (follows : Protocol.Following solver base c) (ready : Ready c) :
    ∀ call ∈ c.shared.calls.toList, ¬ Asks call := by
  obtain ⟨extra, calls, own⟩ := follows.grew.calls
  have ownCalls : callsOn solver c.shared.calls.toList = c.shared.calls.toList := by
    refine callsOn_eq_self fun call member => ?_
    rw [calls, began] at member
    rcases List.mem_append.mp member with first | later
    · rw [List.mem_singleton.mp first]
      rfl
    · exact own call later
  have tracks := follows.tracks
  rw [ownCalls] at tracks
  exact not_asks_of_unsolved tracks.conforms (tracks.unsolved.mp ready.1)

theorem run_solve_recorded {c : Context (GuardedSolver lib.recorded) (Recording σ)}
    (ready : Ready c) :
    ∃ code d, (solve : SolverM (GuardedSolver lib.recorded) (Recording σ) Status).run c =
        (Status.ofCode? code, d) ∧
      d.handle.pointer = c.handle.pointer ∧
      d.handle.phase = .solved ((Status.ofCode? code).toOption.getD .unknown) ∧
      d.shared.calls.toList = c.shared.calls.toList ++ [.solve c.handle.pointer code] := by
  obtain ⟨log, ran⟩ := run_solve ready.1 ready.2
  refine ⟨_, _, ran, rfl, rfl, ?_⟩
  simp [Library.recorded, Recording.perform]

/-- The code of the solve call stays in the record whatever is concluded from it. -/
theorem mem_calls_of_solved {solver : Nat} {base : Recording σ} {f : Formula} {settings : Settings}
    {fed d : Context (GuardedSolver lib.recorded) (Recording σ)} {code : Int}
    (follows : Protocol.Following solver base d)
    (answered : (solve : SolverM (GuardedSolver lib.recorded) (Recording σ) Status).run fed =
      (Status.ofCode? code, d)) {call : Call} (member : call ∈ d.shared.calls.toList) :
    call ∈ (((solve : SolverM (GuardedSolver lib.recorded) (Recording σ) Status) >>=
      Solver.conclude f settings).run fed).2.shared.calls := by
  rw [run_bind, answered]
  cases Status.ofCode? code with
  | error error => exact Array.mem_toList_iff.mp member
  | ok status =>
      have fromHere : Protocol.Following solver d.shared d :=
        ⟨follows.number, .refl solver d.shared, follows.tracks⟩
      have primitives : Backend.Keeps (H := GuardedSolver lib.recorded)
          (Protocol.Following solver d.shared) :=
        Protocol.keeps_following solver d.shared
      obtain ⟨extra, calls, _⟩ := (primitives.conclude f settings status d fromHere).grew.calls
      rw [← Array.mem_toList_iff, calls]
      exact List.mem_append_left _ member

theorem decodeValues_meaningful {calls before : List Call} {solver : Nat} {replies : List Int}
    (defined : ∀ solver literal reply, .value solver literal reply ∈ calls →
      reply = literal ∨ reply = -literal ∨ reply = 0)
    (asked : calls = before ++ valueCalls solver 1 replies) :
    ∃ values, decodeValues 1 replies = .ok values := by
  refine decodeValues_defined fun position reply found => ?_
  refine decodeValue_defined_iff.mpr (defined solver (1 + position : Nat) reply ?_)
  rw [asked]
  exact List.mem_append_right _ (mem_valueCalls_iff.mpr ⟨position, reply, found, rfl⟩)

/-- With a model to be checked, the check alone decides what becomes of a run. -/
theorem run_conclude_sat {f : Formula} (bounded : f.numVars ≤ maxVar) {settings : Settings}
    (verified : settings.verify = true)
    {c : Context (GuardedSolver lib.recorded) (Recording σ)}
    (satisfied : c.handle.phase = .solved .sat)
    (meaningful : Meaningful ((Solver.conclude f settings .sat).run c).2.shared.calls) :
    ∃ replies values, replies.length = f.numVars ∧ decodeValues 1 replies = .ok values ∧
      ((Solver.conclude f settings .sat).run c).2.shared.calls.toList =
        c.shared.calls.toList ++ valueCalls c.handle.pointer 1 replies ∧
      match f.firstUnsatisfied (none :: values).toArray with
      | some index =>
        ((Solver.conclude f settings .sat).run c).1 = .error (.modelRefuted index)
      | none => ∃ outcome, ((Solver.conclude f settings .sat).run c).1 = .ok outcome := by
  obtain ⟨replies, d, read, sameHandle, calls, inTurn⟩ :=
    run_readValues f.numVars #[none] satisfied (Nat.le_refl 1) (by simp; omega)
  have wanted : Solver.wantsModel settings .sat = true := by simp [Solver.wantsModel, verified]
  have fetched : (Solver.fetchModel f settings .sat).run c =
      ((decodeValues 1 replies).map fun values => some (none :: values).toArray, d) := by
    rw [Solver.fetchModel, if_pos wanted, run_map, Solver.model, read]
    cases decodeValues 1 replies with
    | error error => rfl
    | ok values => simp [Except.map]
  cases decoded : decodeValues 1 replies with
  | error error =>
      rw [decoded] at fetched
      have failed : (Solver.conclude f settings .sat).run c = (.error error, d) :=
        run_bind_error fetched _
      rw [failed] at meaningful
      have defined := fun solver literal reply member =>
        meaningful.defined solver literal reply (Array.mem_toList_iff.mp member)
      obtain ⟨values, accepted⟩ := decodeValues_meaningful defined calls
      exact absurd (decoded.symm.trans accepted) (by simp)
  | ok values =>
      rw [decoded] at fetched
      have checked := Solver.run_verifyModel verified f (none :: values).toArray d
      refine ⟨replies, values, inTurn.length_eq decoded, decoded, ?_⟩
      cases refuted : f.firstUnsatisfied (none :: values).toArray with
      | some index =>
          rw [refuted] at checked
          have failed : (Solver.conclude f settings .sat).run c =
              (.error (.modelRefuted index), d) :=
            (run_bind_ok fetched _).trans (run_bind_error checked _)
          rw [failed]
          exact ⟨calls, rfl⟩
      | none =>
          rw [refuted] at checked
          have passed : (Solver.conclude f settings .sat).run c =
              (.ok ⟨.sat, some (none :: values).toArray, d.handle.stats⟩,
                { d with log := d.log.push (.modelChecked f.clauses.length) }) :=
            (run_bind_ok fetched _).trans (run_bind_ok checked _)
          rw [passed]
          exact ⟨calls, _, rfl⟩

end Answers

end SatBridge.GuardedSolver
