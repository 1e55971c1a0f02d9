import Mathlib
import SatBridge.Proofs.Builtin.Mirror
import SatBridge.Proofs.Protocol.Word
import SatBridge.Proofs.Resident.History

/-!
# Replies of the builtin library

The entry points themselves, called on one solver in any order and as often as one likes. Nothing
guards these calls, so solve calls come inside clauses and after refused literals, and values are
asked for at any time. What the solver should reply is stated on the calls alone. Main statement: no
reply speaks of a formula other than the one that was given.
-/

set_option autoImplicit false

namespace SatBridge

/-- A call on a solver, without its reply. -/
inductive Request where
  | add (value : Int)
  | solve
  | value (literal : Int)
  deriving DecidableEq, Repr

section Exchanges

variable {σ : Type}

def Request.make (lib : Library σ) (pointer : Pointer) (memory : σ) : Request → Call × σ
  | .add integer => (.add pointer integer, (lib.add pointer integer memory).memory)
  | .solve =>
    let reply := lib.solve pointer memory
    (.solve pointer reply.value, reply.memory)
  | .value literal =>
    let reply := lib.value pointer literal memory
    (.value pointer literal reply.value, reply.memory)

/-- The calls in order, each with its reply, and the memory after them. -/
def exchange (lib : Library σ) (pointer : Pointer) (memory : σ) :
    List Request → List Call × σ
  | [] => ([], memory)
  | request :: rest =>
    let (call, memory) := request.make lib pointer memory
    let (calls, memory) := exchange lib pointer memory rest
    (call :: calls, memory)

end Exchanges

namespace Builtin

section History

/-- The integer of a call that adds one which is not too large. -/
def taken? : Call → Option Int
  | .add _ value => if value.natAbs ≤ 268435456 then some value else none
  | _ => none

/-- The clauses that were closed, as far as their literals were taken. -/
def closedRuns (past : List Call) : List (List Int) :=
  (ClauseStream.cut (past.filterMap taken?)).1

/-- The literals that were taken since the last terminator. -/
def openRun (past : List Call) : List Int :=
  (ClauseStream.cut (past.filterMap taken?)).2

def closedClauses (past : List Call) : List Clause :=
  (closedRuns past).map (List.map Literal.ofSigned)

/-- Some literal was refused, be it long ago. -/
def Refused (past : List Call) : Prop :=
  ∃ solver value, .add solver value ∈ past ∧ 268435456 < value.natAbs

/-- The engine hears of what is taken, and of solve calls between clauses unless a literal was
refused before. -/
def Heard (past : List Call) : Call → Prop
  | .add _ value => value.natAbs ≤ 268435456
  | .solve .. => ¬ Refused past ∧ openRun past = []
  | _ => False

/-- The engine heard of this call, and of none since. -/
def LastHeard (past : List Call) (call : Call) : Prop :=
  ∃ before after, past = before ++ call :: after ∧ Heard before call ∧
    ∀ early other late, after = early ++ other :: late →
      ¬ Heard (before ++ call :: early) other

theorem refused_snoc {past : List Call} {call : Call} :
    Refused (past ++ [call]) ↔
      Refused past ∨ ∃ solver value, call = .add solver value ∧ 268435456 < value.natAbs := by
  simp only [Refused, List.mem_append, List.mem_singleton]
  constructor
  · rintro ⟨solver, value, earlier | rfl, large⟩
    · exact .inl ⟨solver, value, earlier, large⟩
    · exact .inr ⟨solver, value, rfl, large⟩
  · rintro (⟨solver, value, earlier, large⟩ | ⟨solver, value, rfl, large⟩)
    · exact ⟨solver, value, .inl earlier, large⟩
    · exact ⟨solver, value, .inr rfl, large⟩

theorem lastHeard_snoc {past : List Call} {call : Call} (heard : Heard past call) :
    LastHeard (past ++ [call]) call := by
  refine ⟨past, [], rfl, heard, fun early other late split => ?_⟩
  cases early <;> cases split

theorem LastHeard.snoc {past : List Call} {call other : Call} (last : LastHeard past call)
    (unheard : ¬ Heard past other) : LastHeard (past ++ [other]) call := by
  obtain ⟨before, after, rfl, heard, silent⟩ := last
  refine ⟨before, after ++ [other], by simp, heard, fun early next late split => ?_⟩
  obtain ⟨_, rfl, rfl⟩ | ⟨rest, _, earlier⟩ := snoc_eq_append_cons.mp split
  · exact unheard
  · exact silent early next rest earlier

end History

variable {engine : Engine}

section Invariant

variable {cell : Cell engine} {past : List Call} {deeds : List Deed}

/-- The solver in the cell did what the calls so far had it do. -/
structure Remembers (cell : Cell engine) (past : List Call) (deeds : List Deed) : Prop where
  accounts : cell.solver.Accounts deeds
  accepted : Deed.accepted deeds = past.filterMap taken?
  spoiled : cell.spoiled = true ↔ Refused past
  last : deeds.getLast? = some (.solved .sat) → ∃ solver, LastHeard past (.solve solver 10)

theorem remembers_fresh : Remembers (.fresh : Cell engine) [] [] where
  accounts := ResidentSolver.accounts_new
  accepted := rfl
  spoiled := by simp [Cell.fresh, Refused]
  last := by simp

theorem Remembers.remainder (remembers : Remembers cell past deeds) :
    Deed.remainder deeds = openRun past := by
  rw [Deed.remainder, remembers.accepted, openRun]

theorem Remembers.committed (remembers : Remembers cell past deeds) :
    Deed.committed deeds = closedClauses past := by
  rw [Deed.committed, remembers.accepted, closedClauses, closedRuns]

theorem Remembers.unheard (remembers : Remembers cell past deeds) {call : Call}
    (unheard : ¬ Heard past call) (untaken : taken? call = none) {spoiled : Bool}
    (same : spoiled = true ↔ Refused (past ++ [call])) :
    Remembers { cell with spoiled } (past ++ [call]) deeds where
  accounts := remembers.accounts
  accepted := by simp [remembers.accepted, untaken]
  spoiled := same
  last satisfied := by
    obtain ⟨solver, last⟩ := remembers.last satisfied
    exact ⟨solver, last.snoc unheard⟩

theorem Remembers.add (remembers : Remembers cell past deeds) (solver : Nat) (value : Int) :
    ∃ deeds, Remembers (cell.add value).1 (past ++ [.add solver value]) deeds := by
  by_cases large : ResidentSolver.maxVar < value.natAbs
  · have tooLarge : ¬ value.natAbs ≤ 268435456 := Nat.not_le.mpr large
    have refused : (cell.add value).1 = { cell with spoiled := true } := by
      simp [Cell.add, ResidentSolver.add_refused large]
    rw [refused]
    have unheard : ¬ Heard past (.add solver value) := tooLarge
    refine ⟨deeds, remembers.unheard unheard (by simp [taken?, tooLarge]) ?_⟩
    simp only [true_iff]
    exact refused_snoc.mpr (.inr ⟨solver, value, rfl, large⟩)
  · have small : value.natAbs ≤ 268435456 := Nat.not_lt.mp large
    obtain ⟨next, taken⟩ : ∃ next, cell.solver.add value = .ok next := by
      simp [ResidentSolver.add, large]
    have stored : (cell.add value).1 = { cell with solver := next } := by
      simp [Cell.add, taken]
    rw [stored]
    refine ⟨deeds ++ [.added value], remembers.accounts.add taken, ?_, ?_, by simp⟩
    · rw [Deed.accepted_added, remembers.accepted, List.filterMap_append]
      simp [taken?, small]
    · rw [remembers.spoiled, refused_snoc]
      refine ⟨.inl, fun either => either.resolve_right ?_⟩
      rintro ⟨_, _, same, tooLarge⟩
      cases same
      exact large tooLarge

theorem Remembers.spoiled_snoc (remembers : Remembers cell past deeds) {call : Call}
    (noAdd : ∀ solver value, call ≠ .add solver value) :
    cell.spoiled = true ↔ Refused (past ++ [call]) := by
  rw [remembers.spoiled, refused_snoc]
  refine ⟨.inl, fun either => either.resolve_right ?_⟩
  rintro ⟨solver, value, same, _⟩
  exact noAdd solver value same

/-- A solve call is refused for a reason that shows in the calls so far, or it is decided. -/
theorem Remembers.solve_cases (decides : engine.Decides) (remembers : Remembers cell past deeds) :
    (Refused past ∨ openRun past ≠ []) ∧ cell.solve.1 = 0 ∧ cell.solve.2.1 = cell ∨
      (¬ Refused past ∧ openRun past = []) ∧ ∃ status next events,
        cell.solver.solve = .ok (status, next, events) ∧
        cell.solve = (status.code, { cell with solver := next }, events) ∧
        (status = .sat ∧ Satisfiable (closedClauses past) ∨
          status = .unsat ∧ ¬ Satisfiable (closedClauses past)) := by
  by_cases spoiled : cell.spoiled = true
  · have refused : Refused past := remembers.spoiled.mp spoiled
    have answered : cell.solve = (0, cell, []) := by simp [Cell.solve, spoiled, Status.code]
    rw [answered]
    exact .inl ⟨.inl refused, rfl, rfl⟩
  · have unrefused : ¬ Refused past := remembers.spoiled.not.mp spoiled
    by_cases closed : openRun past = []
    · obtain ⟨status, next, events, answered, verdict⟩ :=
        remembers.accounts.solve_closed decides (remembers.remainder.trans closed)
      rw [remembers.committed] at verdict
      have stored : cell.solve = (status.code, { cell with solver := next }, events) := by
        simp [Cell.solve, spoiled, answered]
      exact .inr ⟨⟨unrefused, closed⟩, status, next, events, answered, stored, verdict⟩
    · have opened : Deed.remainder deeds ≠ [] := by rwa [remembers.remainder]
      have answered : cell.solve = (0, cell, [.solveRejected .unterminatedClause]) := by
        simp [Cell.solve, spoiled, remembers.accounts.solve_open opened, Status.code]
      rw [answered]
      exact .inl ⟨.inr closed, rfl, rfl⟩

theorem Remembers.solve (decides : engine.Decides) (remembers : Remembers cell past deeds)
    (solver : Nat) :
    ∃ deeds, Remembers cell.solve.2.1 (past ++ [.solve solver cell.solve.1]) deeds := by
  obtain ⟨stopped, code, same⟩ | ⟨heard, status, next, events, answered, stored, _⟩ :=
    remembers.solve_cases decides
  · rw [code, same]
    have unheard : ¬ Heard past (.solve solver 0) := by
      rintro ⟨unrefused, closed⟩
      exact stopped.elim unrefused fun opened => opened closed
    exact ⟨deeds, remembers.unheard unheard rfl (remembers.spoiled_snoc (by simp))⟩
  · rw [stored]
    refine ⟨deeds ++ [.solved status], remembers.accounts.solve decides answered, ?_, ?_, ?_⟩
    · simp [remembers.accepted, taken?]
    · exact remembers.spoiled_snoc (by simp)
    · intro last
      obtain rfl : status = .sat := by simpa using last
      exact ⟨solver, lastHeard_snoc heard⟩

theorem Remembers.value (remembers : Remembers cell past deeds) (solver : Nat)
    (literal reply : Int) : Remembers cell (past ++ [.value solver literal reply]) deeds :=
  remembers.unheard (by simp [Heard]) rfl (remembers.spoiled_snoc (by simp))

theorem Remembers.make (decides : engine.Decides) {memory : Memory engine} {pointer : Pointer}
    (live : memory.cell? pointer = some cell) (remembers : Remembers cell past deeds)
    (request : Request) {call : Call} {later : Memory engine}
    (made : request.make (library engine) pointer memory = (call, later)) :
    ∃ next deeds, later.cell? pointer = some next ∧ Remembers next (past ++ [call]) deeds := by
  cases request with
  | add value =>
      cases made
      obtain ⟨deeds, remembers⟩ := remembers.add pointer value
      exact ⟨_, deeds, cell?_add live value, remembers⟩
  | solve =>
      cases made
      obtain ⟨deeds, remembers⟩ := remembers.solve decides pointer
      change ∃ next deeds, Memory.cell? (Builtin.solve pointer memory).memory pointer = some next ∧
        Remembers next (past ++ [.solve pointer (Builtin.solve pointer memory).value]) deeds
      rw [solve_value live]
      exact ⟨_, deeds, cell?_solve live, remembers⟩
  | value literal =>
      cases made
      change ∃ next deeds, Memory.cell? (Builtin.value pointer literal memory).memory pointer =
        some next ∧ Remembers next (past ++
          [.value pointer literal (Builtin.value pointer literal memory).value]) deeds
      rw [value_reply live]
      exact ⟨cell, deeds, live, remembers.value pointer literal _⟩

theorem Remembers.exchange (decides : engine.Decides) {memory : Memory engine} {pointer : Pointer}
    (live : memory.cell? pointer = some cell) (remembers : Remembers cell past deeds)
    (requests : List Request) {calls : List Call} {later : Memory engine}
    (made : SatBridge.exchange (library engine) pointer memory requests = (calls, later)) :
    ∃ next deeds, later.cell? pointer = some next ∧ Remembers next (past ++ calls) deeds := by
  induction requests generalizing memory cell past deeds calls with
  | nil =>
      cases made
      exact ⟨cell, deeds, live, by rwa [List.append_nil]⟩
  | cons request rest ih =>
      rcases first : request.make (library engine) pointer memory with ⟨call, between⟩
      rcases others : SatBridge.exchange (library engine) pointer between rest with ⟨more, final⟩
      simp only [SatBridge.exchange, first, others] at made
      cases made
      obtain ⟨next, deeds, live, remembers⟩ := remembers.make decides live request first
      have after := ih live remembers others
      rwa [List.append_assoc, List.singleton_append] at after

end Invariant

section Replies

variable {cell : Cell engine} {past : List Call} {deeds : List Deed}

/-- What the next replies of a solver are worth, given the calls so far. -/
structure Faithful (past : List Call) (code : Int) (reply : Int → Int) : Prop where
  /-- A literal that was refused is never forgotten. -/
  unknown_iff : code = 0 ↔ Refused past ∨ openRun past ≠ []
  sat_iff : ¬ Refused past → openRun past = [] →
    (code = 10 ↔ Satisfiable (closedClauses past))
  unsat_iff : ¬ Refused past → openRun past = [] →
    (code = 20 ↔ ¬ Satisfiable (closedClauses past))
  reply_cases : ∀ literal, reply literal = 0 ∨ reply literal = literal ∨ reply literal = -literal
  /-- The two literals of a variable have one reply. -/
  reply_neg : ∀ literal : Int, literal.natAbs ≤ 2147483647 → reply (-literal) = reply literal
  /-- The literals that are their own reply are a model of the closed clauses. -/
  model : (∃ literal, reply literal ≠ 0) → (∃ solver, LastHeard past (.solve solver 10)) ∧
    ∀ run ∈ closedRuns past, ∃ literal ∈ run, literal ≠ 0 ∧ reply literal = literal

theorem value_cases (cell : Cell engine) (literal : Int) :
    cell.value literal = 0 ∨ cell.value literal = literal ∨ cell.value literal = -literal := by
  unfold Cell.value
  split
  · exact .inl rfl
  · split
    · split
      · exact .inr (.inl rfl)
      · exact .inr (.inr rfl)
    · exact .inl rfl

theorem value_neg (cell : Cell engine) {literal : Int} (bounded : literal.natAbs ≤ 2147483647) :
    cell.value (-literal) = cell.value literal := by
  have notLeast : literal ≠ -2147483648 := by omega
  have negNotLeast : -literal ≠ -2147483648 := by omega
  rw [Cell.value, Cell.value, if_neg notLeast, if_neg negNotLeast, Int.natAbs_neg]
  cases cell.solver.value literal.natAbs with
  | error error => rfl
  | ok found =>
      cases found with
      | none => rfl
      | some value =>
          -- Of two opposite literals exactly one is positive, unless both are zero.
          rcases Int.lt_trichotomy literal 0 with negative | zero | positive
          · have down : ¬ 0 < literal := by omega
            cases value <;> simp [negative, down]
          · cases value <;> simp [zero]
          · have up : ¬ literal < 0 := by omega
            cases value <;> simp [positive, up]

theorem value_of_model {model : Model} (kept : cell.solver.model = some model) {literal : Int}
    (small : literal.natAbs ≤ 268435456)
    (isTrue : model.value? literal.natAbs = some (decide (0 < literal))) :
    cell.value literal = literal := by
  have notLeast : literal ≠ -2147483648 := by omega
  have found : cell.solver.value literal.natAbs = .ok (some (decide (0 < literal))) := by
    rw [ResidentSolver.value, kept, ← isTrue]
  rw [Cell.value, if_neg notLeast, found]
  exact if_pos rfl

theorem value_of_noModel (unknown : cell.solver.model = none) (literal : Int) :
    cell.value literal = 0 := by
  unfold Cell.value
  split
  · rfl
  · simp [ResidentSolver.value, unknown]

theorem Remembers.model (decides : engine.Decides) (remembers : Remembers cell past deeds)
    {literal : Int} (replied : cell.value literal ≠ 0) :
    (∃ solver, LastHeard past (.solve solver 10)) ∧
      ∀ run ∈ closedRuns past, ∃ literal ∈ run, literal ≠ 0 ∧ cell.value literal = literal := by
  have last : deeds.getLast? = some (.solved .sat) := by
    by_contra other
    exact replied (value_of_noModel (remembers.accounts.noModel other) literal)
  refine ⟨remembers.last last, fun run closed => ?_⟩
  obtain ⟨model, kept, holds⟩ := remembers.accounts.model_holds decides last
  have committed : run.map Literal.ofSigned ∈ Deed.committed deeds := by
    rw [remembers.committed]
    exact List.mem_map_of_mem closed
  obtain ⟨l, inClause, isTrue⟩ := holds _ committed
  obtain ⟨value, inRun, rfl⟩ := List.mem_map.mp inClause
  obtain ⟨accepted, nonzero⟩ := ClauseStream.mem_of_mem_cut closed inRun
  have small : value.natAbs ≤ 268435456 :=
    remembers.accounts.taken value (remembers.accepted ▸ accepted)
  rw [Literal.index_ofSigned (by omega)] at isTrue
  exact ⟨value, inRun, nonzero, value_of_model kept small isTrue⟩

theorem Remembers.faithful (decides : engine.Decides) (remembers : Remembers cell past deeds) :
    Faithful past cell.solve.1 fun literal => cell.value literal where
  unknown_iff := by
    obtain ⟨stopped, code, _⟩ | ⟨⟨unrefused, closed⟩, status, _, _, _, stored, verdict⟩ :=
      remembers.solve_cases decides
    · exact iff_of_true code stopped
    · rw [stored]
      refine iff_of_false ?_ fun either => either.elim unrefused fun opened => opened closed
      obtain ⟨rfl, _⟩ | ⟨rfl, _⟩ := verdict <;> simp [Status.code]
  sat_iff unrefused closed := by
    obtain ⟨stopped, _⟩ | ⟨_, status, _, _, _, stored, verdict⟩ := remembers.solve_cases decides
    · exact (stopped.elim unrefused fun opened => opened closed).elim
    · rw [stored]
      obtain ⟨rfl, satisfiable⟩ | ⟨rfl, unsatisfiable⟩ := verdict
      · exact iff_of_true rfl satisfiable
      · exact iff_of_false (by simp [Status.code]) unsatisfiable
  unsat_iff unrefused closed := by
    obtain ⟨stopped, _⟩ | ⟨_, status, _, _, _, stored, verdict⟩ := remembers.solve_cases decides
    · exact (stopped.elim unrefused fun opened => opened closed).elim
    · rw [stored]
      obtain ⟨rfl, satisfiable⟩ | ⟨rfl, unsatisfiable⟩ := verdict
      · exact iff_of_false (by simp [Status.code]) fun unsatisfiable => unsatisfiable satisfiable
      · exact iff_of_true rfl unsatisfiable
  reply_cases := value_cases cell
  reply_neg _ bounded := value_neg cell bounded
  model replied := by
    obtain ⟨literal, replied⟩ := replied
    exact remembers.model decides replied

end Replies

/-- A new solver of the library gives faithful replies after any calls on it. -/
theorem replies_faithful (decides : engine.Decides) (memory : Memory engine)
    (requests : List Request) :
    ∃ pointer, ((library engine).init memory).value = some pointer ∧
      Faithful
        (exchange (library engine) pointer ((library engine).init memory).memory requests).1
        ((library engine).solve pointer (exchange (library engine) pointer
          ((library engine).init memory).memory requests).2).value
        fun literal => ((library engine).value pointer literal (exchange (library engine) pointer
          ((library engine).init memory).memory requests).2).value := by
  -- The new solver is behind the others, so its cell is known whatever the memory was.
  have created : Memory.cell? ((library engine).init memory).memory memory.size = some .fresh := by
    simp [library, init, Reply.quiet, Memory.cell?]
  refine ⟨memory.size, rfl, ?_⟩
  rcases made : exchange (library engine) memory.size ((library engine).init memory).memory requests
    with ⟨past, later⟩
  obtain ⟨cell, deeds, live, remembers⟩ := remembers_fresh.exchange decides created requests made
  have code : ((library engine).solve memory.size later).value = cell.solve.1 := solve_value live
  have reply (literal : Int) :
      ((library engine).value memory.size literal later).value = cell.value literal :=
    congrArg Reply.value (value_reply live literal)
  simp only [code, reply]
  exact remembers.faithful decides

/-- A solve call inside a clause and a value asked for too early spoil nothing; a literal that was
refused does, although the clause it stood in is closed without it. -/
theorem replies_faithful_sample :
    (library.solve 0 (exchange library 0 (library.init .empty).memory
      [.add 1, .solve, .value (-2147483648), .add 0]).2).value = 10 ∧
    (library.solve 0 (exchange library 0 (library.init .empty).memory
      [.add 1, .add (-268435457), .add 0]).2).value = 0 := by
  constructor
  · obtain ⟨pointer, created, faithful⟩ := replies_faithful Search.engine_decides .empty
      [.add 1, .solve, .value (-2147483648), .add 0]
    obtain rfl : 0 = pointer := Option.some.inj created
    have past : (exchange library 0 (library.init .empty).memory
        [.add 1, .solve, .value (-2147483648), .add 0]).1 =
        [.add 0 1, .solve 0 0, .value 0 (-2147483648) 0, .add 0 0] := by cbv
    rw [past] at faithful
    have unrefused : ¬ Refused [.add 0 1, .solve 0 0, .value 0 (-2147483648) 0, .add 0 0] := by
      rintro ⟨solver, value, called, large⟩
      have taken : value = 1 ∨ value = 0 := by simp at called; tauto
      omega
    exact (faithful.sat_iff unrefused rfl).mpr ⟨fun _ => true, by decide⟩
  · obtain ⟨pointer, created, faithful⟩ := replies_faithful Search.engine_decides .empty
      [.add 1, .add (-268435457), .add 0]
    obtain rfl : 0 = pointer := Option.some.inj created
    have past : (exchange library 0 (library.init .empty).memory
        [.add 1, .add (-268435457), .add 0]).1 =
        [.add 0 1, .add 0 (-268435457), .add 0 0] := by cbv
    rw [past] at faithful
    exact faithful.unknown_iff.mpr (.inl ⟨0, -268435457, by simp, by decide⟩)

end Builtin

end SatBridge
