import SatBridge.Library.Recorded

/-!
# Words of calls

A library may abort the process when the calls on one of its solvers come in the wrong order. What
the right order is concerns each solver alone, so it is stated on the word of the calls that name
it. A conforming word is single-shot: init, settings, literals, one solve call, values, release.
-/

set_option autoImplicit false

namespace SatBridge

/-- The solver that a call names; an init that gave none names none. -/
def Call.solver? : Call → Option Nat
  | .init solver => solver
  | .release solver | .add solver _ | .solve solver _ | .value solver _ _
  | .setOption solver _ _ _ | .setConflictLimit solver _ | .setDecisionLimit solver _ => some solver

/-- Where a list with a new last element is cut, the cut is at that element or was there before. -/
theorem snoc_eq_append_cons {α : Type} {xs before after : List α} {x y : α} :
    xs ++ [x] = before ++ y :: after ↔
      after = [] ∧ xs = before ∧ x = y ∨ ∃ rest, after = rest ++ [x] ∧ xs = before ++ y :: rest := by
  constructor
  · intro split
    rcases List.eq_nil_or_concat after with rfl | ⟨rest, last, rfl⟩
    · obtain ⟨same, ends⟩ := List.append_inj' split rfl
      exact .inl ⟨rfl, same, List.singleton_inj.mp ends⟩
    · rw [List.concat_eq_append, ← List.cons_append, ← List.append_assoc] at split
      obtain ⟨same, ends⟩ := List.append_inj' split rfl
      exact .inr ⟨rest, by rw [List.concat_eq_append, ends], same⟩
  · rintro (⟨rfl, rfl, rfl⟩ | ⟨rest, rfl, rfl⟩)
    · rfl
    · simp

/-- The calls that name a solver, in their order. -/
def callsOn (solver : Nat) (calls : List Call) : List Call :=
  calls.filter fun call => call.solver? = some solver

namespace Protocol

/-- The word starts with the init of its solver, and the solver was not released yet. -/
def Live (word : List Call) : Prop :=
  (∃ solver, word.head? = some (.init (some solver))) ∧ ∀ solver, .release solver ∉ word

def Added (word : List Call) : Prop :=
  ∃ solver value, .add solver value ∈ word

def Solved (word : List Call) : Prop :=
  ∃ solver code, .solve solver code ∈ word

/-- A solve call returned the code of a satisfiable formula. -/
def Satisfied (word : List Call) : Prop :=
  ∃ solver, .solve solver 10 ∈ word

theorem Satisfied.solved {word : List Call} (satisfied : Satisfied word) : Solved word := by
  obtain ⟨solver, member⟩ := satisfied
  exact ⟨solver, 10, member⟩

def lastAdded? (word : List Call) : Option Int :=
  word.reverse.findSome? fun
    | .add _ value => some value
    | _ => none

/-- No literal was added since the last terminator. -/
def ClauseClosed (word : List Call) : Prop :=
  ∀ value, lastAdded? word = some value → value = 0

def AllowedAfter (word : List Call) : Call → Prop
  | .init _ => word = []
  | .setOption .. => Live word ∧ ¬ Added word ∧ ¬ Solved word
  | .add .. | .setConflictLimit .. | .setDecisionLimit .. => Live word ∧ ¬ Solved word
  | .solve .. => Live word ∧ ¬ Solved word ∧ ClauseClosed word
  | .value _ literal _ => Live word ∧ Satisfied word ∧ 1 ≤ literal ∧ literal ≤ 2147483647
  | .release _ => Live word

/-- Every call of the word may follow those before it. -/
def SingleShot (word : List Call) : Prop :=
  ∀ before call after, word = before ++ call :: after → AllowedAfter before call

theorem singleShot_nil : SingleShot [] := by
  intro before call after split
  cases before <;> cases split

theorem SingleShot.snoc {word : List Call} {call : Call} (conforms : SingleShot word)
    (allowed : AllowedAfter word call) : SingleShot (word ++ [call]) := by
  intro before other after split
  obtain ⟨_, rfl, rfl⟩ | ⟨rest, _, earlier⟩ := snoc_eq_append_cons.mp split
  · exact allowed
  · exact conforms before other rest earlier

theorem Live.snoc {word : List Call} {call : Call} (live : Live word)
    (kept : ∀ solver, call ≠ .release solver) : Live (word ++ [call]) := by
  obtain ⟨⟨solver, begins⟩, unreleased⟩ := live
  refine ⟨⟨solver, by simp [List.head?_append, begins]⟩, ?_⟩
  intro other member
  rcases List.mem_append.mp member with earlier | last
  · exact unreleased other earlier
  · exact kept other (List.mem_singleton.mp last).symm

theorem live_init (solver : Nat) : Live [.init (some solver)] :=
  ⟨⟨solver, rfl⟩, by simp⟩

theorem added_snoc_add (word : List Call) (solver : Nat) (value : Int) :
    Added (word ++ [.add solver value]) :=
  ⟨solver, value, by simp⟩

theorem solved_snoc_solve (word : List Call) (solver : Nat) (code : Int) :
    Solved (word ++ [.solve solver code]) :=
  ⟨solver, code, by simp⟩

theorem satisfied_snoc_solve {word : List Call} {solver : Nat} {code : Int} :
    Satisfied (word ++ [.solve solver code]) ↔ Satisfied word ∨ code = 10 := by
  simp [Satisfied, exists_or, eq_comm]

@[simp] theorem lastAdded?_snoc_add (word : List Call) (solver : Nat) (value : Int) :
    lastAdded? (word ++ [.add solver value]) = some value := by
  simp [lastAdded?]

end Protocol

@[simp] theorem callsOn_nil (solver : Nat) : callsOn solver [] = [] := rfl

theorem callsOn_append (solver : Nat) (calls more : List Call) :
    callsOn solver (calls ++ more) = callsOn solver calls ++ callsOn solver more :=
  List.filter_append ..

theorem callsOn_eq_self {solver : Nat} {calls : List Call}
    (own : ∀ call ∈ calls, call.solver? = some solver) : callsOn solver calls = calls :=
  List.filter_eq_self.mpr fun call member => decide_eq_true (own call member)

theorem callsOn_eq_nil {solver : Nat} {calls : List Call}
    (foreign : ∀ call ∈ calls, call.solver? ≠ some solver) : callsOn solver calls = [] := by
  refine List.filter_eq_nil_iff.mpr fun call member named => ?_
  exact foreign call member (of_decide_eq_true named)

end SatBridge
