import Mathlib.Logic.Function.Basic
import SatBridge.Proofs.Builtin.Mirror
import SatBridge.Proofs.Guarded.Simulation

/-!
# Places of solvers

The builtin library never uses a place twice. Here is the same library with places that may be used
again once their solver was released, as someone else proposes. Main statement: both do to the
solver behind a pointer what is asked for, and nothing to any other.
-/

set_option autoImplicit false

namespace SatBridge

namespace Builtin

open SolverM GuardedSolver Function

variable {engine : Engine} {σ τ : Type}

section Heaps

/-- The memory of the library, and the places that are proposed for the solvers to come. -/
structure Heap (engine : Engine) where
  memory : Memory engine
  proposed : List Pointer

def Heap.entry {α : Type} (entry : Entry (Memory engine) α) : Entry (Heap engine) α := fun heap =>
  let reply := entry heap.memory
  ⟨reply.value, { heap with memory := reply.memory }, reply.events⟩

/-- Puts a new solver at the place that is proposed, if it was left by a released solver. -/
def Heap.init : Entry (Heap engine) (Option Pointer) := fun heap =>
  match heap.proposed with
  | [] => Heap.entry Builtin.init heap
  | place :: proposed =>
    match heap.memory[place]? with
    | some none =>
      .quiet (some place) ⟨heap.memory.setIfInBounds place (some .fresh), proposed⟩
    | _ => Heap.entry Builtin.init { heap with proposed }

/-- The builtin library where places are used again. -/
def reusing (engine : Engine) : Library (Heap engine) where
  origin := (library engine).origin
  init := Heap.init
  release pointer := Heap.entry (release pointer)
  add pointer value := Heap.entry (add pointer value)
  solve pointer := Heap.entry (solve pointer)
  value pointer literal := Heap.entry (value pointer literal)
  signature := (library engine).signature.map fun text heap => text heap.memory
  setOption := none
  setConflictLimit := none
  setDecisionLimit := none

end Heaps

section Serving

/-- The entry points do to the solver behind a pointer what the builtin library does, and nothing to
the other solvers. A new solver is put where none is live. -/
structure Serves (lib : Library σ) (cell? : σ → Pointer → Option (Cell engine)) : Prop where
  init : ∀ memory, ∃ pointer, (lib.init memory).value = some pointer ∧
    cell? memory pointer = none ∧
      cell? (lib.init memory).memory = update (cell? memory) pointer (some .fresh)
  release : ∀ pointer memory,
    cell? (lib.release pointer memory).memory = update (cell? memory) pointer none
  add : ∀ pointer value memory cell, cell? memory pointer = some cell →
    cell? (lib.add pointer value memory).memory =
      update (cell? memory) pointer (some (cell.add value).1)
  solve : ∀ pointer memory cell, cell? memory pointer = some cell →
    (lib.solve pointer memory).value = cell.solve.1 ∧
      cell? (lib.solve pointer memory).memory = update (cell? memory) pointer (some cell.solve.2.1)
  value : ∀ pointer literal memory cell, cell? memory pointer = some cell →
    (lib.value pointer literal memory).value = cell.value literal ∧
      cell? (lib.value pointer literal memory).memory = cell? memory
  setOption : lib.setOption = none
  setConflictLimit : lib.setConflictLimit = none
  setDecisionLimit : lib.setDecisionLimit = none

theorem cell?_setIfInBounds {memory : Memory engine} {pointer : Pointer}
    (inside : pointer < memory.size) (entry : Option (Cell engine)) :
    Memory.cell? (memory.setIfInBounds pointer entry) = update memory.cell? pointer entry := by
  funext other
  by_cases same : other = pointer
  · subst same
    simp [Memory.cell?, inside]
  · have different : pointer ≠ other := fun equal => same equal.symm
    simp [Memory.cell?, same, different]

theorem cell?_push (memory : Memory engine) (cell : Cell engine) :
    Memory.cell? (memory.push (some cell)) = update memory.cell? memory.size (some cell) := by
  funext other
  by_cases same : other = memory.size
  · simp [Memory.cell?, same]
  · simp [Memory.cell?, Array.getElem?_push, same]

theorem serves_library : Serves (library engine) Memory.cell? where
  init memory := ⟨memory.size, rfl, by simp [Memory.cell?], cell?_push memory .fresh⟩
  release pointer memory := by
    by_cases inside : pointer < memory.size
    · exact cell?_setIfInBounds inside none
    · have absent : memory.cell? pointer = none := by simp [Memory.cell?, inside]
      have same : memory.setIfInBounds pointer none = memory := by simp [Array.setIfInBounds, inside]
      change Memory.cell? (memory.setIfInBounds pointer none) = _
      rw [same, ← absent, update_eq_self]
  add pointer value memory cell live := by
    simp only [library, add, live]
    exact cell?_setIfInBounds (lt_size_of_cell? live) _
  solve pointer memory cell live := by
    refine ⟨solve_value live, ?_⟩
    simp only [library, solve, live]
    exact cell?_setIfInBounds (lt_size_of_cell? live) _
  value pointer literal memory cell live := by
    have replied : (library engine).value pointer literal memory = _ := value_reply live literal
    rw [replied]
    exact ⟨rfl, rfl⟩
  setOption := rfl
  setConflictLimit := rfl
  setDecisionLimit := rfl

theorem Heap.init_cases (heap : Heap engine) :
    (∃ proposed, Heap.init heap = Heap.entry Builtin.init ⟨heap.memory, proposed⟩) ∨
      ∃ place proposed, heap.memory[place]? = some none ∧ Heap.init heap =
        .quiet (some place) ⟨heap.memory.setIfInBounds place (some .fresh), proposed⟩ := by
  obtain ⟨memory, proposed⟩ := heap
  unfold Heap.init
  cases proposed with
  | nil => exact .inl ⟨[], rfl⟩
  | cons place proposed =>
      dsimp only
      split
      · rename_i left
        exact .inr ⟨place, proposed, left, rfl⟩
      · exact .inl ⟨proposed, rfl⟩

theorem serves_reusing : Serves (reusing engine) fun heap => heap.memory.cell? where
  init heap := by
    simp only [reusing]
    obtain ⟨proposed, asked⟩ | ⟨place, proposed, left, asked⟩ := heap.init_cases
    · rw [asked]
      exact serves_library.init heap.memory
    · rw [asked]
      obtain ⟨inside, _⟩ := Array.getElem?_eq_some_iff.mp left
      exact ⟨place, rfl, by simp [Memory.cell?, left], cell?_setIfInBounds inside _⟩
  release pointer heap := serves_library.release pointer heap.memory
  add pointer value heap := serves_library.add pointer value heap.memory
  solve pointer heap := serves_library.solve pointer heap.memory
  value pointer literal heap := serves_library.value pointer literal heap.memory
  setOption := rfl
  setConflictLimit := rfl
  setDecisionLimit := rfl

end Serving

section Pairs

variable {first : Library σ} {second : Library τ} {here? : σ → Pointer → Option (Cell engine)}
  {there? : τ → Pointer → Option (Cell engine)}

/-- The solver behind both pointers is live and in the same state. -/
def Shares (here? : σ → Pointer → Option (Cell engine)) (there? : τ → Pointer → Option (Cell engine))
    (p : Pointer) (memory : σ) (q : Pointer) (other : τ) : Prop :=
  ∃ cell, here? memory p = some cell ∧ there? other q = some cell

/-- The same, and in the first memory the other solvers are as they were. -/
structure SharesOnly (here? : σ → Pointer → Option (Cell engine))
    (there? : τ → Pointer → Option (Cell engine)) (pointer : Pointer)
    (before : Pointer → Option (Cell engine)) (p : Pointer) (memory : σ) (q : Pointer)
    (other : τ) : Prop where
  place : p = pointer
  shares : Shares here? there? p memory q other
  frame : ∀ o ≠ pointer, here? memory o = before o

variable {pointer : Pointer} {before : Pointer → Option (Cell engine)}

theorem SharesOnly.update {p q : Pointer} {memory later : σ} {other otherLater : τ}
    (shares : SharesOnly here? there? pointer before p memory q other) {cell : Cell engine}
    (here : here? later = Function.update (here? memory) p (some cell))
    (there : there? otherLater = Function.update (there? other) q (some cell)) :
    SharesOnly here? there? pointer before p later q otherLater where
  place := shares.place
  shares := ⟨cell, by rw [here, update_self], by rw [there, update_self]⟩
  frame o different := by
    rw [here, update_of_ne (shares.place ▸ different), shares.frame o different]

theorem SharesOnly.same {p q : Pointer} {memory later : σ} {other otherLater : τ}
    (shares : SharesOnly here? there? pointer before p memory q other)
    (here : here? later = here? memory) (there : there? otherLater = there? other) :
    SharesOnly here? there? pointer before p later q otherLater where
  place := shares.place
  shares := by
    obtain ⟨cell, live, liveThere⟩ := shares.shares
    exact ⟨cell, here ▸ live, there ▸ liveThere⟩
  frame o different := here ▸ shares.frame o different

theorem simulates_of_serves (serves : Serves first here?) (servesThere : Serves second there?) :
    first.Simulates second (SharesOnly here? there? pointer before) where
  add value p memory q other shares := by
    obtain ⟨cell, live, liveThere⟩ := shares.shares
    exact ⟨rfl, shares.update (serves.add p value memory cell live)
      (servesThere.add q value other cell liveThere)⟩
  solve p memory q other shares := by
    obtain ⟨cell, live, liveThere⟩ := shares.shares
    obtain ⟨code, solved⟩ := serves.solve p memory cell live
    obtain ⟨codeThere, solvedThere⟩ := servesThere.solve q other cell liveThere
    exact ⟨code.trans codeThere.symm, shares.update solved solvedThere⟩
  value literal p memory q other shares := by
    obtain ⟨cell, live, liveThere⟩ := shares.shares
    obtain ⟨reply, same⟩ := serves.value p literal memory cell live
    obtain ⟨replyThere, sameThere⟩ := servesThere.value q literal other cell liveThere
    exact ⟨reply.trans replyThere.symm, shares.same same sameThere⟩
  setOption := by
    rw [serves.setOption, servesThere.setOption]
    exact .none
  setConflictLimit := by
    rw [serves.setConflictLimit, servesThere.setConflictLimit]
    exact .none
  setDecisionLimit := by
    rw [serves.setDecisionLimit, servesThere.setDecisionLimit]
    exact .none

/-- A command is felt by the solver behind its handle and by no other. -/
theorem perform_frame (serves : Serves first here?) {c : Context (GuardedSolver first) σ}
    {cell : Cell engine} (live : here? c.shared c.handle.pointer = some cell) (command : Command) :
    (command.perform.run c).2.handle.pointer = c.handle.pointer ∧
    (∃ next, here? (command.perform.run c).2.shared c.handle.pointer = some next) ∧
    ∀ other ≠ c.handle.pointer, here? (command.perform.run c).2.shared other = here? c.shared other := by
  -- Beside itself, the handle keeps the relation, and the frame is a part of it.
  have twins : Twins (SharesOnly here? here? c.handle.pointer (here? c.shared)) c c :=
    ⟨rfl, rfl, rfl, rfl, ⟨cell, live, live⟩, fun _ _ => rfl⟩
  have simulates : first.Simulates first
      (SharesOnly here? here? c.handle.pointer (here? c.shared)) :=
    simulates_of_serves serves serves
  obtain ⟨_, after⟩ := (agree_of_simulates simulates).perform command c c twins
  obtain ⟨same, ⟨next, kept, _⟩, frame⟩ := after.behind
  exact ⟨same, ⟨next, same ▸ kept⟩, frame⟩

end Pairs

end Builtin

end SatBridge
