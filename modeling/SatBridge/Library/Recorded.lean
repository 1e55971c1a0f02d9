import SatBridge.Library.Basic

/-!
# Recorded libraries

Any library, with a record of the calls that are made on its solvers and of the replies to them.
Solvers are numbered in the order in which they were allocated, so that calls on one solver can be
told from calls on another even where the library itself gives the same pointer to both.
-/

set_option autoImplicit false

namespace SatBridge

/-- A call of an entry point on a numbered solver, with the reply if there is one. -/
inductive Call where
  /-- The number that the new solver got, or nothing for the null pointer. -/
  | init (solver : Option Nat)
  | release (solver : Nat)
  | add (solver : Nat) (value : Int)
  | solve (solver : Nat) (code : Int)
  | value (solver : Nat) (literal reply : Int)
  | setOption (solver : Nat) (name : String) (value previous : Int)
  | setConflictLimit (solver : Nat) (limit : Nat)
  | setDecisionLimit (solver : Nat) (limit : Nat)
  deriving DecidableEq, Repr

/-- The memory of a library, the pointers it gave by number, and the calls in order. -/
structure Recording (σ : Type) where
  memory : σ
  pointers : Array Pointer
  calls : Array Call

namespace Recording

variable {σ α : Type}

def start (memory : σ) : Recording σ := ⟨memory, #[], #[]⟩

/-- Makes a call on a numbered solver and records it with its reply. -/
def perform (solver : Nat) (entry : Pointer → Entry σ α) (call : α → Call) :
    Entry (Recording σ) α := fun r =>
  let reply := entry (r.pointers.getD solver 0) r.memory
  ⟨reply.value, { r with memory := reply.memory, calls := r.calls.push (call reply.value) },
    reply.events⟩

/-- Allocates a solver and gives it the next number. -/
def init (entry : Entry σ (Option Pointer)) : Entry (Recording σ) (Option Pointer) := fun r =>
  let reply := entry r.memory
  let number := reply.value.map fun _ => r.pointers.size
  let pointers := reply.value.elim r.pointers r.pointers.push
  ⟨number, ⟨reply.memory, pointers, r.calls.push (.init number)⟩, reply.events⟩

end Recording

/-- The library with a record of the calls. Asking for the signature is no call on a solver. -/
def Library.recorded {σ : Type} (lib : Library σ) : Library (Recording σ) where
  origin := lib.origin
  init := Recording.init lib.init
  release solver := Recording.perform solver lib.release fun _ => .release solver
  add solver value :=
    Recording.perform solver (fun p => lib.add p value) fun _ => .add solver value
  solve solver := Recording.perform solver lib.solve (.solve solver)
  value solver literal :=
    Recording.perform solver (fun p => lib.value p literal) (.value solver literal)
  signature := lib.signature.map fun entry r => entry r.memory
  setOption := lib.setOption.map fun entry solver name value =>
    Recording.perform solver (fun p => entry p name value) (.setOption solver name value)
  setConflictLimit := lib.setConflictLimit.map fun entry solver limit =>
    Recording.perform solver (fun p => entry p limit) fun _ => .setConflictLimit solver limit
  setDecisionLimit := lib.setDecisionLimit.map fun entry solver limit =>
    Recording.perform solver (fun p => entry p limit) fun _ => .setDecisionLimit solver limit

end SatBridge
