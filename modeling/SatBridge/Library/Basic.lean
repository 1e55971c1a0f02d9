import SatBridge.Log.Event
import SatBridge.Text.Utf8

/-!
# Solver libraries

A library is a table of entry points over a memory of its own. It hands out pointers to the solvers
that live in that memory; what an entry point does with a pointer, and what it replies, is up to
the library. Some entry points may be missing.
-/

set_option autoImplicit false

namespace SatBridge

/-- What an entry point leaves behind: its reply, the memory, and what it told the log. -/
structure Reply (σ α : Type) where
  value : α
  memory : σ
  events : List LogEvent

namespace Reply

variable {σ α : Type}

def quiet (value : α) (memory : σ) : Reply σ α := ⟨value, memory, []⟩

end Reply

abbrev Entry (σ α : Type) := σ → Reply σ α

/-- The entry points over a memory of type `σ`. -/
structure Library (σ : Type) where
  origin : Origin
  /-- Allocates a solver, or returns the null pointer. -/
  init : Entry σ (Option Pointer)
  release : Pointer → Entry σ Unit
  add : Pointer → Int → Entry σ Unit
  solve : Pointer → Entry σ Int
  value : Pointer → Int → Entry σ Int
  /-- The bytes of a zero-terminated string, or nothing for the null pointer. -/
  signature : Option (σ → Option (List UInt8))
  setOption : Option (Pointer → String → Int → Entry σ Int)
  setConflictLimit : Option (Pointer → Nat → Entry σ Unit)
  setDecisionLimit : Option (Pointer → Nat → Entry σ Unit)

namespace Library

variable {σ : Type}

def offer (lib : Library σ) : Offer where
  signature := lib.signature.isSome
  setOption := lib.setOption.isSome
  setConflictLimit := lib.setConflictLimit.isSome
  setDecisionLimit := lib.setDecisionLimit.isSome

/-- The signature as text. The string ends at its first zero byte, and bytes that are no character
are replaced. -/
def signatureText? (lib : Library σ) (memory : σ) : Option String :=
  match lib.signature with
  | none => none
  | some entry =>
    (entry memory).map fun bytes =>
      String.ofList (Text.Utf8.decode (bytes.takeWhile (· != 0)))

def diagnostic (lib : Library σ) : String :=
  "Library \x7b origin: " ++ lib.origin.diagnostic ++ ", api: " ++ lib.offer.diagnostic ++ " \x7d"

end Library

/-- A library with a memory to start from. -/
structure LoadedLibrary where
  Memory : Type
  library : Library Memory
  memory : Memory

end SatBridge
