import SatBridge.Library.Basic

/-!
# Scripted libraries

A library that solves nothing and answers from a script, so that every reaction to a library can
be brought about. The script may be changed between calls.
-/

set_option autoImplicit false

namespace SatBridge

inductive ValueReply where
  /-- The literal that was asked for. -/
  | same
  | negated
  | fixed (reply : Int)
  deriving DecidableEq, Repr

def ValueReply.answer : ValueReply → Int → Int
  | .same, literal => literal
  | .negated, literal => -literal
  | .fixed reply, _ => reply

inductive PreviousReply where
  | fixed (previous : Int)
  /-- The length of the name in bytes. -/
  | nameLength
  deriving DecidableEq, Repr

def PreviousReply.answer : PreviousReply → String → Int
  | .fixed previous, _ => previous
  | .nameLength, name => name.utf8ByteSize

structure Script where
  /-- The codes of the coming solve calls, over all solvers. -/
  codes : List Int
  /-- The code once those have run out, which is the last of them. -/
  lastCode : Int
  /-- Replies to the value queries for single literals; the first that fits is given. -/
  replies : List (Int × Int)
  /-- The reply to every other value query. -/
  reply : ValueReply
  failInit : Bool
  previous : PreviousReply
  signature : Option (List UInt8)
  deriving DecidableEq, Repr

namespace Script

/-- Every solve call is satisfiable, and every literal is true. -/
def agreeable : Script where
  codes := []
  lastCode := 10
  replies := []
  reply := .same
  failInit := false
  previous := .fixed (-1)
  signature := none

/-- Lays down the codes of the coming solve calls. Without one, all are satisfiable. -/
def withCodes (codes : List Int) (script : Script) : Script :=
  { script with codes, lastCode := codes.getLastD 10 }

def nextCode (script : Script) : Int × Script :=
  match script.codes with
  | [] => (script.lastCode, script)
  | code :: codes => (code, { script with codes })

def answer (script : Script) (literal : Int) : Int :=
  match script.replies.lookup literal with
  | some reply => reply
  | none => script.reply.answer literal

end Script

namespace Scripted

/-- The script and the number of solvers allocated so far. -/
structure Memory where
  script : Script
  allocated : Nat
  deriving DecidableEq, Repr

def init : Entry Memory (Option Pointer) := fun memory =>
  if memory.script.failInit then .quiet none memory
  else .quiet (some memory.allocated) { memory with allocated := memory.allocated + 1 }

def solve : Entry Memory Int := fun memory =>
  let (code, script) := memory.script.nextCode
  .quiet code { memory with script }

/-- A scripted library that has every optional entry point. -/
def library (origin : Origin) : Library Memory where
  origin := origin
  init := init
  release _ := .quiet ()
  add _ _ := .quiet ()
  solve _ := solve
  value _ literal memory := .quiet (memory.script.answer literal) memory
  signature := some fun memory => memory.script.signature
  setOption := some fun _ name _ memory => .quiet (memory.script.previous.answer name) memory
  setConflictLimit := some fun _ _ => .quiet ()
  setDecisionLimit := some fun _ _ => .quiet ()

end Scripted

/-- The library with only those of its optional entry points that are offered. -/
def Library.restrict {σ : Type} (lib : Library σ) (offer : Offer) : Library σ :=
  { lib with
    signature := if offer.signature then lib.signature else none
    setOption := if offer.setOption then lib.setOption else none
    setConflictLimit := if offer.setConflictLimit then lib.setConflictLimit else none
    setDecisionLimit := if offer.setDecisionLimit then lib.setDecisionLimit else none }

end SatBridge
