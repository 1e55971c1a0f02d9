import SatBridge.Error

/-!
# Byte sinks

A sink that takes a limited number of bytes. Of a longer text it keeps the beginning, and whoever
wrote the text learns that it did not fit.
-/

set_option autoImplicit false

namespace SatBridge

/-- How many bytes a sink takes; without a limit it takes every text. -/
structure Sink where
  limit : Option Nat
  deriving DecidableEq, Repr

namespace Sink

def unbounded : Sink := ⟨none⟩

/-- The bytes of a text that a sink keeps. -/
def kept (sink : Sink) (bytes : List UInt8) : List UInt8 :=
  match sink.limit with
  | none => bytes
  | some limit => bytes.take limit

/-- What the writer of a text learns. -/
def write (sink : Sink) (bytes : List UInt8) : Except Error Unit :=
  if (sink.kept bytes).length = bytes.length then .ok () else .error (.stream .sinkFull)

end Sink

end SatBridge
