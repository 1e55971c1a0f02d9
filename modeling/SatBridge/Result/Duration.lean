import SatBridge.Text.FixedPlaces

/-!
# Durations

A span of time as a clock reports it, and the two ways in which reports show it.
-/

set_option autoImplicit false

namespace SatBridge

/-- Whole seconds, and nanoseconds below one second. -/
structure Duration where
  seconds : Nat
  nanoseconds : Nat
  deriving DecidableEq, Repr, Inhabited

namespace Duration

def zero : Duration := ⟨0, 0⟩

def ofNanoseconds (count : Nat) : Duration :=
  ⟨count / 1000000000, count % 1000000000⟩

def milliseconds (d : Duration) : Nat :=
  d.seconds * 1000 + d.nanoseconds / 1000000

/-- The seconds as the float sum of the whole seconds and the fraction, each rounded to a float. -/
def toFloat (d : Duration) : Float :=
  d.seconds.toUInt64.toFloat + d.nanoseconds.toUInt64.toFloat / 1000000000

def secondsText (d : Duration) : String :=
  String.ofList (Text.FixedPlaces.ofFloat 3 d.toFloat)

end Duration

end SatBridge
