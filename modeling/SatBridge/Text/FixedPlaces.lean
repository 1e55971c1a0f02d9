/-!
# Floats with a fixed number of decimal places

The exact value of a finite float that is not negative, rounded to a number of decimal places.
A value half way between two neighbours goes to the even one.
-/

set_option autoImplicit false

namespace SatBridge.Text.FixedPlaces

/-- The natural number nearest to a quotient, the even one of two that are equally near. -/
def roundDiv (num den : Nat) : Nat :=
  let floor := num / den
  let twice := 2 * (num % den)
  if twice < den ∨ (twice = den ∧ floor % 2 = 0) then floor else floor + 1

/-- A fraction with the value of a finite float that is not negative: the numerator, then the
denominator. -/
def fraction (x : Float) : Nat × Nat :=
  let bits := x.toBits.toNat
  let exponent := bits / Nat.pow 2 52 % Nat.pow 2 11
  let mantissa := bits % Nat.pow 2 52
  let (significand, power) :=
    if exponent = 0 then (mantissa, 1) else (mantissa + Nat.pow 2 52, exponent)
  if 1075 ≤ power then (significand * Nat.pow 2 (power - 1075), 1)
  else (significand, Nat.pow 2 (1075 - power))

/-- A count of units in the last of some decimal places, written with the point. -/
def ofUnits (places units : Nat) : List Char :=
  let digits := Nat.toDigits 10 (units % Nat.pow 10 places)
  Nat.toDigits 10 (units / Nat.pow 10 places) ++ ['.'] ++
    List.replicate (places - digits.length) '0' ++ digits

/-- The text of a finite float that is not negative. -/
def ofFloat (places : Nat) (x : Float) : List Char :=
  let (num, den) := fraction x
  ofUnits places (roundDiv (num * Nat.pow 10 places) den)

end SatBridge.Text.FixedPlaces
