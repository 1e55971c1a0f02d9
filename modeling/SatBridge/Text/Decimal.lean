/-!
# Decimal integers

Reading and writing integers in decimal notation. A reader takes ASCII digits only, at least one
of them, with any number of leading zeros; which signs may stand in front differs by reader, and
a caller bounds the value it gets. Main statements: reading gives back what writing produced.
-/

set_option autoImplicit false

namespace SatBridge.Text.Decimal

def ofNat (n : Nat) : List Char :=
  Nat.toDigits 10 n

/-- The decimal digits of an integer, after a minus sign if it is negative. -/
def ofInt : Int → List Char
  | .ofNat n => ofNat n
  | .negSucc n => '-' :: ofNat (n + 1)

/-- Digits only: the sign is left to the callers. -/
def digits? (cs : List Char) : Option Nat :=
  if !cs.isEmpty && cs.all Char.isDigit then some (Nat.ofDigitChars 10 cs 0) else none

/-- Digits, after at most one plus sign. -/
def unsigned? : List Char → Option Nat
  | '+' :: cs => digits? cs
  | cs => digits? cs

/-- Digits, after at most one plus or minus sign. -/
def signed? : List Char → Option Int
  | '+' :: cs => (digits? cs).map Int.ofNat
  | '-' :: cs => (digits? cs).map fun n => -(n : Int)
  | cs => (digits? cs).map Int.ofNat

/-- Every character that writing a natural number produces is a digit. -/
theorem isDigit_of_mem_ofNat {n : Nat} {c : Char} (member : c ∈ ofNat n) : c.isDigit = true :=
  Nat.isDigit_of_mem_toDigits (by decide) (by decide) member

theorem ofNat_ne_nil (n : Nat) : ofNat n ≠ [] :=
  Nat.toDigits_ne_nil

theorem digits?_ofNat (n : Nat) : digits? (ofNat n) = some n := by
  have allDigits : (ofNat n).all Char.isDigit = true :=
    List.all_eq_true.mpr fun _ member => isDigit_of_mem_ofNat member
  have filled : (ofNat n).isEmpty = false := by simpa using ofNat_ne_nil n
  simp only [digits?, allDigits, filled, Bool.not_false, Bool.and_self, if_true]
  exact congrArg some Nat.ofDigitChars_ten_toDigits

/-- Text that starts with a digit has no sign in front. -/
theorem unsigned?_of_isDigit {c : Char} {cs : List Char} (digit : c.isDigit = true) :
    unsigned? (c :: cs) = digits? (c :: cs) := by
  unfold unsigned?
  split
  · rename_i rest same
    obtain ⟨rfl, rfl⟩ := List.cons.inj same
    exact absurd digit (by decide)
  · rfl

theorem signed?_of_isDigit {c : Char} {cs : List Char} (digit : c.isDigit = true) :
    signed? (c :: cs) = (digits? (c :: cs)).map Int.ofNat := by
  unfold signed?
  split
  · rename_i rest same
    obtain ⟨rfl, rfl⟩ := List.cons.inj same
    exact absurd digit (by decide)
  · rename_i rest same
    obtain ⟨rfl, rfl⟩ := List.cons.inj same
    exact absurd digit (by decide)
  · rfl

theorem unsigned?_ofNat (n : Nat) : unsigned? (ofNat n) = some n := by
  cases written : ofNat n with
  | nil => exact absurd written (ofNat_ne_nil n)
  | cons c cs =>
      have digit : c.isDigit = true := isDigit_of_mem_ofNat (n := n) (by simp [written])
      rw [unsigned?_of_isDigit digit, ← written, digits?_ofNat]

theorem signed?_ofNat (n : Nat) : signed? (ofNat n) = some (n : Int) := by
  cases written : ofNat n with
  | nil => exact absurd written (ofNat_ne_nil n)
  | cons c cs =>
      have digit : c.isDigit = true := isDigit_of_mem_ofNat (n := n) (by simp [written])
      rw [signed?_of_isDigit digit, ← written, digits?_ofNat]
      rfl

/-- Reading an integer gives back the integer that was written. -/
theorem signed?_ofInt (i : Int) : signed? (ofInt i) = some i := by
  cases i with
  | ofNat n => exact signed?_ofNat n
  | negSucc n =>
      simp only [ofInt, signed?, digits?_ofNat]
      rfl

end SatBridge.Text.Decimal
