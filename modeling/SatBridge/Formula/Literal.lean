import SatBridge.Error

/-!
# Literals

A literal is a variable with a polarity. On the wire and in DIMACS text it is a signed integer:
the variable, negated for a negative literal. Only the variables `1` to `maxVar` have such an
integer of their own; `ofInt?` gives exactly the literals over them.
-/

set_option autoImplicit false

namespace SatBridge

/-- The largest variable whose two literals both have a signed 32-bit integer of their own. -/
def maxVar : Nat := 2147483647

/-- A variable, stored as a 32-bit word, and whether the literal asserts it. -/
structure Literal where
  var : UInt32
  positive : Bool
  deriving DecidableEq, Hashable, Repr, Inhabited

namespace Literal

def index (l : Literal) : Nat :=
  l.var.toNat

/-- A literal is well formed when its variable lies between `1` and `maxVar`. -/
def WellFormed (l : Literal) : Prop :=
  1 ≤ l.index ∧ l.index ≤ maxVar

instance (l : Literal) : Decidable l.WellFormed :=
  inferInstanceAs (Decidable (_ ∧ _))

/-- The literal over a variable that has one. -/
def ofVar? (var : UInt32) (positive : Bool) : Except Error Literal :=
  if 1 ≤ var.toNat ∧ var.toNat ≤ maxVar then .ok ⟨var, positive⟩
  else .error (.variableOutOfRange var.toNat)

def negate (l : Literal) : Literal :=
  { l with positive := !l.positive }

/-- The word of a variable read as a signed 32-bit integer. -/
def signedVar (l : Literal) : Int :=
  if l.index ≤ maxVar then l.index else l.index - 4294967296

/-- The signed integer of a literal. The negative literal over `2147483648` has none, because
its variable reads as the least integer. -/
def toInt? (l : Literal) : Except Error Int :=
  if l.positive then .ok l.signedVar
  else if l.signedVar = -2147483648 then .error .negationOverflow
  else .ok (-l.signedVar)

/-- The variable, negated for a negative literal. -/
def signed (l : Literal) : Int :=
  if l.positive then l.index else -(l.index : Int)

/-- The literal with the size of an integer for its variable and the sign for its polarity. -/
def ofSigned (value : Int) : Literal :=
  ⟨value.natAbs.toUInt32, decide (0 < value)⟩

/-- The literal of a signed integer. Zero ends a clause, and the least 32-bit integer has no
negation, so neither is a literal. -/
def ofInt? (value : Int) : Except Error Literal :=
  if value = 0 ∨ maxVar < value.natAbs then .error (.invalidLiteral value)
  else .ok (ofSigned value)

/-- Literals are ordered by variable, the negative literal first. -/
def le (a b : Literal) : Bool :=
  decide (a.index < b.index) || (decide (a.index = b.index) && (!a.positive || b.positive))

def sort (literals : List Literal) : List Literal :=
  literals.mergeSort le

@[simp] theorem index_negate (l : Literal) : l.negate.index = l.index := by
  simp [negate, index]

@[simp] theorem positive_negate (l : Literal) : l.negate.positive = !l.positive := rfl

@[simp] theorem negate_negate (l : Literal) : l.negate.negate = l := by
  cases l
  simp [negate]

theorem index_lt (l : Literal) : l.index < 4294967296 :=
  l.var.toNat_lt

/-- A variable in range reads as itself. -/
theorem signedVar_of_le {l : Literal} (bounded : l.index ≤ maxVar) : l.signedVar = l.index :=
  if_pos bounded

theorem toInt?_of_le {l : Literal} (bounded : l.index ≤ maxVar) : l.toInt? = .ok l.signed := by
  have small : l.index ≤ 2147483647 := bounded
  have negatable : (l.index : Int) ≠ -2147483648 := by omega
  cases sign : l.positive <;> simp [toInt?, signed, signedVar_of_le bounded, sign, negatable]

@[simp] theorem natAbs_signed (l : Literal) : l.signed.natAbs = l.index := by
  cases sign : l.positive <;> simp [signed, sign]

theorem signed_ne_zero {l : Literal} (proper : 1 ≤ l.index) : l.signed ≠ 0 := by
  rw [← Int.natAbs_ne_zero, natAbs_signed]
  exact Nat.ne_of_gt proper

theorem index_ofSigned {value : Int} (small : value.natAbs < 4294967296) :
    (ofSigned value).index = value.natAbs := by
  simp [ofSigned, index, Nat.mod_eq_of_lt small]

/-- No two literals over a proper variable have the same signed variable. -/
theorem ofSigned_signed {l : Literal} (proper : 1 ≤ l.index) : ofSigned l.signed = l := by
  have sameVar : l.signed.natAbs.toUInt32 = l.var := by
    rw [natAbs_signed]
    exact UInt32.ofNat_toNat
  have sameSign : decide (0 < l.signed) = l.positive := by
    cases sign : l.positive
    · simp only [signed, sign, Bool.false_eq_true, if_false, decide_eq_false_iff_not]
      omega
    · simp only [signed, sign, if_true, decide_eq_true_eq]
      omega
  unfold ofSigned
  rw [sameVar, sameSign]

theorem wellFormed_of_ofInt? {value : Int} {l : Literal} (accepted : ofInt? value = .ok l) :
    l.WellFormed := by
  unfold ofInt? at accepted
  split at accepted
  · cases accepted
  · rename_i valid
    obtain ⟨nonzero, bounded⟩ := not_or.mp valid
    cases accepted
    have small : value.natAbs ≤ 2147483647 := Nat.not_lt.mp bounded
    unfold WellFormed
    rw [index_ofSigned (by omega)]
    exact ⟨Int.natAbs_pos.mpr nonzero, small⟩

end Literal

abbrev Clause := List Literal

end SatBridge
