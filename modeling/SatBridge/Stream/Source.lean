import SatBridge.Error

/-!
# Byte sources

A source delivers its bytes in pieces and may then fail. A consumer meets the failure only when it
asks for a byte beyond the last piece, so all that can be decided from the delivered bytes is
decided first. Main statement: how a source is cut into pieces does not change its bytes.
-/

set_option autoImplicit false

namespace SatBridge

structure Source where
  /-- The pieces in the order of delivery. -/
  pieces : List (List UInt8)
  /-- What the source answers after the last piece, instead of the end of the data. -/
  failure : Option StreamFault
  deriving DecidableEq, Repr

namespace Source

def ofBytes (bytes : List UInt8) : Source :=
  ⟨[bytes], none⟩

/-- A source that fails before its first byte. -/
def failing (fault : StreamFault) : Source :=
  ⟨[], some fault⟩

def bytes (s : Source) : List UInt8 :=
  s.pieces.flatten

/-- Cuts a list into pieces of `size` elements, the last of them possibly shorter. A consumer takes
an empty piece for the end of the data, so size zero gives no piece at all. -/
def piecesOf (size : Nat) (bytes : List UInt8) : List (List UInt8) :=
  if size = 0 ∨ bytes = [] then []
  else bytes.take size :: piecesOf size (bytes.drop size)
termination_by bytes.length
decreasing_by
  rename_i more
  obtain ⟨usable, filled⟩ := not_or.mp more
  have := List.length_pos_iff.mpr filled
  simp only [List.length_drop]
  omega

/-- A source that delivers at most `size` bytes at a time. -/
def dribbling (size : Nat) (bytes : List UInt8) : Source :=
  ⟨piecesOf size bytes, none⟩

/-- A source that fails once it has delivered `count` bytes. One that is shorter ends instead, and
so does one that delivers nothing of what it should. -/
def failingAfter (count : Nat) (fault : StreamFault) (size : Nat) (bytes : List UInt8) : Source :=
  let reached := count = 0 ∨ (0 < size ∧ count ≤ bytes.length)
  ⟨piecesOf size (bytes.take count), if reached then some fault else none⟩

theorem flatten_piecesOf {size : Nat} (positive : 0 < size) (bytes : List UInt8) :
    (piecesOf size bytes).flatten = bytes := by
  fun_induction piecesOf size bytes with
  | case1 bytes done =>
      rcases done with zero | empty
      · omega
      · simp [empty]
  | case2 bytes _ ih => simp [ih]

@[simp] theorem bytes_dribbling {size : Nat} (positive : 0 < size) (bytes : List UInt8) :
    (dribbling size bytes).bytes = bytes :=
  flatten_piecesOf positive bytes

@[simp] theorem bytes_failingAfter {size : Nat} (positive : 0 < size) (count : Nat)
    (fault : StreamFault) (bytes : List UInt8) :
    (failingAfter count fault size bytes).bytes = bytes.take count :=
  flatten_piecesOf positive _

theorem failure_failingAfter {size count : Nat} {bytes : List UInt8} (positive : 0 < size)
    (within : count ≤ bytes.length) (fault : StreamFault) :
    (failingAfter count fault size bytes).failure = some fault :=
  if_pos (.inr ⟨positive, within⟩)

@[simp] theorem bytes_ofBytes (bytes : List UInt8) : (ofBytes bytes).bytes = bytes := by
  simp [ofBytes, Source.bytes]

end Source

end SatBridge
