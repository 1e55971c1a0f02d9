/-!
# Lenient UTF-8

Decoding that never fails: each maximal piece of bytes that is no character, and could not become
one by reading on, is replaced by the replacement character. A piece is the longest beginning of a
well-formed sequence, and one byte if there is none.
-/

set_option autoImplicit false

namespace SatBridge.Text.Utf8

/-- What stands in for bytes that are no character. -/
def replacement : Char := '\uFFFD'

/-- The second bytes that may follow a first byte, as a closed range, and how many bytes follow in
all. A byte that starts no character of several bytes has none. -/
def continuation? (first : UInt8) : Option (UInt8 × UInt8 × Nat) :=
  if 0xC2 ≤ first ∧ first ≤ 0xDF then some (0x80, 0xBF, 1)
  else if first = 0xE0 then some (0xA0, 0xBF, 2)
  else if first = 0xED then some (0x80, 0x9F, 2)
  else if 0xE1 ≤ first ∧ first ≤ 0xEF then some (0x80, 0xBF, 2)
  else if first = 0xF0 then some (0x90, 0xBF, 3)
  else if first = 0xF4 then some (0x80, 0x8F, 3)
  else if 0xF1 ≤ first ∧ first ≤ 0xF3 then some (0x80, 0xBF, 3)
  else none

/-- How many of the bytes after the first belong to its piece: the second byte has a range of its
own, and those after it have the common one. -/
def followers (low high : UInt8) : Nat → List UInt8 → Nat
  | count + 1, byte :: rest =>
    if low ≤ byte ∧ byte ≤ high then followers 0x80 0xBF count rest + 1 else 0
  | _, _ => 0

/-- The character that complete bytes encode, each byte after the first giving six bits. -/
def assemble (lead : Nat) (bytes : List UInt8) : Char :=
  Char.ofNat (bytes.foldl (fun code byte => code * 64 + byte.toNat % 64) lead)

/-- The first character of some bytes and how many of the bytes after the first it takes. -/
def decodeHead (first : UInt8) (rest : List UInt8) : Char × Nat :=
  if first < 0x80 then (Char.ofNat first.toNat, 0)
  else
    match continuation? first with
    | none => (replacement, 0)
    | some (low, high, count) =>
      let taken := followers low high count rest
      if taken = count then
        (assemble (first.toNat % Nat.pow 2 (6 - count)) (rest.take count), count)
      else (replacement, taken)

def decode (bytes : List UInt8) : List Char :=
  match bytes with
  | [] => []
  | first :: rest =>
    let (c, taken) := decodeHead first rest
    c :: decode (rest.drop taken)
termination_by bytes.length
decreasing_by simp only [List.length_cons, List.length_drop]; omega

end SatBridge.Text.Utf8
