import Mathlib.Data.Char
import SatBridge.Pattern.Escape

/-!
# Classes of characters

The tables of blanks, digits and word characters are compared range by range. Main statements: in
every script, digits are word characters and blanks are none; on ASCII the classes that a letter
names do not depend on the flags.
-/

set_option autoImplicit false

namespace SatBridge.Text

def inRanges (ranges : List (Nat × Nat)) (n : Nat) : Bool :=
  ranges.any fun (low, high) => low ≤ n && n ≤ high

def covered (inner outer : List (Nat × Nat)) : Bool :=
  inner.all fun range => outer.any fun around => around.1.ble range.1 && range.2.ble around.2

def apart (ranges others : List (Nat × Nat)) : Bool :=
  ranges.all fun range => others.all fun other => range.2.blt other.1 || other.2.blt range.1

section Ranges

variable {ranges others : List (Nat × Nat)} {n : Nat} {c : Char}

theorem inRanges_iff : inRanges ranges n = true ↔ ∃ range ∈ ranges, range.1 ≤ n ∧ n ≤ range.2 := by
  simp [inRanges]

theorem inRanges_of_covered (cover : covered ranges others = true)
    (within : inRanges ranges n = true) : inRanges others n = true := by
  obtain ⟨range, member, low, high⟩ := inRanges_iff.mp within
  obtain ⟨around, aroundMember, bounds⟩ :=
    List.any_eq_true.mp (List.all_eq_true.mp cover range member)
  simp only [Bool.and_eq_true, Nat.ble_eq] at bounds
  exact inRanges_iff.mpr
    ⟨around, aroundMember, Nat.le_trans bounds.1 low, Nat.le_trans high bounds.2⟩

theorem inRanges_of_apart (separate : apart ranges others = true)
    (within : inRanges ranges n = true) : inRanges others n = false := by
  refine Bool.eq_false_iff.mpr fun also => ?_
  obtain ⟨range, member, low, high⟩ := inRanges_iff.mp within
  obtain ⟨other, otherMember, otherLow, otherHigh⟩ := inRanges_iff.mp also
  have disjoint := List.all_eq_true.mp (List.all_eq_true.mp separate range member) other otherMember
  simp only [Bool.or_eq_true, Nat.blt_eq] at disjoint
  omega

/-- Only the first ranges matter to small numbers. -/
theorem inRanges_take {count bound : Nat} (small : n < bound)
    (later : (ranges.drop count).all (fun range => bound.ble range.1) = true) :
    inRanges ranges n = inRanges (ranges.take count) n := by
  have beyond : inRanges (ranges.drop count) n = false := by
    refine Bool.eq_false_iff.mpr fun within => ?_
    obtain ⟨range, member, low, _⟩ := inRanges_iff.mp within
    have above := List.all_eq_true.mp later range member
    simp only [Nat.ble_eq] at above
    omega
  have split : inRanges ranges n =
      (inRanges (ranges.take count) n || inRanges (ranges.drop count) n) := by
    unfold inRanges
    rw [← List.any_append, List.take_append_drop]
  rw [split, beyond, Bool.or_false]

theorem isWordCharacter_of_isScriptDigit (digit : isScriptDigit c = true) :
    isWordCharacter c = true := by
  have cover : covered digitRanges wordRanges = true := by decide +kernel
  exact inRanges_of_covered cover digit

theorem isWordCharacter_of_isBlank (blank : isBlank c = true) : isWordCharacter c = false := by
  have separate : apart blankRanges wordRanges = true := by decide +kernel
  exact inRanges_of_apart separate blank

theorem ascii_all (property : Char → Bool) (ascii : c.toNat < 128)
    (all : (List.range 128).all (fun n => property (Char.ofNat n)) = true) : property c = true := by
  have holds := List.all_eq_true.mp all c.toNat (List.mem_range.mpr ascii)
  rwa [Char.ofNat_toNat] at holds

/-- In ASCII, words are made of letters, digits and the low line. -/
theorem isWordCharacter_of_ascii (ascii : c.toNat < 128) :
    isWordCharacter c = (c.isAlphanum || c = '_') := by
  have first : isWordCharacter c = inRanges (wordRanges.take 4) c.toNat :=
    inRanges_take ascii (by decide +kernel)
  have same := ascii_all
    (fun c => inRanges (wordRanges.take 4) c.toNat == (c.isAlphanum || c = '_')) ascii
    (by decide +kernel)
  exact first.trans (beq_iff_eq.mp same)

theorem isScriptDigit_of_ascii (ascii : c.toNat < 128) : isScriptDigit c = c.isDigit := by
  have first : isScriptDigit c = inRanges (digitRanges.take 1) c.toNat :=
    inRanges_take ascii (by decide +kernel)
  have same := ascii_all (fun c => inRanges (digitRanges.take 1) c.toNat == c.isDigit) ascii
    (by decide +kernel)
  exact first.trans (beq_iff_eq.mp same)

end Ranges

end SatBridge.Text

namespace SatBridge.Pattern

section Letters

variable {flags other : Flags} {c : Char}

theorem isWord_of_ascii (ascii : c.toNat < 128) :
    flags.isWord c = (c.isAlphanum || c = '_') := by
  unfold Flags.isWord
  split
  · exact Text.isWordCharacter_of_ascii ascii
  · rfl

theorem letterClass_upper {letter : Char} (known : letter ∈ ['d', 's', 'w']) :
    Scan.letterClass flags letter.toUpper c = !Scan.letterClass flags letter c := by
  simp only [List.mem_cons, List.not_mem_nil, or_false] at known
  rcases known with rfl | rfl | rfl <;> rfl

theorem letterClass_digit_iff :
    Scan.letterClass flags 'd' c = true ↔
      Text.isScriptDigit c = true ∧ (flags.unicode = true ∨ c.toNat < 128) := by
  simp [Scan.letterClass]

theorem letterClass_blank_iff :
    Scan.letterClass flags 's' c = true ↔
      Text.isBlank c = true ∧ (flags.unicode = true ∨ c.toNat < 128) := by
  simp [Scan.letterClass]

theorem letterClass_word : Scan.letterClass flags 'w' c = flags.isWord c := rfl

theorem isWord_eq_isWordCharacter (known : flags.unicode = true ∨ c.toNat < 128) :
    flags.isWord c = Text.isWordCharacter c := by
  rcases known with unicode | ascii
  · rw [Flags.isWord, if_pos unicode]
  · rw [isWord_of_ascii ascii, Text.isWordCharacter_of_ascii ascii]

theorem isWord_of_digit (digit : Scan.letterClass flags 'd' c = true) :
    Scan.letterClass flags 'w' c = true := by
  obtain ⟨digit, known⟩ := letterClass_digit_iff.mp digit
  rw [letterClass_word, isWord_eq_isWordCharacter known]
  exact Text.isWordCharacter_of_isScriptDigit digit

theorem isWord_of_blank (blank : Scan.letterClass flags 's' c = true) :
    Scan.letterClass flags 'w' c = false := by
  obtain ⟨blank, known⟩ := letterClass_blank_iff.mp blank
  rw [letterClass_word, isWord_eq_isWordCharacter known]
  exact Text.isWordCharacter_of_isBlank blank

/-- The flags change the classes of letters only beyond ASCII. -/
theorem letterClass_of_ascii (ascii : c.toNat < 128) {letter : Char}
    (known : letter ∈ ['d', 's', 'w']) :
    Scan.letterClass flags letter c = Scan.letterClass other letter c := by
  simp only [List.mem_cons, List.not_mem_nil, or_false] at known
  rcases known with rfl | rfl | rfl
  · rw [Bool.eq_iff_iff]
    simp only [letterClass_digit_iff, ascii, or_true]
  · rw [Bool.eq_iff_iff]
    simp only [letterClass_blank_iff, ascii, or_true]
  · rw [letterClass_word, letterClass_word, isWord_of_ascii ascii, isWord_of_ascii ascii]

end Letters

end SatBridge.Pattern
