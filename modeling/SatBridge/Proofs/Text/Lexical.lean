import SatBridge.Text.Blank
import SatBridge.Text.Decimal

/-!
# Words and numerals

What the readers of words and of decimal integers accept, said without reading: a word is a
non-empty run between two blanks, and a numeral is a sign, if there is one, and digits.
-/

set_option autoImplicit false

namespace SatBridge.Text

/-- The first character that is not blank. -/
def firstMark? (cs : List Char) : Option Char :=
  cs.find? fun c => !isBlank c

/-- What stands between blanks, empty runs left out. -/
def fields (cs : List Char) : List (List Char) :=
  (cs.splitOnP isBlank).filter fun run => !run.isEmpty

theorem splitOnP_eq_cons_headAndWords (cs : List Char) :
    ∃ runs, cs.splitOnP isBlank = (headAndWords cs).1 :: runs ∧
      (runs.filter fun run => !run.isEmpty) = (headAndWords cs).2 := by
  induction cs with
  | nil => exact ⟨[], rfl, rfl⟩
  | cons c rest ih =>
      obtain ⟨runs, split, later⟩ := ih
      rw [List.splitOnP_cons_eq_if_modifyHead, split]
      by_cases blank : isBlank c = true
      · refine ⟨(headAndWords rest).1 :: runs, by simp [headAndWords, blank], ?_⟩
        rw [List.filter_cons, later]
        cases empty : (headAndWords rest).1.isEmpty <;>
          simp [headAndWords, blank, consWord, empty]
      · refine ⟨runs, by simp [headAndWords, blank], ?_⟩
        simpa [headAndWords, blank] using later

theorem words_eq_fields (cs : List Char) : words cs = fields cs := by
  obtain ⟨runs, split, later⟩ := splitOnP_eq_cons_headAndWords cs
  change consWord (headAndWords cs).1 (headAndWords cs).2 = fields cs
  rw [fields, split, List.filter_cons, later, consWord]
  cases empty : (headAndWords cs).1.isEmpty <;> simp

theorem words_trimLeft (cs : List Char) : words (trimLeft cs) = words cs := by
  induction cs with
  | nil => rfl
  | cons c rest ih =>
      by_cases blank : isBlank c = true
      · have dropped : trimLeft (c :: rest) = trimLeft rest := by simp [trimLeft, blank]
        rw [dropped, ih]
        exact (words_append_blank blank [] rest).symm
      · simp [trimLeft, blank]

theorem firstMark?_eq_head? (cs : List Char) : firstMark? cs = (trimLeft cs).head? := by
  induction cs with
  | nil => rfl
  | cons c rest ih =>
      by_cases blank : isBlank c = true
      · simpa [firstMark?, trimLeft, blank] using ih
      · simp [firstMark?, trimLeft, blank]

theorem fields_append_blank {c : Char} (blank : isBlank c = true) (before after : List Char) :
    fields (before ++ c :: after) = fields before ++ fields after := by
  simp only [← words_eq_fields, words_append_blank blank]

theorem fields_of_not_blank {cs : List Char} (filled : cs ≠ [])
    (unblank : ∀ c ∈ cs, isBlank c = false) : fields cs = [cs] := by
  rw [← words_eq_fields, words_of_not_blank filled unblank]

/-- A text starts with its first word. -/
theorem firstMark?_of_fields {cs : List Char} {c : Char} {word : List Char}
    {more : List (List Char)} (starts : fields cs = (c :: word) :: more) :
    firstMark? cs = some c := by
  induction cs with
  | nil => cases starts
  | cons d rest ih =>
      by_cases blank : isBlank d = true
      · have dropped : fields (d :: rest) = fields rest := fields_append_blank blank [] rest
        rw [dropped] at starts
        simpa [firstMark?, blank] using ih starts
      · obtain ⟨runs, split, _⟩ := splitOnP_eq_cons_headAndWords (d :: rest)
        simp only [fields, split, headAndWords, blank, Bool.false_eq_true, if_false,
          List.filter_cons, List.isEmpty_cons, Bool.not_false, if_true] at starts
        obtain ⟨sameHead, _⟩ := List.cons.inj starts
        obtain ⟨rfl, _⟩ := List.cons.inj sameHead
        simp [firstMark?, blank]

theorem not_blank_of_isDigit {c : Char} (digit : c.isDigit = true) : isBlank c = false := by
  simp only [Char.isDigit, Bool.and_eq_true, decide_eq_true_eq, UInt32.le_iff_toNat_le] at digit
  have low : 48 ≤ c.toNat := digit.1
  have high : c.toNat ≤ 57 := digit.2
  simp [isBlank, blankRanges]
  omega

theorem trimLeft_eq_self {cs : List Char} (first : ∀ c, cs.head? = some c → isBlank c = false) :
    trimLeft cs = cs := by
  cases cs with
  | nil => rfl
  | cons c rest => exact List.dropWhile_cons_of_neg (by simp [first c rfl])

/-- A text without a blank at its ends is its own trimming. -/
theorem trim_eq_self {cs : List Char} (first : ∀ c, cs.head? = some c → isBlank c = false)
    (last : ∀ c, cs.getLast? = some c → isBlank c = false) : trim cs = cs := by
  rw [trim, trimLeft_eq_self first, trimLeft_eq_self, List.reverse_reverse]
  simpa using last

theorem newline_not_mem_of_not_blank {cs : List Char}
    (unblank : ∀ c ∈ cs, isBlank c = false) : '\n' ∉ cs := by
  intro member
  exact absurd (unblank '\n' member) (by decide)

namespace Decimal

/-- What an integer starts with. -/
def IsLead (c : Char) : Prop :=
  c.isDigit = true ∨ c = '-'

theorem isLead_of_mem_ofInt {value : Int} {c : Char} (member : c ∈ ofInt value) : IsLead c := by
  cases value with
  | ofNat n => exact .inl (isDigit_of_mem_ofNat member)
  | negSucc n =>
      rcases List.mem_cons.mp member with rfl | digit
      · exact .inr rfl
      · exact .inl (isDigit_of_mem_ofNat digit)

theorem not_blank_of_mem_ofInt {value : Int} {c : Char} (member : c ∈ ofInt value) :
    isBlank c = false := by
  rcases isLead_of_mem_ofInt member with digit | rfl
  · exact not_blank_of_isDigit digit
  · decide

theorem ofInt_ne_nil (value : Int) : ofInt value ≠ [] := by
  cases value with
  | ofNat n => exact ofNat_ne_nil n
  | negSucc n => exact List.cons_ne_nil _ _

/-- At least one digit and no other character, with the value of the digits. -/
def IsNumeral (cs : List Char) (n : Nat) : Prop :=
  cs ≠ [] ∧ (∀ c ∈ cs, c.isDigit = true) ∧ Nat.ofDigitChars 10 cs 0 = n

inductive IsUnsigned : List Char → Nat → Prop where
  | plain {digits n} : IsNumeral digits n → IsUnsigned digits n
  | plus {digits n} : IsNumeral digits n → IsUnsigned ('+' :: digits) n

inductive IsSigned : List Char → Int → Prop where
  | plain {digits n} : IsNumeral digits n → IsSigned digits n
  | plus {digits n} : IsNumeral digits n → IsSigned ('+' :: digits) n
  | minus {digits n} : IsNumeral digits n → IsSigned ('-' :: digits) (-(n : Int))

theorem digits?_eq_some_iff {cs : List Char} {n : Nat} :
    digits? cs = some n ↔ IsNumeral cs n := by
  unfold digits? IsNumeral
  split
  · rename_i accepted
    simp only [Bool.and_eq_true, Bool.not_eq_true', List.isEmpty_eq_false_iff,
      List.all_eq_true] at accepted
    simp only [Option.some.injEq, accepted.1, ne_eq, not_false_eq_true, true_and]
    exact ⟨fun value => ⟨accepted.2, value⟩, fun numeral => numeral.2⟩
  · rename_i refused
    simp only [Bool.and_eq_true, Bool.not_eq_true', List.isEmpty_eq_false_iff,
      List.all_eq_true] at refused
    simp only [reduceCtorEq, false_iff]
    exact fun numeral => refused ⟨numeral.1, numeral.2.1⟩

theorem IsNumeral.head {c : Char} {cs : List Char} {n : Nat} (numeral : IsNumeral (c :: cs) n) :
    c.isDigit = true :=
  numeral.2.1 c List.mem_cons_self

theorem unsigned?_eq_some_iff {cs : List Char} {n : Nat} :
    unsigned? cs = some n ↔ IsUnsigned cs n := by
  constructor
  · intro read
    unfold unsigned? at read
    split at read
    · exact .plus (digits?_eq_some_iff.mp read)
    · exact .plain (digits?_eq_some_iff.mp read)
  · intro written
    cases written with
    | plus numeral => exact digits?_eq_some_iff.mpr numeral
    | plain numeral =>
        cases cs with
        | nil => exact absurd rfl numeral.1
        | cons c rest =>
            rw [unsigned?_of_isDigit numeral.head]
            exact digits?_eq_some_iff.mpr numeral

theorem signed?_minus (cs : List Char) :
    signed? ('-' :: cs) = (digits? cs).map fun n => -(Int.ofNat n) := by
  rw [signed?]
  cases digits? cs <;> rfl

theorem signed?_eq_some_iff {cs : List Char} {i : Int} :
    signed? cs = some i ↔ IsSigned cs i := by
  constructor
  · intro read
    fun_cases signed? cs with
    | case1 rest =>
        obtain ⟨n, digits, rfl⟩ := Option.map_eq_some_iff.mp read
        exact .plus (digits?_eq_some_iff.mp digits)
    | case2 rest =>
        rw [signed?_minus] at read
        obtain ⟨n, digits, rfl⟩ := Option.map_eq_some_iff.mp read
        exact .minus (digits?_eq_some_iff.mp digits)
    | case3 rest unplus unminus =>
        rw [signed?] at read
        · obtain ⟨n, digits, rfl⟩ := Option.map_eq_some_iff.mp read
          exact .plain (digits?_eq_some_iff.mp digits)
        · exact unplus
        · exact unminus
  · intro written
    cases written with
    | plus numeral => exact Option.map_eq_some_iff.mpr ⟨_, digits?_eq_some_iff.mpr numeral, rfl⟩
    | minus numeral =>
        rw [signed?_minus]
        exact Option.map_eq_some_iff.mpr ⟨_, digits?_eq_some_iff.mpr numeral, rfl⟩
    | plain numeral =>
        cases cs with
        | nil => exact absurd rfl numeral.1
        | cons c rest =>
            rw [signed?_of_isDigit numeral.head]
            exact Option.map_eq_some_iff.mpr ⟨_, digits?_eq_some_iff.mpr numeral, rfl⟩

end Decimal

end SatBridge.Text
