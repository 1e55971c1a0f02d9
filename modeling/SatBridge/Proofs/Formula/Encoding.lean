import SatBridge.Formula.Literal

/-!
# Integers of literals

The integer of a literal is computed on words: the word of the variable is taken for a signed one,
and the negative literal negates it. From `1` to `maxVar` nothing is lost on the way, and decoding
is the inverse. Above that the sign of the word has turned, so the integer is the one of another
literal, and at one literal the negation overflows. Main statement: which literal has no integer,
which literals have the same, which are read back, and what each signed word is decoded to.
-/

set_option autoImplicit false

namespace SatBridge.Literal

/-- The integer of a literal in wrapping arithmetic. -/
def word (l : Literal) : Int32 :=
  if l.positive then l.var.toInt32 else -l.var.toInt32

/-- The literal of the other polarity that has the same word. -/
def counterpart (l : Literal) : Literal :=
  ⟨-l.var, !l.positive⟩

section Words

theorem word_negate (l : Literal) : l.negate.word = -l.word := by
  cases sign : l.positive <;> simp [word, negate, sign, Int32.neg_neg]

theorem word_counterpart (l : Literal) : l.counterpart.word = l.word := by
  cases sign : l.positive <;> simp [word, counterpart, sign, UInt32.toInt32_neg, Int32.neg_neg]

theorem eq_of_word_eq {a b : Literal} (sameWord : a.word = b.word)
    (samePolarity : a.positive = b.positive) : a = b := by
  obtain ⟨var, positive⟩ := a
  obtain ⟨otherVar, otherPositive⟩ := b
  obtain rfl : positive = otherPositive := samePolarity
  have signed : var.toInt32 = otherVar.toInt32 := by
    cases positive
    · exact Int32.neg_inj.mp sameWord
    · exact sameWord
  have unsigned := congrArg Int32.toUInt32 signed
  rw [UInt32.toUInt32_toInt32, UInt32.toUInt32_toInt32] at unsigned
  rw [unsigned]

theorem word_eq_word_iff {a b : Literal} : a.word = b.word ↔ a = b ∨ a = b.counterpart := by
  constructor
  · intro same
    by_cases polarity : a.positive = b.positive
    · exact .inl (eq_of_word_eq same polarity)
    · -- The counterpart stands in for `b`: it has the same word, and the polarity of `a`.
      have opposite : a.positive = b.counterpart.positive := Bool.eq_not.mpr polarity
      exact .inr (eq_of_word_eq (same.trans (word_counterpart b).symm) opposite)
  · rintro (rfl | rfl)
    · rfl
    · exact word_counterpart b

theorem signedVar_eq_toInt (l : Literal) : l.signedVar = l.var.toInt32.toInt := by
  rw [Int32.toInt, UInt32.toBitVec_toInt32, BitVec.toInt_eq_toNat_cond, UInt32.toNat_toBitVec,
    signedVar, index, maxVar]
  split <;> split <;> omega

theorem signedVar_eq_least_iff {l : Literal} :
    l.signedVar = -2147483648 ↔ l.var = 2147483648 := by
  have width := l.index_lt
  rw [← UInt32.toNat_inj]
  change l.signedVar = -2147483648 ↔ l.index = 2147483648
  rw [signedVar, maxVar]
  split <;> omega

theorem toInt_neg_of_ne_least {w : Int32} (negatable : w.toInt ≠ -2147483648) :
    (-w).toInt = -w.toInt := by
  have unleast : w.toBitVec ≠ BitVec.intMin 32 := by
    intro least
    exact negatable (congrArg BitVec.toInt least)
  rw [Int32.toInt, Int32.toBitVec_neg, BitVec.toInt_neg_of_ne_intMin unleast, Int32.toInt]

/-- The integer is the word, except where the negation of the least word overflows. -/
theorem toInt?_eq (l : Literal) :
    l.toInt? = if l = ⟨2147483648, false⟩ then .error .negationOverflow else .ok l.word.toInt := by
  have read := signedVar_eq_toInt l
  obtain ⟨var, positive⟩ := l
  cases positive with
  | true =>
      -- Nothing is negated, so every variable has an integer.
      rw [if_neg (by simp)]
      exact congrArg Except.ok read
  | false =>
      simp only [toInt?, word, Bool.false_eq_true, if_false, mk.injEq, and_true,
        signedVar_eq_least_iff]
      by_cases least : var = 2147483648
      · rw [if_pos least, if_pos least]
      · have negatable : var.toInt32.toInt ≠ -2147483648 := by
          rw [← read]
          exact mt signedVar_eq_least_iff.mp least
        rw [if_neg least, if_neg least, toInt_neg_of_ne_least negatable, read]

theorem toInt?_eq_error_iff {l : Literal} :
    l.toInt? = .error .negationOverflow ↔ l = ⟨2147483648, false⟩ := by
  rw [toInt?_eq]
  by_cases overflows : l = ⟨2147483648, false⟩ <;> simp [overflows]

theorem toInt?_eq_ok_iff {l : Literal} {value : Int} :
    l.toInt? = .ok value ↔ l ≠ ⟨2147483648, false⟩ ∧ l.word.toInt = value := by
  rw [toInt?_eq]
  by_cases overflows : l = ⟨2147483648, false⟩ <;> simp [overflows]

/-- Beside a literal, only its counterpart has the same integer. -/
theorem toInt?_eq_ok_iff_counterpart {a b : Literal} {value : Int} (given : a.toInt? = .ok value) :
    b.toInt? = .ok value ↔ (b = a ∨ b = a.counterpart) ∧ b ≠ ⟨2147483648, false⟩ := by
  obtain ⟨_, rfl⟩ := toInt?_eq_ok_iff.mp given
  rw [toInt?_eq_ok_iff, Int32.toInt_inj, word_eq_word_iff, and_comm]

/-- The negated literal has the negated integer, wherever that fits into a word. -/
theorem toInt?_negate {l : Literal} {value : Int} (given : l.toInt? = .ok value)
    (negatable : value ≠ -2147483648) : l.negate.toInt? = .ok (-value) := by
  obtain ⟨_, rfl⟩ := toInt?_eq_ok_iff.mp given
  refine toInt?_eq_ok_iff.mpr ⟨?_, ?_⟩
  · intro overflows
    obtain rfl : l = ⟨2147483648, true⟩ := by
      rw [← negate_negate l, overflows]
      rfl
    exact negatable rfl
  · rw [word_negate, toInt_neg_of_ne_least negatable]

/-- Opposite to a word in range is one that is out of range. -/
theorem not_wellFormed_counterpart {l : Literal} (wellFormed : l.WellFormed) :
    ¬ l.counterpart.WellFormed := by
  have opposite : l.counterpart.index = (4294967296 - l.index) % 4294967296 :=
    UInt32.toNat_neg l.var
  unfold WellFormed maxVar at *
  omega

end Words

section Integers

variable {l : Literal} {value : Int}

theorem signed_ofSigned (small : value.natAbs < 4294967296) : (ofSigned value).signed = value := by
  rw [signed, index_ofSigned small]
  simp only [ofSigned, decide_eq_true_eq]
  split <;> omega

theorem signed_ne_least (bounded : l.index ≤ maxVar) : l.signed ≠ -2147483648 := by
  intro least
  rw [← natAbs_signed, least] at bounded
  exact absurd bounded (by decide)

theorem ofInt?_signed (wellFormed : l.WellFormed) : ofInt? l.signed = .ok l := by
  obtain ⟨proper, bounded⟩ := wellFormed
  have valid : ¬ (l.signed = 0 ∨ maxVar < l.signed.natAbs) := by
    rw [natAbs_signed]
    exact not_or.mpr ⟨signed_ne_zero proper, Nat.not_lt.mpr bounded⟩
  rw [ofInt?, if_neg valid, ofSigned_signed proper]

theorem ofInt?_eq_ok_iff : ofInt? value = .ok l ↔ l.WellFormed ∧ l.signed = value := by
  constructor
  · intro accepted
    refine ⟨wellFormed_of_ofInt? accepted, ?_⟩
    unfold ofInt? maxVar at accepted
    split at accepted
    · cases accepted
    · cases accepted
      exact signed_ofSigned (by omega)
  · rintro ⟨wellFormed, rfl⟩
    exact ofInt?_signed wellFormed

theorem ofInt?_eq_error_iff {error : Error} :
    ofInt? value = .error error ↔
      (value = 0 ∨ maxVar < value.natAbs) ∧ error = .invalidLiteral value := by
  rw [ofInt?]
  by_cases refused : value = 0 ∨ maxVar < value.natAbs <;> simp [refused, eq_comm]

theorem ofInt?_eq_ok_iff_wellFormed (given : l.toInt? = .ok value) :
    ofInt? value = .ok l ↔ l.WellFormed := by
  rw [ofInt?_eq_ok_iff, and_iff_left_iff_imp]
  intro wellFormed
  rw [toInt?_of_le wellFormed.2] at given
  exact Except.ok.inj given

theorem toInt?_of_ofInt? (accepted : ofInt? value = .ok l) : l.toInt? = .ok value := by
  obtain ⟨wellFormed, rfl⟩ := ofInt?_eq_ok_iff.mp accepted
  exact toInt?_of_le wellFormed.2

theorem toInt_refused_iff (w : Int32) :
    w.toInt = 0 ∨ maxVar < w.toInt.natAbs ↔ w = 0 ∨ w = Int32.minValue := by
  have low := w.le_toInt
  have high := w.toInt_lt
  rw [← Int32.toInt_inj, ← Int32.toInt_inj, Int32.toInt_zero, Int32.toInt_minValue, maxVar]
  omega

end Integers

/-- What the integer of a literal is, and what it says about the literal. -/
structure Encodes (l : Literal) : Prop where
  overflow_iff : l.toInt? = .error .negationOverflow ↔ l = ⟨2147483648, false⟩
  /-- Every other literal has an integer, and a machine computes it with wrapping words. -/
  encoded : l ≠ ⟨2147483648, false⟩ → l.toInt? = .ok l.word.toInt
  readBack_iff : ∀ value, l.toInt? = .ok value → (ofInt? value = .ok l ↔ l.WellFormed)
  /-- An integer is shared with the counterpart, and with no further literal. -/
  shared_iff : ∀ value, l.toInt? = .ok value → ∀ other : Literal, other.toInt? = .ok value ↔
    (other = l ∨ other = l.counterpart) ∧ other ≠ ⟨2147483648, false⟩
  negated : ∀ value, l.toInt? = .ok value → value ≠ -2147483648 → l.negate.toInt? = .ok (-value)
  proper : l.WellFormed → ∃ value, l.toInt? = .ok value ∧ l.negate.toInt? = .ok (-value) ∧
    value ≠ 0
  injective : l.WellFormed → ∀ other : Literal, other.WellFormed →
    other.toInt? = l.toInt? → other = l

structure Decodes (w : Int32) : Prop where
  refused_iff : ∀ error, ofInt? w.toInt = .error error ↔
    (w = 0 ∨ w = Int32.minValue) ∧ error = .invalidLiteral w.toInt
  accepted : ¬ (w = 0 ∨ w = Int32.minValue) →
    ∃ l, ofInt? w.toInt = .ok l ∧ l.WellFormed ∧ l.toInt? = .ok w.toInt

/-- Encoding and decoding are inverse on the literals in range, and what happens at the limits of
the words is known for every literal and every word. -/
theorem encoding_exact : (∀ l : Literal, l.Encodes) ∧ ∀ w : Int32, Decodes w := by
  refine ⟨fun l => ?_, fun w => ?_⟩
  · exact {
      overflow_iff := toInt?_eq_error_iff
      encoded := fun regular => toInt?_eq_ok_iff.mpr ⟨regular, rfl⟩
      readBack_iff := fun value given => ofInt?_eq_ok_iff_wellFormed given
      shared_iff := fun value given other => toInt?_eq_ok_iff_counterpart given
      negated := fun value given negatable => toInt?_negate given negatable
      proper := fun wellFormed => by
        have given := toInt?_of_le wellFormed.2
        have negatable := signed_ne_least wellFormed.2
        exact ⟨l.signed, given, toInt?_negate given negatable, signed_ne_zero wellFormed.1⟩
      injective := fun wellFormed other properOther same => by
        have given := toInt?_of_le wellFormed.2
        obtain ⟨rfl | rfl, _⟩ := (toInt?_eq_ok_iff_counterpart given).mp (same.trans given)
        · rfl
        · exact absurd properOther (not_wellFormed_counterpart wellFormed) }
  · refine ⟨fun error => by rw [ofInt?_eq_error_iff, toInt_refused_iff], fun regular => ?_⟩
    cases given : ofInt? w.toInt with
    | error error =>
        obtain ⟨refused, _⟩ := ofInt?_eq_error_iff.mp given
        exact absurd ((toInt_refused_iff w).mp refused) regular
    | ok l => exact ⟨l, rfl, wellFormed_of_ofInt? given, toInt?_of_ofInt? given⟩

/-- Beyond the range, distinct literals collapse to one integer. -/
example : toInt? ⟨4294967291, true⟩ = .ok (-5) ∧ toInt? ⟨5, false⟩ = .ok (-5) := by
  exact ⟨rfl, rfl⟩

end SatBridge.Literal
