import Mathlib
import SatBridge.Proofs.Pattern.Reading

/-!
# Flaws of a written pattern

What a class or a group remembers of its opening lies before the cursor, so a flaw that is found
later can point back to it. Main statement: reading a pattern ends at the end of the text, or with a
flaw that points into the text.
-/

set_option autoImplicit false
set_option mvcgen.warning false

namespace SatBridge.Pattern

open Std.Do

/-- The brackets that are open were opened before this place. -/
@[grind =] def OpenedBefore (place : Nat) : List ClassFrame → Prop
  | [] => True
  | .bracket _ _ opening :: frames =>
    (opening.start ≤ opening.stop ∧ opening.stop ≤ place) ∧ OpenedBefore place frames
  | .operation _ _ :: frames => OpenedBefore place frames

section Frames

variable {place : Nat} {frames : List ClassFrame}

theorem OpenedBefore.mono {later : Nat} (opened : OpenedBefore place frames)
    (less : place ≤ later) : OpenedBefore later frames := by
  induction frames with
  | nil => trivial
  | cons frame frames ih =>
      cases frame with
      | bracket outer negated opening =>
          exact ⟨⟨opened.1.1, opened.1.2.trans less⟩, ih opened.2⟩
      | operation op left => exact ih opened

grind_pattern OpenedBefore.mono => OpenedBefore place frames, OpenedBefore later frames

theorem OpenedBefore.finishOperations (opened : OpenedBefore place frames) (items : Char → Bool) :
    OpenedBefore place (finishOperations items frames).2 := by
  induction frames generalizing items with
  | nil => trivial
  | cons frame frames ih =>
      cases frame with
      | bracket outer negated opening => exact opened
      | operation op left => exact ih opened _

grind_pattern OpenedBefore.finishOperations =>
  OpenedBefore place frames, Pattern.finishOperations items frames

/-- A class that does not end is reported at its innermost bracket. -/
theorem OpenedBefore.innermost {opening : Span} (opened : OpenedBefore place frames)
    (found : (frames.findSome? fun
      | .bracket _ _ opening => some opening
      | .operation _ _ => none) = some opening) :
    opening.start ≤ opening.stop ∧ opening.stop ≤ place := by
  induction frames with
  | nil => cases found
  | cons frame frames ih =>
      cases frame with
      | bracket outer negated _ =>
          cases found
          exact opened.1
      | operation op left => exact ih opened found

end Frames

namespace Scan

variable {written : List Char} (start : Cursor)

@[spec] theorem advanceIf_spec (word : String) :
    ⦃starts written start⦄ advanceIf word ⦃moves written 0 start⦄ := by
  mvcgen [advanceIf] with grind

@[spec] theorem leadingHyphens_spec (first steps : Nat) :
    ⦃startsBehind written first start⦄ leadingHyphens first steps ⦃moves written 0 start⦄ := by
  induction steps generalizing start with
  | zero =>
      mvcgen [leadingHyphens]
      all_goals grind
  | succ steps ih =>
      mvcgen [leadingHyphens, ih]
      all_goals grind

@[spec] theorem classOpening_spec :
    ⦃starts written start⦄ classOpening
      ⦃post⟨fun opened c => ⌜Moved written 1 start c ∧ opened.2.1.start ≤ opened.2.1.stop ∧
        opened.2.1.stop ≤ c.place⌝, fun flaw => ⌜flaw.Inside written⌝⟩⦄ := by
  mvcgen [classOpening] with grind

@[spec] theorem namedClass?_spec :
    ⦃starts written start⦄ namedClass? ⦃moves written 0 start⦄ := by
  mvcgen [namedClass?] with grind

@[spec] theorem classPrimitive_spec :
    ⦃starts written start⦄ classPrimitive
      ⦃post⟨fun read c => ⌜Moved written 1 start c ∧ start.place ≤ read.2.start ∧
        read.2.start ≤ read.2.stop ∧ read.2.stop ≤ c.place⌝,
        fun flaw => ⌜flaw.Inside written⌝⟩⦄ := by
  mvcgen [classPrimitive] with grind

@[spec] theorem classUnclosed_spec {α : Type} (frames : List ClassFrame) :
    ⦃fun c => ⌜c.Within written ∧ OpenedBefore c.place frames⌝⦄ (classUnclosed frames : Scan α)
      ⦃post⟨fun _ _ => ⌜False⌝, fun flaw => ⌜flaw.Inside written⌝⟩⦄ := by
  mvcgen [classUnclosed]
  rename_i opening c stands
  cases found : opening with
  | none => grind
  | some span =>
      have opened := stands.2.innermost found
      grind

@[spec] theorem classItem_spec (frames : List ClassFrame) :
    ⦃fun c => ⌜c = start ∧ c.Within written ∧ OpenedBefore c.place frames⌝⦄ classItem frames
      ⦃moves written 1 start⦄ := by
  mvcgen [classItem, second?] with grind

@[spec] theorem classOperator?_spec :
    ⦃starts written start⦄ classOperator? ⦃moves written 0 start⦄ := by
  mvcgen [classOperator?] with grind

/-- A bracket at the cursor is no blank. -/
theorem skipBlanks_bracket_spec :
    ⦃fun c => ⌜c = start ∧ c.rest.head? = some '['⌝⦄ skipBlanks
      ⦃post⟨fun _ c => ⌜c = start⌝, fun _ => ⌜False⌝⟩⦄ := by
  unfold skipBlanks
  mvcgen
  · rename_i c stands _
    obtain ⟨rfl, next⟩ := stands
    obtain ⟨rest, written⟩ := List.head?_eq_some_iff.mp next
    have none : blankLength false c.rest = 0 := by
      rw [written]
      rfl
    simp [Cursor.after, none]
  · grind

@[spec] theorem classBody_spec (steps : Nat) (items : Char → Bool) (frames : List ClassFrame) :
    ⦃fun c => ⌜c = start ∧ c.Within written ∧ OpenedBefore c.place frames⌝⦄
      classBody steps items frames ⦃moves written 0 start⦄ := by
  induction steps generalizing start items frames with
  | zero =>
      mvcgen [classBody]
      all_goals grind
  | succ steps ih =>
      apply moves_of_forward
      mvcgen [classBody, ih]
      all_goals grind

/-- A class takes its opening bracket at least. -/
theorem classBody_bracket_spec (steps : Nat) (items : Char → Bool) :
    ⦃fun c => ⌜c = start ∧ c.Within written ∧ c.rest.head? = some '['⌝⦄
      classBody (steps + 1) items [] ⦃moves written 1 start⦄ := by
  unfold classBody
  apply moves_of_forward
  mvcgen [-skipBlanks_spec, skipBlanks_bracket_spec]
  all_goals grind

@[spec] theorem characterClass_spec :
    ⦃fun c => ⌜c = start ∧ c.Within written ∧ c.rest.head? = some '['⌝⦄ characterClass
      ⦃moves written 1 start⦄ := by
  mvcgen [characterClass, -classBody_spec, classBody_bracket_spec] with grind

/-! Groups. -/

@[spec] theorem flagLetters_spec (steps : Nat) (before : List (Char × Span)) :
    ⦃fun c => ⌜c = start ∧ c.Within written ∧ Recalled Prod.snd c.place before⌝⦄
      flagLetters steps before ⦃moves written 0 start⦄ := by
  induction steps generalizing start before with
  | zero =>
      mvcgen [flagLetters]
      all_goals grind
  | succ steps ih =>
      apply moves_of_forward
      mvcgen [flagLetters, ih]
      all_goals grind

@[spec] theorem groupName_spec :
    ⦃starts written start⦄ groupName ⦃moves written 0 start⦄ := by
  mvcgen [groupName]
  case vc7 | vc12 =>
    constructor
    · apply Cursor.Within.named <;> grind
    · grind
  all_goals grind [Cursor.Within.lt_of_some_next, → Cursor.Within.names]

@[spec] theorem groupOpening_spec :
    ⦃fun c => ⌜c = start ∧ c.Within written ∧ c.place < written.length⌝⦄ groupOpening
      ⦃moves written 1 start⦄ := by
  apply moves_of_forward
  mvcgen [groupOpening, orM] invariants
  · post⟨fun _ c => ⌜Moved written 1 start c⌝, fun flaw => ⌜flaw.Inside written⌝⟩
  all_goals grind

@[spec] theorem ofExcept_spec {α : Type} (result : Except Flaw α) :
    ⦃fun c => ⌜c = start ∧ ∀ flaw, result = .error flaw → flaw.Inside written⌝⦄ ofExcept result
      ⦃post⟨fun _ c => ⌜c = start⌝, fun flaw => ⌜flaw.Inside written⌝⟩⦄ := by
  cases result with
  | error flaw =>
      have thrown : (ofExcept (.error flaw) : Scan α) = throw flaw := rfl
      simp +contextual [thrown, Triple]
  | ok value =>
      have returned : (ofExcept (.ok value) : Scan α) = pure value := rfl
      rw [returned]
      mvcgen with grind

@[spec] theorem count_spec :
    ⦃starts written start⦄ count
      ⦃post⟨fun result c => ⌜Moved written 0 start c ∧
        ∀ flaw, result = .error flaw → flaw.Inside written⌝,
        fun flaw => ⌜flaw.Inside written⌝⟩⦄ := by
  mvcgen [count] with grind

@[spec] theorem bounds_spec (first : Nat) :
    ⦃startsBehind written first start⦄ bounds first ⦃moves written 1 start⦄ := by
  apply moves_of_forward
  mvcgen [bounds] with grind

@[spec] theorem countedRepetition_spec :
    ⦃starts written start⦄ countedRepetition ⦃moves written 1 start⦄ := by
  mvcgen [countedRepetition] with grind

@[spec] theorem repetition_spec (operator : Char) (b : Branches) :
    ⦃starts written start⦄ repetition operator b ⦃moves written 1 start⦄ := by
  mvcgen [repetition] with grind

@[spec] theorem branches_spec (steps : Nat) (b : Branches) (frames : List GroupFrame) :
    ⦃fun c => ⌜c = start ∧ c.Within written ∧ Recalled GroupFrame.opening c.place frames⌝⦄
      branches steps b frames
      ⦃post⟨fun _ c => ⌜c.Within written ∧ (start.rest.length < steps → c.place = written.length)⌝,
        fun flaw => ⌜flaw.Inside written⌝⟩⦄ := by
  induction steps generalizing start b frames with
  | zero =>
      mvcgen [branches]
      all_goals grind
  | succ steps ih =>
      mvcgen [branches, ih]
      all_goals grind [Cursor.Within.place_of_no_next]

end Scan

variable {written : List Char}

theorem within_start (written : List Char) :
    Cursor.Within written ⟨written, 0, .default, [], none⟩ :=
  ⟨rfl, Nat.zero_le _, recalled_nil, fun _ absent => by cases absent⟩

/-- What comes of reading a written pattern: its end is reached, or there is a flaw inside it. -/
def ReadThrough (written : List Char) : Except Flaw (Pattern × Cursor) → Prop
  | .ok (_, c) => c.Within written ∧ c.place = written.length
  | .error flaw => flaw.Inside written

theorem readThrough (written : List Char) :
    ReadThrough written ((Scan.branches (written.length + 1) .empty []).run
      ⟨written, 0, .default, [], none⟩) := by
  have spec := Scan.branches_spec ⟨written, 0, .default, [], none⟩ (written.length + 1) .empty []
    ⟨written, 0, .default, [], none⟩ ⟨rfl, within_start written, fun _ member => by cases member⟩
  refine Except.of_wp_eq rfl (ReadThrough written) fun _ => ?_
  simpa [ReadThrough] using spec

/-- A flaw points into the text. -/
theorem Flaw.inside_of_ofChars {flaw : Flaw} (refused : ofChars written = .error (.flawed flaw)) :
    flaw.Inside written := by
  have read := readThrough written
  unfold ofChars at refused
  split at refused
  case h_1 _ found =>
    rw [found] at read
    cases refused
    exact read
  case h_2 p c found =>
    rw [found] at read
    split at refused
    case h_1 noted =>
      cases refused
      exact read.1.flaw _ noted
    case h_2 => split at refused <;> cases refused

/-- A pattern that is accepted has been read to its end, and no part of it is flawed. -/
theorem ofChars_eq_ok {p : Pattern} (accepted : ofChars written = .ok p) :
    p.size ≤ maxSize ∧ ∃ c : Cursor, (Scan.branches (written.length + 1) .empty []).run
      ⟨written, 0, .default, [], none⟩ = .ok (p, c) ∧ c.rest = [] ∧ c.flaw = none := by
  have read := readThrough written
  unfold ofChars at accepted
  split at accepted
  case h_1 => cases accepted
  case h_2 q c found =>
    rw [found] at read
    split at accepted
    case h_1 => cases accepted
    case h_2 unflawed =>
      split at accepted
      case isTrue => cases accepted
      case isFalse small =>
        cases accepted
        refine ⟨Nat.le_of_not_lt small, c, found, ?_, unflawed⟩
        rw [read.1.rest, read.2, List.drop_length]

end SatBridge.Pattern
