import Mathlib
import SatBridge.Pattern.Parser
import SatBridge.Proofs.Pattern.Matching

/-!
# Quoted text

With a backslash before each character that means something else, any text is written as a pattern.
Main statement: the pattern that is read from a quoted text is contained in exactly those texts that
contain the text itself.
-/

set_option autoImplicit false

namespace SatBridge.Pattern

/-- A character as it is written where it stands for itself. -/
def quoted (c : Char) : List Char :=
  if Scan.isEscapable c then ['\\', c] else [c]

def quote (cs : List Char) : List Char :=
  cs.flatMap quoted

def exactly (c : Char) : Pattern :=
  .character fun other => decide (other = c)

/-- The pattern of one text only. -/
def literal (cs : List Char) : Pattern :=
  cs.foldr (fun c rest => .sequence (exactly c) rest) .empty

namespace Scan

section Steps

variable {c : Char}

theorem isAlphanum_of_isEscapable (escapable : isEscapable c = true) : c.isAlphanum = false := by
  simp only [isEscapable, Bool.and_eq_true, Bool.not_eq_true'] at escapable
  exact escapable.1.1.2

theorem escape_quoted (escapable : isEscapable c = true) (rest : List Char) (place : Nat) :
    (escape false).run ⟨'\\' :: c :: rest, place, .default, [], none⟩ =
      .ok (.literal c, ⟨rest, place + 2, .default, [], none⟩) := by
  have unnamed := isAlphanum_of_isEscapable escapable
  have undigit : c.isDigit = false := by
    rw [Char.isAlphanum, Bool.or_eq_false_iff] at unnamed
    exact unnamed.2
  have other : ∀ letter : Char, letter.isAlphanum = true → c ≠ letter := by
    rintro letter named rfl
    exact Bool.false_ne_true (unnamed.symm.trans named)
  simp [escape, shortEscape, next?, flags, Scan.place, advance, advanceBy, undigit, other,
    escapable]
  rfl

theorem primitive_quoted (c : Char) (rest : List Char) (place : Nat) :
    primitive.run ⟨quoted c ++ rest, place, .default, [], none⟩ =
      .ok (exactly c, ⟨rest, place + (quoted c).length, .default, [], none⟩) := by
  unfold quoted
  split
  case isTrue escapable =>
    simp [primitive, next?, flags, nextSpan, Scan.place, escape_quoted escapable, Flags.fold]
    rfl
  case isFalse unescapable =>
    simp [primitive, next?, flags, nextSpan, Scan.place, advance, advanceBy, Flags.fold]
    -- every sign that means something else can be escaped, so only the branch of letters is left
    split
    case h_5 same =>
      cases same
      rfl
    case h_6 same => cases same
    all_goals
      rename_i same
      cases same
      exact absurd rfl unescapable

theorem branches_quoted (steps : Nat) (b : Branches) (c : Char) (rest : List Char) (place : Nat) :
    (branches (steps + 1) b []).run ⟨quoted c ++ rest, place, .default, [], none⟩ =
      (branches steps (b.push (some (exactly c))) []).run
        ⟨rest, place + (quoted c).length, .default, [], none⟩ := by
  have ordinary : ∃ sign, (quoted c ++ rest).head? = some sign ∧
      sign ∉ ['(', ')', '|', '[', '?', '*', '+', '\x7b'] := by
    unfold quoted
    split
    case isTrue escapable => exact ⟨'\\', rfl, by decide⟩
    case isFalse unescapable =>
      refine ⟨c, rfl, fun member => unescapable ?_⟩
      have signs : ['(', ')', '|', '[', '?', '*', '+', '\x7b'].all isEscapable = true := by
        decide +kernel
      exact List.all_eq_true.mp signs c member
  obtain ⟨sign, first, ordinary⟩ := ordinary
  have unspaced : Flags.default.spaced = false := rfl
  simp only [List.mem_cons, List.not_mem_nil, or_false, not_or] at ordinary
  simp [branches, skipBlanks, next?, first, ordinary, primitive_quoted, unspaced]
  rfl

end Steps

theorem branches_quote (cs : List Char) {steps : Nat} (enough : cs.length < steps)
    (parts : List (Option Pattern)) (place : Nat) :
    (branches steps ⟨none, parts⟩ []).run ⟨quote cs, place, .default, [], none⟩ =
      .ok (Branches.pattern ⟨none, (cs.map (some ∘ exactly)).reverse ++ parts⟩,
        ⟨[], place + (quote cs).length, .default, [], none⟩) := by
  induction cs generalizing steps parts place with
  | nil =>
      obtain ⟨steps, rfl⟩ := Nat.exists_eq_add_of_lt enough
      have unspaced : Flags.default.spaced = false := rfl
      simp [quote, branches, skipBlanks, next?, unspaced]
      rfl
  | cons c cs ih =>
      obtain ⟨steps, rfl⟩ := Nat.exists_eq_succ_of_ne_zero (Nat.ne_zero_of_lt enough)
      have read := ih (Nat.lt_of_succ_lt_succ enough) (some (exactly c) :: parts)
        (place + (quoted c).length)
      have shape : quote (c :: cs) = quoted c ++ quote cs := List.flatMap_cons
      rw [shape, branches_quoted, Branches.push, read]
      simp [Nat.add_assoc]

end Scan

theorem pattern_exactly (cs : List Char) :
    Branches.pattern ⟨none, (cs.map (some ∘ exactly)).reverse⟩ = literal cs := by
  simp [Branches.pattern, literal, List.foldr_map]

theorem size_literal (cs : List Char) : (literal cs).size = cs.length + 1 := by
  induction cs with
  | nil => rfl
  | cons c cs ih =>
      have shape : (literal (c :: cs)).size = 1 + (literal cs).size := rfl
      rw [shape, ih, List.length_cons]
      omega

theorem length_le_quote (cs : List Char) : cs.length ≤ (quote cs).length := by
  induction cs with
  | nil => exact Nat.zero_le _
  | cons c cs ih =>
      have shape : quote (c :: cs) = quoted c ++ quote cs := List.flatMap_cons
      have positive : 1 ≤ (quoted c).length := by
        unfold quoted
        split <;> simp
      rw [shape, List.length_append, List.length_cons]
      omega

/-- A quoted text is read as the pattern of that text, unless it is too long. -/
theorem ofChars_quote {cs : List Char} (short : cs.length < maxSize) :
    ofChars (quote cs) = .ok (literal cs) := by
  have read := Scan.branches_quote cs (Nat.lt_succ_of_le (length_le_quote cs)) [] 0
  rw [List.append_nil, pattern_exactly] at read
  have small : ¬maxSize < (literal cs).size := by
    rw [size_literal]
    exact Nat.not_lt.mpr short
  unfold ofChars Branches.empty
  rw [read]
  exact if_neg small

theorem cons_prefix_drop_iff {c : Char} {cs written : List Char} {i : Nat} :
    c :: cs <+: written.drop i ↔ written[i]? = some c ∧ cs <+: written.drop (i + 1) := by
  rw [← List.head?_drop, ← List.tail_drop]
  cases written.drop i with
  | nil => simp
  | cons d rest => simp [List.cons_prefix_cons, eq_comm]

theorem describes_literal_iff {text : Array Char} {cs : List Char} {i j : Nat} :
    Describes text (literal cs) i j ↔ cs <+: text.toList.drop i ∧ j = i + cs.length := by
  induction cs generalizing i with
  | nil => simp [literal, Describes, eq_comm]
  | cons c cs ih =>
      have shape : Describes text (literal (c :: cs)) i j ↔
          text[i]? = some c ∧ Describes text (literal cs) (i + 1) j := by
        simp [literal, exactly, Describes]
      rw [shape, ih, cons_prefix_drop_iff, List.length_cons, Array.getElem?_toList, and_assoc]
      simp only [Nat.add_assoc, Nat.add_comm 1]

/-- A text contains the pattern of another text exactly if it contains that text. -/
theorem isIn_literal_iff {cs : List Char} {text : String} :
    (literal cs).isIn text = true ↔ cs <:+: text.toList := by
  simp only [isIn_iff, describes_literal_iff]
  constructor
  · rintro ⟨i, _, _, here, _⟩
    exact here.isInfix.trans (List.drop_suffix i _).isInfix
  · rintro ⟨before, behind, whole⟩
    refine ⟨before.length, _, ?_, ?_, rfl⟩
    · rw [← whole, List.append_assoc, List.length_append]
      exact Nat.le_add_right ..
    · rw [← whole, List.append_assoc, List.drop_left]
      exact List.prefix_append ..

theorem isIn_quote_iff {cs : List Char} (short : cs.length < maxSize) :
    ∃ p, ofChars (quote cs) = .ok p ∧ ∀ text : String, p.isIn text = true ↔ cs <:+: text.toList :=
  ⟨literal cs, ofChars_quote short, fun _ => isIn_literal_iff⟩

end SatBridge.Pattern
