import Mathlib
import SatBridge.Pattern.Parser

/-!
# Where reading stands

A cursor stands inside the written pattern that it reads, and a flaw points into it. Main statement:
each step of reading moves the cursor forward inside the text, or meets a flaw inside the text.
-/

set_option autoImplicit false
set_option mvcgen.warning false

namespace SatBridge.Pattern

open Std.Do

/-- The part that is flawed is a stretch of the text, and the part it repeats lies before it. -/
structure Flaw.Inside (written : List Char) (flaw : Flaw) : Prop where
  ordered : flaw.span.start ≤ flaw.span.stop
  bounded : flaw.span.stop ≤ written.length
  earlier : ∀ earlier, flaw.earlier = some earlier →
    earlier.start ≤ earlier.stop ∧ earlier.stop ≤ flaw.span.start

/-- What is remembered with its stretch of the text lies before this place. -/
def Recalled {κ : Type} (span : κ → Span) (place : Nat) (entries : List κ) : Prop :=
  ∀ entry ∈ entries, (span entry).start ≤ (span entry).stop ∧ (span entry).stop ≤ place

/-- The cursor stands in the text, and what it remembers lies before it. -/
structure Cursor.Within (written : List Char) (c : Cursor) : Prop where
  rest : c.rest = written.drop c.place
  inside : c.place ≤ written.length
  names : Recalled Prod.snd c.place c.names
  flaw : ∀ flaw, c.flaw = some flaw → flaw.Inside written

def Cursor.after (count : Nat) (c : Cursor) : Cursor :=
  { c with rest := c.rest.drop count, place := c.place + min count c.rest.length }

/-- The cursor with a flaw that it remembers if there is none before. -/
def Cursor.noted (fault : Fault) (span : Span) (c : Cursor) : Cursor :=
  { c with flaw := c.flaw <|> some ⟨fault, span, none⟩ }

def Cursor.under (flags : Flags) (c : Cursor) : Cursor :=
  { c with flags }

/-- The cursor has moved over a number of characters at least, or to the end of the text. -/
structure Moved (written : List Char) (least : Nat) (c d : Cursor) : Prop where
  within : d.Within written
  forward : min (c.place + least) written.length ≤ d.place

section Recall

variable {κ : Type} {span : κ → Span} {place : Nat} {entries : List κ} {entry : κ}

@[grind .] theorem recalled_nil : Recalled span place [] :=
  fun _ member => by cases member

@[grind =] theorem recalled_cons_iff :
    Recalled span place (entry :: entries) ↔
      ((span entry).start ≤ (span entry).stop ∧ (span entry).stop ≤ place) ∧
        Recalled span place entries :=
  List.forall_mem_cons

theorem Recalled.mono {later : Nat} (recalled : Recalled span place entries)
    (less : place ≤ later) : Recalled span later entries := by
  intro entry member
  obtain ⟨ordered, before⟩ := recalled entry member
  exact ⟨ordered, before.trans less⟩

grind_pattern Recalled.mono => Recalled span place entries, Recalled span later entries

@[grind →] theorem Recalled.found {wanted : κ → Bool} (recalled : Recalled span place entries)
    (found : entries.find? wanted = some entry) :
    (span entry).start ≤ (span entry).stop ∧ (span entry).stop ≤ place :=
  recalled entry (List.mem_of_find?_eq_some found)

end Recall

section Cursors

variable {written : List Char} {c : Cursor} {next : Char}

@[grind =] theorem inside_none_iff {fault : Fault} {span : Span} :
    Flaw.Inside written ⟨fault, span, none⟩ ↔
      span.start ≤ span.stop ∧ span.stop ≤ written.length := by
  constructor
  · intro inside
    exact ⟨inside.ordered, inside.bounded⟩
  · rintro ⟨ordered, bounded⟩
    exact ⟨ordered, bounded, fun earlier absent => by cases absent⟩

@[grind =] theorem inside_some_iff {fault : Fault} {span earlier : Span} :
    Flaw.Inside written ⟨fault, span, some earlier⟩ ↔
      span.start ≤ span.stop ∧ span.stop ≤ written.length ∧
        earlier.start ≤ earlier.stop ∧ earlier.stop ≤ span.start := by
  constructor
  · intro inside
    exact ⟨inside.ordered, inside.bounded, inside.earlier earlier rfl⟩
  · rintro ⟨ordered, bounded, before⟩
    refine ⟨ordered, bounded, fun other same => ?_⟩
    cases same
    exact before

@[grind →] theorem Cursor.Within.length_rest (within : c.Within written) :
    c.place + c.rest.length = written.length := by
  rw [within.rest, List.length_drop]
  exact Nat.add_sub_cancel' within.inside

@[grind →] theorem Cursor.Within.lt_of_next (within : c.Within written)
    (found : c.rest.head? = some next) : c.place < written.length := by
  have filled : c.rest ≠ [] := by
    rintro empty
    rw [empty] at found
    cases found
  have positive := List.length_pos_of_ne_nil filled
  have counted := within.length_rest
  omega

theorem Cursor.Within.place_of_no_next (within : c.Within written) (ended : c.rest.head? = none) :
    c.place = written.length := by
  have counted := within.length_rest
  rw [List.head?_eq_none_iff.mp ended] at counted
  exact counted

theorem Cursor.Within.lt_of_some_next (within : c.Within written)
    (found : ¬c.rest.head?.isNone) : c.place < written.length := by
  obtain ⟨next, here⟩ := Option.ne_none_iff_exists'.mp (mt Option.isNone_iff_eq_none.mpr found)
  exact within.lt_of_next here

@[grind =] theorem Cursor.place_after (count : Nat) :
    (c.after count).place = c.place + min count c.rest.length := rfl

@[grind =] theorem Cursor.names_after (count : Nat) : (c.after count).names = c.names := rfl

theorem Cursor.Within.after (within : c.Within written) (count : Nat) :
    (c.after count).Within written where
  rest := by
    have counted := within.length_rest
    simp only [Cursor.after, within.rest, List.drop_drop, List.length_drop]
    rcases Nat.le_total count (written.length - c.place) with short | long
    · rw [Nat.min_eq_left short]
    · rw [Nat.min_eq_right long, List.drop_eq_nil_of_le (by omega),
        List.drop_eq_nil_of_le (by omega)]
  inside := by
    have counted := within.length_rest
    simp only [Cursor.place_after]
    omega
  names := within.names.mono (Nat.le_add_right ..)
  flaw := within.flaw

grind_pattern Cursor.Within.after => c.Within written, c.after count

@[grind =] theorem Cursor.place_noted (fault : Fault) (span : Span) :
    (c.noted fault span).place = c.place := rfl

@[grind =] theorem Cursor.rest_noted (fault : Fault) (span : Span) :
    (c.noted fault span).rest = c.rest := rfl

@[grind ←] theorem Cursor.Within.noted (within : c.Within written) (fault : Fault) {span : Span}
    (inside : span.start ≤ span.stop ∧ span.stop ≤ written.length) :
    (c.noted fault span).Within written where
  rest := within.rest
  inside := within.inside
  names := within.names
  flaw flaw found := by
    cases earlier : c.flaw with
    | some former =>
        rw [Cursor.noted, earlier] at found
        exact within.flaw flaw (earlier.trans found)
    | none =>
        rw [Cursor.noted, earlier] at found
        cases found
        exact inside_none_iff.mpr inside

/-- A name may be given to what the cursor has left behind. -/
theorem Cursor.Within.named (within : c.Within written) (name : List Char) {span : Span}
    (before : span.start ≤ span.stop ∧ span.stop ≤ c.place) :
    Cursor.Within written { c with names := (name, span) :: c.names } :=
  ⟨within.rest, within.inside, recalled_cons_iff.mpr ⟨before, within.names⟩, within.flaw⟩

@[grind =] theorem Cursor.place_under (flags : Flags) : (c.under flags).place = c.place := rfl

@[grind =] theorem Cursor.rest_under (flags : Flags) : (c.under flags).rest = c.rest := rfl

theorem Cursor.Within.under (within : c.Within written) (flags : Flags) :
    (c.under flags).Within written :=
  ⟨within.rest, within.inside, within.names, within.flaw⟩

grind_pattern Cursor.Within.under => c.Within written, c.under flags

attribute [grind] Moved

end Cursors

namespace Scan

/-! What each elementary step does to what is asked of its outcome. -/

section Elementary

variable {α : Type} {ends : PostCond α (.arg Cursor (.except Flaw .pure))}
  {endsUnit : PostCond Unit (.arg Cursor (.except Flaw .pure))}
  {endsPlace : PostCond Nat (.arg Cursor (.except Flaw .pure))}
  {endsSpan : PostCond Span (.arg Cursor (.except Flaw .pure))}

@[spec] theorem fail_spec (fault : Fault) (span : Span) :
    ⦃fun _ => ends.2.1 ⟨fault, span, none⟩⦄ (fail fault span : Scan α) ⦃ends⦄ := by
  simp [fail, Triple]

@[spec] theorem failAgain_spec (fault : Fault) (span earlier : Span) :
    ⦃fun _ => ends.2.1 ⟨fault, span, some earlier⟩⦄ (failAgain fault span earlier : Scan α)
      ⦃ends⦄ := by
  simp [failAgain, Triple]

@[spec] theorem note_spec (fault : Fault) (span : Span) :
    ⦃fun c => endsUnit.1 () (c.noted fault span)⦄ note fault span ⦃endsUnit⦄ := by
  mvcgen [note]

@[spec] theorem next?_spec {endsNext : PostCond (Option Char) (.arg Cursor (.except Flaw .pure))} :
    ⦃fun c => endsNext.1 c.rest.head? c⦄ next? ⦃endsNext⦄ := by
  mvcgen [next?]

@[spec] theorem flags_spec {endsFlags : PostCond Flags (.arg Cursor (.except Flaw .pure))} :
    ⦃fun c => endsFlags.1 c.flags c⦄ flags ⦃endsFlags⦄ := by
  mvcgen [flags]

@[spec] theorem setFlags_spec (flags : Flags) :
    ⦃fun c => endsUnit.1 () (c.under flags)⦄ setFlags flags ⦃endsUnit⦄ := by
  mvcgen [setFlags]

@[spec] theorem place_spec : ⦃fun c => endsPlace.1 c.place c⦄ place ⦃endsPlace⦄ := by
  mvcgen [place]

@[spec] theorem remaining_spec :
    ⦃fun c => endsPlace.1 (c.rest.length + 1) c⦄ remaining ⦃endsPlace⦄ := by
  mvcgen [remaining]

@[spec] theorem spanFrom_spec (start : Nat) :
    ⦃fun c => endsSpan.1 ⟨start, c.place⟩ c⦄ spanFrom start ⦃endsSpan⦄ := by
  mvcgen [spanFrom]

@[spec] theorem spot_spec : ⦃fun c => endsSpan.1 ⟨c.place, c.place⟩ c⦄ spot ⦃endsSpan⦄ := by
  mvcgen [spot]

@[spec] theorem nextSpan_spec :
    ⦃fun c => endsSpan.1 ⟨c.place, c.place + 1⟩ c⦄ nextSpan ⦃endsSpan⦄ := by
  mvcgen [nextSpan]

@[spec] theorem advanceBy_spec (count : Nat) :
    ⦃fun c => endsUnit.1 () (c.after count)⦄ advanceBy count ⦃endsUnit⦄ := by
  mvcgen [advanceBy]

@[spec] theorem advance_spec : ⦃fun c => endsUnit.1 () (c.after 1)⦄ advance ⦃endsUnit⦄ := by
  mvcgen [advance]

end Elementary

abbrev starts (written : List Char) (start : Cursor) :
    Assertion (.arg Cursor (.except Flaw .pure)) :=
  fun c => ⌜c = start ∧ c.Within written⌝

/-- The step starts at this cursor, which stands behind the place `first`. -/
abbrev startsBehind (written : List Char) (first : Nat) (start : Cursor) :
    Assertion (.arg Cursor (.except Flaw .pure)) :=
  fun c => ⌜c = start ∧ c.Within written ∧ first ≤ c.place⌝

/-- The step moves the cursor forward from where it started, or it meets a flaw inside the text. -/
abbrev moves {α : Type} (written : List Char) (least : Nat) (start : Cursor) :
    PostCond α (.arg Cursor (.except Flaw .pure)) :=
  post⟨fun _ c => ⌜Moved written least start c⌝, fun flaw => ⌜flaw.Inside written⌝⟩

variable {written : List Char} (start : Cursor)

/-- Spelled out, a movement is not mistaken for that of the last step, which starts later. -/
theorem moves_of_forward {α : Type} {scan : Scan α}
    {pre : Assertion (.arg Cursor (.except Flaw .pure))} {least : Nat}
    (forward : ⦃pre⦄ scan ⦃post⟨fun _ c => ⌜c.Within written ∧
      min (start.place + least) written.length ≤ c.place⌝, fun flaw => ⌜flaw.Inside written⌝⟩⦄) :
    ⦃pre⦄ scan ⦃moves written least start⦄ :=
  .of_entails_wp (forward.entails_wp_of_post
    (.mk (fun _ _ reached => ⟨reached.1, reached.2⟩) .rfl))

@[spec] theorem skipBlanks_spec :
    ⦃starts written start⦄ skipBlanks ⦃moves written 0 start⦄ := by
  mvcgen [skipBlanks] with grind

@[spec] theorem advanceOver_spec :
    ⦃starts written start⦄ advanceOver ⦃moves written 1 start⦄ := by
  mvcgen [advanceOver] with grind

@[spec] theorem gather_spec (accepts : Char → Bool) (steps : Nat) :
    ⦃starts written start⦄ gather accepts steps ⦃moves written 0 start⦄ := by
  induction steps generalizing start with
  | zero =>
      mvcgen [gather]
      all_goals grind
  | succ steps ih =>
      mvcgen [gather, ih]
      all_goals grind

@[spec] theorem hexDigits_spec (count : Nat) :
    ⦃starts written start⦄ hexDigits count ⦃moves written 0 start⦄ := by
  induction count generalizing start with
  | zero =>
      mvcgen [hexDigits]
      all_goals grind
  | succ count ih =>
      mvcgen [hexDigits, ih]
      all_goals grind

@[spec] theorem bracedHexDigits_spec (steps : Nat) :
    ⦃starts written start⦄ bracedHexDigits steps ⦃moves written 0 start⦄ := by
  induction steps generalizing start with
  | zero =>
      mvcgen [bracedHexDigits]
      all_goals grind
  | succ steps ih =>
      mvcgen [bracedHexDigits, ih]
      all_goals grind

@[spec] theorem hexLiteral_spec (count : Nat) :
    ⦃starts written start⦄ hexLiteral count ⦃moves written 1 start⦄ := by
  mvcgen [hexLiteral] with grind

@[spec] theorem propertyName_spec :
    ⦃starts written start⦄ propertyName ⦃moves written 1 start⦄ := by
  mvcgen [propertyName] with grind

@[spec] theorem propertyClass_spec (first : Nat) (negated : Bool) :
    ⦃startsBehind written first start⦄ propertyClass first negated ⦃moves written 1 start⦄ := by
  mvcgen [propertyClass] with grind

@[spec] theorem boundaryKind_spec (first : Nat) (isWord : Char → Bool) :
    ⦃startsBehind written first start⦄ boundaryKind first isWord ⦃moves written 0 start⦄ := by
  mvcgen [boundaryKind] with grind

@[spec] theorem shortEscape_spec (first : Nat) (letter : Char) :
    ⦃startsBehind written first start⦄ shortEscape first letter ⦃moves written 1 start⦄ := by
  mvcgen [shortEscape] with grind

@[spec] theorem escape_spec (inClass : Bool) :
    ⦃starts written start⦄ escape inClass ⦃moves written 1 start⦄ := by
  apply moves_of_forward
  mvcgen [escape] with grind

/-- Only where a part starts is there a character for it. -/
@[spec] theorem primitive_spec :
    ⦃fun c => ⌜c = start ∧ c.Within written ∧ c.place < written.length⌝⦄ primitive
      ⦃moves written 1 start⦄ := by
  mvcgen [primitive] with grind

end Scan

end SatBridge.Pattern
