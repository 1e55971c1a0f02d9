import Mathlib
import SatBridge.Proofs.Log.Filter
import SatBridge.Proofs.Pattern.Quoting
import SatBridge.Proofs.Text.Lexical

/-!
# Written log filters

Directives are written with commas between them, and behind a slash a text to look for. Main
statement: every list of proper directives, with or without such a text, is read as it was written,
and without a warning.
-/

set_option autoImplicit false

namespace SatBridge

def levelWord : Nat → List Char
  | 0 => "off".toList
  | 1 => "error".toList
  | 2 => "warn".toList
  | 3 => "info".toList
  | 4 => "debug".toList
  | _ => "trace".toList

namespace Directive

def written (d : Directive) : List Char :=
  match d.name with
  | none => levelWord d.rank
  | some name => name ++ '=' :: levelWord d.rank

/-- A directive that can be written: its rank is that of a word, and no sign of the format is in its
name. -/
structure Proper (d : Directive) : Prop where
  ranked : d.rank ≤ maxRank
  plain : ∀ name, d.name = some name → ∀ c ∈ name, c ≠ ',' ∧ c ≠ '/' ∧ c ≠ '='
  unblank : ∀ name first, d.name = some name → name.head? = some first →
    Text.isBlank first = false

section Words

variable {rank : Nat} {c : Char}

theorem rank?_levelWord (ranked : rank ≤ maxRank) : rank? (levelWord rank) = some rank := by
  have bounded : rank ≤ 5 := ranked
  interval_cases rank <;> rfl

theorem isLower_of_mem_levelWord (member : c ∈ levelWord rank) : c.isLower = true := by
  have lower : (levelWord rank).all Char.isLower = true := by
    unfold levelWord
    split <;> decide +kernel
  exact List.all_eq_true.mp lower c member

theorem not_mem_levelWord (sign : c.isLower = false) (rank : Nat) : c ∉ levelWord rank := by
  intro member
  rw [isLower_of_mem_levelWord member] at sign
  cases sign

theorem not_blank_of_isLower (lower : c.isLower = true) : Text.isBlank c = false := by
  simp only [Char.isLower, Bool.and_eq_true, decide_eq_true_eq, UInt32.le_iff_toNat_le] at lower
  have low : 97 ≤ c.toNat := lower.1
  have high : c.toNat ≤ 122 := lower.2
  simp [Text.isBlank, Text.blankRanges]
  omega

theorem levelWord_ne_nil (rank : Nat) : levelWord rank ≠ [] := by
  unfold levelWord
  split <;> decide

theorem trim_levelWord (rank : Nat) : Text.trim (levelWord rank) = levelWord rank :=
  Text.trim_eq_self
    (fun _ first => not_blank_of_isLower
      (isLower_of_mem_levelWord (List.mem_of_mem_head? first)))
    (fun _ last => not_blank_of_isLower
      (isLower_of_mem_levelWord (List.mem_of_getLast? last)))

end Words

section Reading

variable {d : Directive}

theorem ofChars_written (proper : d.Proper) : ofChars d.written = .ok d := by
  obtain ⟨name, rank⟩ := d
  have ranked : rank? (levelWord rank) = some rank := rank?_levelWord proper.ranked
  have unsigned : '=' ∉ levelWord rank := not_mem_levelWord rfl rank
  cases name with
  | none =>
      have plain : ∀ c ∈ levelWord rank, (c != '=') = true := fun c member =>
        bne_iff_ne.mpr (ne_of_mem_of_not_mem member unsigned)
      have head : (levelWord rank).takeWhile (· != '=') = levelWord rank :=
        List.takeWhile_eq_self_iff.mpr plain
      have tail : (levelWord rank).dropWhile (· != '=') = [] := List.dropWhile_eq_nil_iff.mpr plain
      simp [ofChars, written, head, tail, ranked]
  | some name =>
      have unequal : ∀ c ∈ name, (c != '=') = true := fun c member =>
        bne_iff_ne.mpr (proper.plain name rfl c member).2.2
      simp [ofChars, written, List.takeWhile_append_of_pos unequal,
        List.dropWhile_append_of_pos unequal, unsigned, trim_levelWord, ranked, levelWord_ne_nil]

theorem mem_written {c : Char} (member : c ∈ d.written) :
    (∃ name, d.name = some name ∧ c ∈ name) ∨ c = '=' ∨ c.isLower = true := by
  unfold written at member
  split at member
  · exact .inr (.inr (isLower_of_mem_levelWord member))
  · rename_i name named
    rcases List.mem_append.mp member with member | member
    · exact .inl ⟨name, named, member⟩
    · exact .inr ((List.mem_cons.mp member).imp_right isLower_of_mem_levelWord)

theorem written_plain (proper : d.Proper) {c : Char} (member : c ∈ d.written) :
    c ≠ ',' ∧ c ≠ '/' := by
  rcases mem_written member with ⟨name, named, member⟩ | rfl | lower
  · obtain ⟨comma, slash, _⟩ := proper.plain name named c member
    exact ⟨comma, slash⟩
  · decide
  · constructor <;>
    · rintro rfl
      exact absurd lower (by decide)

theorem written_ne_nil (d : Directive) : d.written ≠ [] := by
  unfold written
  split
  · exact levelWord_ne_nil _
  · simp

theorem trim_written (proper : d.Proper) : Text.trim d.written = d.written := by
  apply Text.trim_eq_self
  · intro c first
    unfold written at first
    split at first
    · exact not_blank_of_isLower (isLower_of_mem_levelWord (List.mem_of_mem_head? first))
    · rename_i name named
      cases name with
      | nil =>
          cases first
          decide
      | cons head name =>
          cases first
          exact proper.unblank _ _ named rfl
  · intro c last
    have word : ∀ before : List Char, (before ++ levelWord d.rank).getLast? =
        (levelWord d.rank).getLast? := fun before =>
      List.getLast?_append_of_ne_nil before (levelWord_ne_nil _)
    have same : d.written.getLast? = (levelWord d.rank).getLast? := by
      unfold written
      split
      · rfl
      · rw [List.append_cons, word]
    rw [same] at last
    exact not_blank_of_isLower (isLower_of_mem_levelWord (List.mem_of_getLast? last))

end Reading

end Directive

namespace LogFilter

/-- Directives with commas between them, and a text to look for behind a slash. -/
def written (directives : List Directive) (sought : Option (List Char)) : String :=
  String.ofList (['/'].intercalate
    ([','].intercalate (directives.map Directive.written) :: (sought.map Pattern.quote).toList))

theorem splitAt_cons {separator c : Char} {cs part : List Char} {rest : List (List Char)}
    (split : splitAt separator cs = part :: rest) :
    splitAt separator (c :: cs) =
      if c = separator then [] :: part :: rest else (c :: part) :: rest := by
  unfold splitAt at split ⊢
  rw [List.foldr_cons, split]

theorem splitAt_eq_splitOn (separator : Char) (cs : List Char) :
    splitAt separator cs = cs.splitOn separator := by
  induction cs with
  | nil => rfl
  | cons c cs ih =>
      unfold List.splitOn at ih ⊢
      cases split : cs.splitOnP (· == separator) with
      | nil => exact absurd split (List.splitOnP_ne_nil _ _)
      | cons part rest =>
          rw [splitAt_cons (ih.trans split), List.splitOnP_cons_eq_if_modifyHead, split]
          simp

theorem mem_intercalate {separator c : Char} {parts : List (List Char)}
    (member : c ∈ [separator].intercalate parts) : c = separator ∨ ∃ part ∈ parts, c ∈ part := by
  induction parts with
  | nil => cases member
  | cons part rest ih =>
      cases rest with
      | nil =>
          rw [List.intercalate_singleton] at member
          exact .inr ⟨part, List.mem_cons_self, member⟩
      | cons next rest =>
          rw [List.intercalate_cons_cons, List.mem_append, List.mem_append] at member
          rcases member with (member | member) | member
          · exact .inr ⟨part, List.mem_cons_self, member⟩
          · exact .inl (List.mem_singleton.mp member)
          · refine (ih member).imp_right ?_
            rintro ⟨found, inside, member⟩
            exact ⟨found, List.mem_cons_of_mem _ inside, member⟩

section Written

variable {directives : List Directive} {sought : Option (List Char)}

theorem entries_written (proper : ∀ d ∈ directives, d.Proper) :
    entries ([','].intercalate (directives.map Directive.written)) = directives.map .ok := by
  cases filled : directives with
  | nil => rfl
  | cons first rest =>
      rw [← filled]
      have plain : ∀ part ∈ directives.map Directive.written, ',' ∉ part := by
        intro part member comma
        obtain ⟨d, inside, rfl⟩ := List.mem_map.mp member
        exact (Directive.written_plain (proper d inside) comma).1 rfl
      have parts : splitAt ',' ([','].intercalate (directives.map Directive.written)) =
          directives.map Directive.written := by
        rw [splitAt_eq_splitOn, List.splitOn_intercalate _ plain (by simp [filled])]
      have trimmed : (directives.map Directive.written).map Text.trim =
          directives.map Directive.written := by
        rw [List.map_map]
        exact List.map_congr_left fun d member => Directive.trim_written (proper d member)
      have whole : (directives.map Directive.written).filter (fun part => !part.isEmpty) =
          directives.map Directive.written := by
        refine List.filter_eq_self.mpr fun part member => ?_
        obtain ⟨d, _, rfl⟩ := List.mem_map.mp member
        simp [Directive.written_ne_nil]
      rw [entries, parts, trimmed, whole, List.map_map]
      exact List.map_congr_left fun d member => Directive.ofChars_written (proper d member)

theorem slash_not_mem_quote {cs : List Char} (plain : '/' ∉ cs) : '/' ∉ Pattern.quote cs := by
  intro member
  obtain ⟨c, inside, member⟩ := List.mem_flatMap.mp member
  have other : '/' ≠ c := by
    rintro rfl
    exact plain inside
  unfold Pattern.quoted at member
  split at member <;> simp [other] at member

theorem sections?_written (proper : ∀ d ∈ directives, d.Proper)
    (plain : ∀ cs, sought = some cs → '/' ∉ cs) :
    sections? (written directives sought) =
      some (directives.map .ok, sought.map Pattern.quote) := by
  have unslashed : '/' ∉ [','].intercalate (directives.map Directive.written) := by
    intro member
    rcases mem_intercalate member with same | ⟨part, inside, member⟩
    · cases same
    · obtain ⟨d, given, rfl⟩ := List.mem_map.mp inside
      exact (Directive.written_plain (proper d given) member).2 rfl
  have unquoted : ∀ part ∈ [','].intercalate (directives.map Directive.written) ::
      (sought.map Pattern.quote).toList, '/' ∉ part := by
    intro part member
    rcases List.mem_cons.mp member with rfl | member
    · exact unslashed
    · obtain ⟨cs, found, rfl⟩ := Option.map_eq_some_iff.mp (Option.mem_toList.mp member)
      exact slash_not_mem_quote (plain cs found)
  unfold sections? written
  rw [String.toList_ofList, splitAt_eq_splitOn,
    List.splitOn_intercalate _ unquoted (List.cons_ne_nil _ _), ← entries_written proper]
  cases sought <;> rfl

/-- A written filter is read as it was meant, and nothing in it is left out. -/
theorem ofText_written (proper : ∀ d ∈ directives, d.Proper)
    (distinct : (directives.map Directive.name).Nodup)
    (findable : ∀ cs, sought = some cs → '/' ∉ cs ∧ cs.length < Pattern.maxSize) :
    ofText (written directives sought) =
      ⟨if directives = [] then [⟨none, Level.error.rank⟩] else directives,
        sought.map Pattern.literal⟩ ∧
      warnings (written directives sought) = [] := by
  have read := sections?_written proper fun cs given => (findable cs given).1
  have kept : (directives.map Except.ok).filterMap
      (Except.toOption : Except (List Char) Directive → Option Directive) = directives := by
    simp [List.filterMap_map, Except.toOption, Function.comp_def]
  have inserted : directives.foldl insert [] = directives := foldl_insert_of_nodup distinct
  have patterns : ∀ cs, sought = some cs →
      Pattern.ofChars (Pattern.quote cs) = .ok (Pattern.literal cs) :=
    fun cs given => Pattern.ofChars_quote (findable cs given).2
  constructor
  · unfold ofText
    rw [read]
    simp only [kept, inserted]
    cases sought with
    | none => simp [ofLevel]
    | some cs => simp [ofLevel, patterns cs rfl, Except.toOption]
  · unfold warnings mistakes
    rw [read]
    cases sought with
    | none => simp
    | some cs => simp [patterns cs rfl]

end Written

end LogFilter

end SatBridge
