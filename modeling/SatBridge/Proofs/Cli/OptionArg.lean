import Mathlib.Data.List.TakeWhile
import SatBridge.Cli.OptionArg
import SatBridge.Proofs.Text.Lexical

/-!
# Canonical option arguments

An option can be written in many ways, but each name and value have one form that is always
understood: two dashes, the name, an equals sign and the value in decimal notation. Main statement:
what is read can be written in that form, and every proper name and value is read from it.
-/

set_option autoImplicit false

namespace SatBridge.OptionArg

/-- A name that an argument can give, and a value that it can give to it. -/
structure Proper (name : String) (value : Int) : Prop where
  filled : name ≠ ""
  plain : '=' ∉ name.toList
  unblank : ∀ c ∈ name.toList, Text.isBlank c = false
  low : -2147483648 ≤ value
  high : value ≤ 2147483647

def canonical (name : String) (value : Int) : String :=
  "--" ++ name ++ "=" ++ String.ofList (Text.Decimal.ofInt value)

section Splitting

variable {cs name raw : List Char}

theorem splitAtEquals_append (plain : '=' ∉ name) (raw : List Char) :
    splitAtEquals (name ++ '=' :: raw) = (name, some raw) := by
  have unequal : ∀ c ∈ name, (c != '=') = true := by
    intro c member
    rw [bne_iff_ne]
    rintro rfl
    exact plain member
  simp [splitAtEquals, List.dropWhile_append_of_pos unequal, List.takeWhile_append_of_pos unequal]

theorem splitAtEquals_of_plain (plain : '=' ∉ cs) : splitAtEquals cs = (cs, none) := by
  have unequal : ∀ c ∈ cs, (c != '=') = true := fun c member =>
    bne_iff_ne.mpr (ne_of_mem_of_not_mem member plain)
  rw [splitAtEquals, List.dropWhile_eq_nil_iff.mpr unequal]

/-- Whether there is an equals sign or not, none is in the part before it. -/
theorem equals_not_mem_splitAtEquals (cs : List Char) : '=' ∉ (splitAtEquals cs).1 := by
  intro member
  unfold splitAtEquals at member
  split at member
  · rename_i dropped
    have unequal := List.dropWhile_eq_nil_iff.mp dropped '=' member
    simp at unequal
  · have unequal := List.mem_takeWhile_imp member
    simp at unequal

/-- A switch has a value of its own and, but for the letters in front, the name as it is written. -/
theorem switch_cases (cs : List Char) :
    (switch cs).1 <:+ cs ∧ ((switch cs).2 = 0 ∨ (switch cs).2 = 1) := by
  unfold switch
  split
  · rename_i name
    exact ⟨List.suffix_append ['n', 'o', '-'] name, .inl rfl⟩
  · exact ⟨List.suffix_rfl, .inr rfl⟩

end Splitting

section Values

variable {raw : List Char} {value : Int}

theorem value?_bounds (read : value? raw = some value) :
    -2147483648 ≤ value ∧ value ≤ 2147483647 := by
  unfold value? at read
  split at read
  · cases read
    decide
  split at read
  · cases read
    decide
  split at read
  · split at read
    · cases read
      assumption
    · cases read
  · cases read

/-- Both truth words have an `e`, and no integer has. -/
theorem ofInt_ne_word {word : List Char} (letter : 'e' ∈ word) (value : Int) :
    Text.Decimal.ofInt value ≠ word := by
  rintro rfl
  exact absurd (Text.Decimal.isLead_of_mem_ofInt letter) (by simp [Text.Decimal.IsLead])

theorem value?_ofInt (low : -2147483648 ≤ value) (high : value ≤ 2147483647) :
    value? (Text.Decimal.ofInt value) = some value := by
  have notTrue : Text.Decimal.ofInt value ≠ "true".toList := ofInt_ne_word (by decide) value
  have notFalse : Text.Decimal.ofInt value ≠ "false".toList := ofInt_ne_word (by decide) value
  rw [value?, if_neg notTrue, if_neg notFalse, Text.Decimal.signed?_ofInt]
  exact if_pos ⟨low, high⟩

end Values

theorem isName_iff {name : List Char} :
    isName name = true ↔ name ≠ [] ∧ ∀ c ∈ name, Text.isBlank c = false := by
  simp [isName]

section Parsing

variable {arg name : String} {value : Int}

theorem checked_eq_ok_iff {said : List Char} {fixed : Int} :
    (if isName said = true then Except.ok (String.ofList said, fixed)
      else .error (Fault.badName (String.ofList said))) = .ok (name, value) ↔
      isName name.toList = true ∧ (said, fixed) = (name.toList, value) := by
  constructor
  · intro checked
    split at checked
    · rename_i named
      cases checked
      rw [String.toList_ofList]
      exact ⟨named, rfl⟩
    · cases checked
  · rintro ⟨named, ⟨⟩⟩
    rw [if_pos named, String.ofList_toList]

/-- What an argument says, and that its name is one. -/
theorem parse_eq_ok_iff :
    parse arg = .ok (name, value) ↔ isName name.toList = true ∧
      match splitAtEquals (dropDashes arg.toList) with
      | (written, none) => switch written = (name.toList, value)
      | (written, some raw) => written = name.toList ∧ value? raw = some value := by
  unfold parse
  rcases splitAtEquals (dropDashes arg.toList) with ⟨written, _ | raw⟩
  · exact checked_eq_ok_iff
  · cases read : value? raw with
    | none =>
        refine iff_of_false ?_ (by simp [read])
        intro parsed
        simp only [read] at parsed
        cases parsed
    | some found =>
        simp only [read]
        refine checked_eq_ok_iff.trans (and_congr_right fun _ => ?_)
        simp

theorem parse_canonical (proper : Proper name value) :
    parse (canonical name value) = .ok (name, value) := by
  have filled : name.toList ≠ [] := by simpa using proper.filled
  have shape : dropDashes (canonical name value).toList =
      name.toList ++ '=' :: Text.Decimal.ofInt value := by
    simp [canonical, dropDashes]
  rw [parse_eq_ok_iff, shape, splitAtEquals_append proper.plain]
  exact ⟨isName_iff.mpr ⟨filled, proper.unblank⟩, rfl, value?_ofInt proper.low proper.high⟩

theorem proper_of_parse (parsed : parse arg = .ok (name, value)) : Proper name value := by
  obtain ⟨named, said⟩ := parse_eq_ok_iff.mp parsed
  obtain ⟨filled, unblank⟩ := isName_iff.mp named
  have nonempty : name ≠ "" := by simpa using filled
  have plain := equals_not_mem_splitAtEquals (dropDashes arg.toList)
  rcases split : splitAtEquals (dropDashes arg.toList) with ⟨written, _ | raw⟩
  · rw [split] at said plain
    obtain ⟨suffix, switched⟩ := switch_cases written
    rw [said] at suffix switched
    refine ⟨nonempty, fun member => plain (suffix.subset member), unblank, ?_, ?_⟩ <;>
      rcases switched with rfl | rfl <;> decide
  · rw [split] at said plain
    obtain ⟨rfl, read⟩ := said
    obtain ⟨low, high⟩ := value?_bounds read
    exact ⟨nonempty, plain, unblank, low, high⟩

end Parsing

/-- What an argument sets has a form of its own, and so has everything that could be set. -/
theorem canonical_form :
    (∀ arg name value, parse arg = .ok (name, value) →
      Proper name value ∧ parse (canonical name value) = .ok (name, value)) ∧
    (∀ name value, Proper name value → parse (canonical name value) = .ok (name, value)) ∧
    ∀ name value other setting, Proper name value → Proper other setting →
      canonical name value = canonical other setting → name = other ∧ value = setting := by
  refine ⟨fun arg name value parsed => ?_, fun name value => parse_canonical, ?_⟩
  · have proper := proper_of_parse parsed
    exact ⟨proper, parse_canonical proper⟩
  · intro name value other setting proper properOther same
    have read := parse_canonical properOther
    rw [← same, parse_canonical proper] at read
    exact Prod.mk.inj (Except.ok.inj read)

/-- Dashes behind the first two, and a `no-` before an equals sign, belong to the name. -/
example : parse "----no-x=-2147483648" = .ok ("--no-x", -2147483648) ∧
    parse "--no-x=1" = .ok ("no-x", 1) ∧ parse "--no-x" = .ok ("x", 0) := by
  exact ⟨rfl, rfl, rfl⟩

end SatBridge.OptionArg
