import Mathlib
import SatBridge.Backend.Guarded
import SatBridge.Library.Scripted
import SatBridge.Proofs.Backend.Solve
import SatBridge.Proofs.Report.Reading

/-!
# Kinds of lines

The first characters of a line tell a reader what it is. Main statement: an outcome has value lines
exactly if the run had to read the model, be it only to check it.
-/

set_option autoImplicit false

namespace SatBridge.Report

/-- The lines of a text that are ended by a newline. -/
def lines (text : String) : List (List Char) :=
  (text.toList.splitOn '\n').dropLast

theorem lines_textOfLines {written : List String} (single : ∀ line ∈ written, '\n' ∉ line.toList) :
    lines (textOfLines written) = written.map String.toList := by
  rw [lines, splitOn_textOfLines single, List.dropLast_concat]

theorem first_unique {first second : Char} {start other line : List Char}
    (left : first :: start <+: line) (right : second :: other <+: line) : first = second := by
  obtain ⟨_, rfl⟩ := left
  obtain ⟨_, same⟩ := right
  exact (List.cons.inj same).1.symm

theorem commentLine_prefix (text : String) : ['c'] <+: (commentLine text).toList := by
  unfold commentLine
  split
  · exact List.prefix_rfl
  · simp

theorem verdictLine_prefix (status : Status) : ['s', ' '] <+: (verdictLine status).toList := by
  cases status <;> decide

section Wrapping

variable {start : List Char} {limit : Nat} {words : List String}

theorem wrap_ne_nil (limit : Nat) (start line : String) (words : List String) :
    wrap limit start line words ≠ [] := by
  induction words generalizing line with
  | nil => simp [wrap]
  | cons word rest ih =>
      unfold wrap
      split
      · simp
      · exact ih _

/-- How the first line starts, and how every later line would start, is how all lines start. -/
theorem prefix_of_mem_wrap {line : String} (begun : start <+: line.toList)
    (fresh : start <+: ['v', ' ']) :
    ∀ wrapped ∈ wrap limit "v" line words, start <+: wrapped.toList := by
  induction words generalizing line with
  | nil =>
      intro wrapped member
      rwa [List.mem_singleton.mp member]
  | cons word rest ih =>
      intro wrapped member
      unfold wrap at member
      split at member
      · cases List.mem_cons.mp member with
        | inl first => rwa [first]
        | inr later =>
            have opened : ("v" ++ " " ++ word).toList = ['v', ' '] ++ word.toList := by simp
            exact ih (opened ▸ fresh.trans (List.prefix_append _ _)) wrapped later
      · have longer : (line ++ " " ++ word).toList = line.toList ++ (' ' :: word.toList) := by simp
        exact ih (longer ▸ begun.trans (List.prefix_append _ _)) wrapped member

theorem prefix_of_mem_wrap_cons {word : String} (fits : word.length + 2 ≤ limit) :
    ∀ wrapped ∈ wrap limit "v" "v" (word :: words), ['v', ' '] <+: wrapped.toList := by
  -- Only a first word that does not fit would leave a line with nothing but its letter.
  have kept : ¬ limit < "v".length + 1 + word.length := by
    have short : "v".length = 1 := rfl
    omega
  rw [wrap, if_neg kept]
  refine prefix_of_mem_wrap ?_ List.prefix_rfl
  simp

end Wrapping

theorem valueLines_ne_nil (model : Assignment) : valueLines model ≠ [] :=
  wrap_ne_nil _ _ _ _

theorem v_prefix_of_mem_valueLines {model : Assignment} :
    ∀ line ∈ valueLines model, ['v'] <+: line.toList :=
  prefix_of_mem_wrap (by decide) (by decide)

theorem length_ofInt_le {value : Int} {digits : Nat} (positive : 0 < digits)
    (small : value.natAbs < 10 ^ digits) : (Text.Decimal.ofInt value).length ≤ digits + 1 := by
  have bound {n : Nat} (bounded : n < 10 ^ digits) : (Text.Decimal.ofNat n).length ≤ digits :=
    (Nat.length_toDigits_le_iff (by decide) positive).mpr bounded
  cases value with
  | ofNat n => exact Nat.le_succ_of_le (bound small)
  | negSucc n => exact Nat.succ_le_succ (bound small)

theorem natAbs_lt_of_mem_values {model : Assignment} {value : Int} (member : value ∈ values model) :
    value.natAbs < model.size + 1 := by
  rcases List.mem_append.mp member with inModel | last
  · obtain ⟨⟨slot, var⟩, inSlots, rfl⟩ := List.mem_map.mp inModel
    have bounded := List.snd_lt_of_mem_zipIdx (List.mem_of_mem_drop inSlots)
    have inside : var < model.size := by simpa using bounded
    dsimp only
    split <;> omega
  · rw [List.mem_singleton.mp last]
    simp

/-- The literals of a model are far from as long as a line. -/
theorem fits_of_mem_values {model : Assignment} (bounded : model.size < 2 ^ 63) {value : Int}
    (member : value ∈ values model) :
    (String.ofList (Text.Decimal.ofInt value)).length + 2 ≤ maxLine := by
  have small := natAbs_lt_of_mem_values member
  have short : (Text.Decimal.ofInt value).length ≤ 20 :=
    length_ofInt_le (by decide : 0 < 19) (by omega)
  rw [String.length_ofList, maxLine]
  omega

theorem space_of_mem_valueLines {model : Assignment} (bounded : model.size < 2 ^ 63) :
    ∀ line ∈ valueLines model, ['v', ' '] <+: line.toList := by
  cases listed : values model with
  | nil => simp [values] at listed
  | cons value rest =>
      have fits := fits_of_mem_values bounded (listed ▸ List.mem_cons_self)
      rw [valueLines, listed, List.map_cons]
      exact prefix_of_mem_wrap_cons fits

end SatBridge.Report

namespace SatBridge.Solver

variable {H W : Type} [Backend H W] {f : Formula} {settings : Settings} {outcome : Outcome}
  {c d : Context H W}

/-- Not printing the model keeps it off the report only if it is not checked either. -/
theorem value_line_iff (ran : (solveFormula f settings).run c = (.ok outcome, d))
    (elapsed : Duration) :
    (∃ line ∈ Report.lines (Report.textOfLines (Report.outcomeLines elapsed outcome)),
      ['v'] <+: line) ↔
        outcome.status = .sat ∧ (settings.printModel = true ∨ settings.verify = true) := by
  have model := model_of_solveFormula ran
  rw [Report.lines_textOfLines (Report.newline_not_mem_outcomeLines elapsed outcome),
    ← wantsModel_iff, Report.outcomeLines]
  cases wanted : wantsModel settings outcome.status with
  | true =>
      rw [wanted] at model
      obtain ⟨model, _, present, _⟩ := model
      rw [present]
      obtain ⟨line, rest, shown⟩ := List.exists_cons_of_ne_nil (Report.valueLines_ne_nil model)
      have member : line ∈ Report.valueLines model := shown ▸ List.mem_cons_self
      refine iff_of_true ⟨line.toList, List.mem_map_of_mem ?_, ?_⟩ rfl
      · exact List.mem_cons_of_mem _ (List.mem_cons_of_mem _ member)
      · exact Report.v_prefix_of_mem_valueLines line member
  | false =>
      rw [wanted] at model
      rw [show outcome.model = none from model]
      refine iff_of_false ?_ Bool.false_ne_true
      rintro ⟨_, member, value⟩
      obtain ⟨line, shown, rfl⟩ := List.mem_map.mp member
      cases List.mem_cons.mp shown with
      | inl summary =>
          have comment := Report.commentLine_prefix (Report.summary elapsed outcome.stats)
          exact absurd (Report.first_unique (summary ▸ comment) value) (by decide)
      | inr last =>
          have verdict := Report.verdictLine_prefix outcome.status
          have only := List.mem_singleton.mp last
          exact absurd (Report.first_unique (only ▸ verdict) value) (by decide)

/-- A formula that is satisfied by every reply of the library, checked but not to be printed. -/
private def unprinted : Except Error Outcome ×
    Context (GuardedSolver (Scripted.library (.inProcess "scripted"))) Scripted.Memory :=
  (solveFormula ⟨1, [[⟨1, true⟩]]⟩ ⟨[], none, none, false, true⟩).run
    ⟨⟨⟨.agreeable, 1⟩, #[]⟩, ⟨0, .configuring, false, .zero⟩⟩

theorem value_line_iff_unprinted :
    unprinted.1 = .ok ⟨.sat, some #[none, some true], ⟨1, 1, 1, 1⟩⟩ ∧
      ∀ elapsed, ∃ line ∈ Report.lines (Report.textOfLines (Report.outcomeLines elapsed
        ⟨.sat, some #[none, some true], ⟨1, 1, 1, 1⟩⟩)), ['v'] <+: line := by
  have answered : unprinted.1 = .ok ⟨.sat, some #[none, some true], ⟨1, 1, 1, 1⟩⟩ := by cbv
  have ran := SolverM.run_of_result answered
  exact ⟨answered, fun elapsed => (value_line_iff ran elapsed).mpr ⟨rfl, .inr rfl⟩⟩

end SatBridge.Solver
