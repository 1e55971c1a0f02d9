import Mathlib
import SatBridge.Cli.Run
import SatBridge.Proofs.Log.Writing

/-!
# The standard error

What a run logged goes through a filter, and a failure follows. Main statements: more verbosity only
adds lines; a written filter shows exactly the events whose deciding directive admits them and whose
message has the text that is looked for, without a warning in front.
-/

set_option autoImplicit false

namespace SatBridge.Cli.Run

variable {elapsed : Duration}

/-- Lines that are shown are shown with more verbosity, too, in the same order. -/
theorem stderr_verbosity {low high : Args} (more : low.verbosity ≤ high.verbosity) (run : Run) :
    ∃ lines further, run.stderr none low elapsed = Report.textOfLines lines ∧
      run.stderr none high elapsed = Report.textOfLines further ∧ lines.Sublist further := by
  have admits : ∀ event, (LogFilter.ofVerbosity low.verbosity).passes elapsed event = true →
      (LogFilter.ofVerbosity high.verbosity).passes elapsed event = true := by
    intro event passes
    rw [LogFilter.passes_ofVerbosity_iff] at passes ⊢
    omega
  refine ⟨_, _, rfl, rfl, ?_⟩
  exact ((List.monotone_filter_right _ admits).map _).append_right _

/-- The event is shown under these directives if its message has the text that is looked for. -/
def Shown (directives : List Directive) (sought : Option (List Char)) (elapsed : Duration)
    (event : LogEvent) : Prop :=
  (∃ d, LogFilter.Decides directives event.target.toList d ∧ event.level.rank ≤ d.rank) ∧
    ∀ cs, sought = some cs → cs <:+: (event.message elapsed).toList

theorem passes_literal_iff {directives : List Directive} {sought : Option (List Char)}
    {event : LogEvent} :
    LogFilter.passes ⟨directives, sought.map Pattern.literal⟩ elapsed event = true ↔
      Shown directives sought elapsed event := by
  rw [LogFilter.passes_iff]
  constructor
  · rintro ⟨d, decides, admits, described⟩
    refine ⟨⟨d, decides, admits⟩, fun cs given => ?_⟩
    have found := described (Pattern.literal cs) (by rw [given]; rfl)
    exact Pattern.isIn_literal_iff.mp (Pattern.isIn_iff.mpr found)
  · rintro ⟨⟨d, decides, admits⟩, contained⟩
    refine ⟨d, decides, admits, fun p asked => ?_⟩
    obtain ⟨cs, given, rfl⟩ := Option.map_eq_some_iff.mp asked
    exact Pattern.isIn_iff.mp (Pattern.isIn_literal_iff.mpr (contained cs given))

/-- A written filter is obeyed. -/
theorem stderr_written {directives : List Directive} {sought : Option (List Char)}
    (filled : directives ≠ []) (proper : ∀ d ∈ directives, d.Proper)
    (distinct : (directives.map Directive.name).Nodup)
    (findable : ∀ cs, sought = some cs → '/' ∉ cs ∧ cs.length < Pattern.maxSize)
    (run : Run) (args : Args) :
    ∃ shown : LogEvent → Bool,
      (∀ event, shown event = true ↔ Shown directives sought elapsed event) ∧
      run.stderr (some (LogFilter.written directives sought)) args elapsed =
        Report.textOfLines ((run.transcript.log.toList.filter shown).map (logLine elapsed) ++
          (run.failure.map failureLines).getD []) := by
  obtain ⟨read, silent⟩ := LogFilter.ofText_written proper distinct findable
  rw [if_neg filled] at read
  refine ⟨LogFilter.passes ⟨directives, sought.map Pattern.literal⟩ elapsed,
    fun _ => passes_literal_iff, ?_⟩
  simp only [stderr, Option.map_some, Option.getD_some, read, silent, List.nil_append]

end SatBridge.Cli.Run
