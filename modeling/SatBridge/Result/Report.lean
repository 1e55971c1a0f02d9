import SatBridge.Result.Duration
import SatBridge.Result.Outcome
import SatBridge.Text.Decimal

/-!
# Reports

Lines of the result format: comments start with `c`, the status line with `s`, and the lines of a
model with `v`. A model is one sequence of integers, ended by a zero and wrapped greedily.
-/

set_option autoImplicit false

namespace SatBridge.Report

/-- The longest line of a model, in characters. -/
def maxLine : Nat := 78

def verdictLine : Status → String
  | .sat => "s SATISFIABLE"
  | .unsat => "s UNSATISFIABLE"
  | .unknown => "s UNKNOWN"

/-- A comment line. A comment without text has no space either. -/
def commentLine (text : String) : String :=
  if text.isEmpty then "c" else "c " ++ text

/-- The literals of a model by variable, an unassigned variable being false, then the zero. -/
def values (model : Assignment) : List Int :=
  (model.toList.zipIdx.drop 1).map (fun (value, var) =>
    if value = some true then (var : Int) else -(var : Int)) ++ [0]

/-- Appends words to a line, each after a space, and starts a new line where the next word would
make the line longer than `limit`. -/
def wrap (limit : Nat) (start line : String) : List String → List String
  | [] => [line]
  | word :: words =>
    if limit < line.length + 1 + word.length then
      line :: wrap limit start (start ++ " " ++ word) words
    else wrap limit start (line ++ " " ++ word) words

def valueLines (model : Assignment) : List String :=
  wrap maxLine "v" "v" ((values model).map fun value =>
    String.ofList (Text.Decimal.ofInt value))

/-- The comment on the size of a run and the time it took. -/
def summary (elapsed : Duration) (stats : Stats) : String :=
  let seconds := elapsed.secondsText
  let clauses := stats.clauses
  let literals := stats.literals
  let largest := stats.maxVar
  s!"solved in {seconds} s ({clauses} clauses, {literals} literals, max variable {largest})"

/-- The lines of an outcome: the summary, the status, and the model if there is one. -/
def outcomeLines (elapsed : Duration) (outcome : Outcome) : List String :=
  commentLine (summary elapsed outcome.stats) :: verdictLine outcome.status ::
    match outcome.model with
    | some model => valueLines model
    | none => []

def textOfLines (lines : List String) : String :=
  String.join (lines.map (· ++ "\n"))

end SatBridge.Report
