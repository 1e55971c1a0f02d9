import SatBridge.Backend.Basic

/-!
# Settings of a run

What a caller may ask of a solver before the first literal, and what of the answer afterwards.
-/

set_option autoImplicit false

namespace SatBridge

structure Settings where
  options : List (String × Int)
  conflictLimit : Option Nat
  decisionLimit : Option Nat
  printModel : Bool
  /-- Whether a model is checked against the formula. -/
  verify : Bool
  deriving DecidableEq, Repr, Inhabited

namespace Settings

variable {H W : Type} [Backend H W]

/-- Goes on without a feature that the backend lacks, and says so in the log. Every other error
stands. -/
def tolerate (action : SolverM H W Unit) : SolverM H W Unit :=
  tryCatch action fun
    | .unsupported feature => Solver.record (.settingIgnored (Backend.name H) feature)
    | error => throw error

/-- Sets an option; what it was before is of no interest here. -/
def applyOption (name : String) (value : Int) : SolverM H W Unit :=
  tolerate do
    let _ ← Backend.setOption name value

def apply (settings : Settings) : SolverM H W Unit := do
  settings.options.forM fun (name, value) => applyOption name value
  settings.conflictLimit.forM fun limit => tolerate (Backend.setConflictLimit limit)
  settings.decisionLimit.forM fun limit => tolerate (Backend.setDecisionLimit limit)

end Settings

end SatBridge
