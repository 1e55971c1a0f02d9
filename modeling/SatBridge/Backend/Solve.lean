import SatBridge.Backend.Settings
import SatBridge.Result.Outcome

/-!
# One run on one formula

Configure, feed, solve once, and read the model back if someone wants it.
-/

set_option autoImplicit false

namespace SatBridge.Solver

variable {H W : Type} [Backend H W]

/-- Whether a run reads the model back: only a satisfiable answer has one. -/
def wantsModel (settings : Settings) (status : Status) : Bool :=
  status == .sat && (settings.printModel || settings.verify)

def fetchModel (f : Formula) (settings : Settings) (status : Status) :
    SolverM H W (Option Assignment) :=
  if wantsModel settings status then some <$> model f.numVars else return none

/-- Refuses a model that leaves a clause without a true literal. -/
def checkModel (f : Formula) (model : Assignment) : SolverM H W Unit :=
  match f.firstUnsatisfied model with
  | some clause => throw (.modelRefuted clause)
  | none => Solver.record (.modelChecked f.clauses.length)

def verifyModel (f : Formula) (settings : Settings) (model : Option Assignment) :
    SolverM H W Unit :=
  if settings.verify then model.forM (checkModel f) else return ()

/-- What is left to do once the solver has answered. -/
def conclude (f : Formula) (settings : Settings) (status : Status) : SolverM H W Outcome := do
  let model ← fetchModel f settings status
  verifyModel f settings model
  return { status, model, stats := ← Solver.stats }

/-- Configures a fresh solver, feeds it the formula and solves once. -/
def solveFormula (f : Formula) (settings : Settings) : SolverM H W Outcome := do
  settings.apply
  feed f
  Solver.record (.formulaFed f.clauses.length f.numLiterals (Backend.name H))
  conclude f settings (← Backend.solve)

end SatBridge.Solver
