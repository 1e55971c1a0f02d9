import SatBridge.Formula.Basic
import SatBridge.Result.Stats
import SatBridge.Result.Status

/-!
# Outcomes

What is left of a run on one formula once the solver is gone.
-/

set_option autoImplicit false

namespace SatBridge

structure Outcome where
  status : Status
  /-- Present after `sat` when it was asked for, to be printed or to be checked. -/
  model : Option Assignment
  stats : Stats
  deriving DecidableEq, Repr

end SatBridge
