import SatBridge.Error

/-!
# Results of a solve call

The three results, and the status codes that stand for them.
-/

set_option autoImplicit false

namespace SatBridge

inductive Status where
  | sat
  | unsat
  /-- Interrupted, over a limit, or otherwise undecided. -/
  | unknown
  deriving DecidableEq, Repr

namespace Status

/-- The status code of a result, which is also the exit code of a run that ends with it. -/
def code : Status → Int
  | .sat => 10
  | .unsat => 20
  | .unknown => 0

/-- The result of a status code. No other code is defined. -/
def ofCode? (code : Int) : Except Error Status :=
  if code = 10 then .ok .sat
  else if code = 20 then .ok .unsat
  else if code = 0 then .ok .unknown
  else .error (.undefinedStatus code)

theorem ofCode?_code (status : Status) : ofCode? status.code = .ok status := by
  cases status <;> rfl

/-- A code is accepted exactly when it is the code of a result. -/
theorem ofCode?_eq_ok_iff {code : Int} {status : Status} :
    ofCode? code = .ok status ↔ code = status.code := by
  constructor
  · intro accepted
    unfold ofCode? at accepted
    split at accepted
    · cases accepted
      assumption
    · split at accepted
      · cases accepted
        assumption
      · split at accepted
        · cases accepted
          assumption
        · cases accepted
  · rintro rfl
    exact ofCode?_code status

end Status

end SatBridge
