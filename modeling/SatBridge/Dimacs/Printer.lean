import SatBridge.Formula.Basic
import SatBridge.Text.Decimal

/-!
# Writing DIMACS text

The problem line, then one line for each clause: its integers, each with a space after it, and the
terminator. A formula with a literal that has no integer has no text.
-/

set_option autoImplicit false

namespace SatBridge.Dimacs

def headerLine (f : Formula) : List Char :=
  "p cnf ".toList ++ Text.Decimal.ofNat f.numVars ++ [' '] ++
    Text.Decimal.ofNat f.clauses.length ++ ['\n']

/-- The line of a clause, given its integers. -/
def clauseLine (values : List Int) : List Char :=
  values.flatMap (fun value => Text.Decimal.ofInt value ++ [' ']) ++ ['0', '\n']

def print (f : Formula) : Except Error String := do
  let clauses ← f.clauses.mapM fun c => c.mapM Literal.toInt?
  return String.ofList (headerLine f ++ clauses.flatMap clauseLine)

end SatBridge.Dimacs
