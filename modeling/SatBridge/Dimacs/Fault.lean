/-!
# Faults of a DIMACS text

What can be wrong with a line, or with the text as a whole once every line has been read.
-/

set_option autoImplicit false

namespace SatBridge.Dimacs

inductive Fault where
  | duplicateHeader
  /-- A problem line that does not start with the words `p` and `cnf`. -/
  | malformedHeader
  | badVariableCount
  | badClauseCount
  | trailingHeaderTokens
  /-- A line of literals before any problem line. -/
  | literalsBeforeHeader
  | badLiteral (token : String)
  | variableTooLarge (var declared : Nat)
  | missingHeader
  /-- The literals after the last terminator are no clause. -/
  | unterminatedClause
  | clauseCountMismatch (declared found : Nat)
  deriving DecidableEq, Repr

def Fault.message : Fault → String
  | .duplicateHeader => "duplicate 'p' line"
  | .malformedHeader => "expected 'p cnf <vars> <clauses>'"
  | .badVariableCount => "invalid variable count"
  | .badClauseCount => "invalid clause count"
  | .trailingHeaderTokens => "trailing tokens after header"
  | .literalsBeforeHeader => "missing 'p' line before clauses"
  | .badLiteral token => s!"invalid literal '{token}'"
  | .variableTooLarge var declared =>
    s!"variable {var} exceeds declared maximum {declared}"
  | .missingHeader => "missing 'p' line"
  | .unterminatedClause => "last clause is not terminated by 0"
  | .clauseCountMismatch declared found =>
    s!"header declares {declared} clauses but {found} were found"

end SatBridge.Dimacs
