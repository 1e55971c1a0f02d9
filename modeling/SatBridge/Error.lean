import SatBridge.Dimacs.Fault

/-!
# Errors

One inductive type of causes for the whole library, and one wording for each. A cause carries the
values that its wording names, so that a caller can react to it without reading text.
-/

set_option autoImplicit false

namespace SatBridge

inductive Feature where
  | option
  | conflictLimit
  | decisionLimit
  deriving DecidableEq, Repr

def Feature.name : Feature → String
  | .option => "set_option"
  | .conflictLimit => "set_conflict_limit"
  | .decisionLimit => "set_decision_limit"

/-- What can go wrong between a byte stream and its consumer. -/
inductive StreamFault where
  /-- A line is not UTF-8. -/
  | notUtf8
  /-- A sink took fewer bytes than it was given. -/
  | sinkFull
  /-- A failure that the source of the bytes describes in its own words. -/
  | device (description : String)
  deriving DecidableEq, Repr

def StreamFault.message : StreamFault → String
  | .notUtf8 => "stream did not contain valid UTF-8"
  | .sinkFull => "failed to write whole buffer"
  | .device description => description

inductive Error where
  /-- No library at this path; the loader says why in `detail`. -/
  | libraryNotLoaded (path detail : String)
  /-- A library without an entry point that every solver must have. -/
  | symbolNotExported (name detail : String)
  | nullHandle
  | undefinedStatus (code : Int)
  /-- A value reply that is neither the literal asked, nor its negation, nor zero. -/
  | undefinedValue (var : Nat) (reply : Int)
  | invalidLiteral (value : Int)
  /-- A solve call between the literals of a clause. -/
  | unterminatedClause
  | alreadySolved
  /-- A value query when the last result was not satisfiable. -/
  | noModel
  /-- An option that comes after the first literal or the solve call. -/
  | optionsLocked
  | unsupported (feature : Feature)
  /-- An option name that cannot be handed over as a zero-terminated string. -/
  | nulInOptionName
  /-- The model leaves the clause at this index without a true literal. -/
  | modelRefuted (clause : Nat)
  | dimacs (line : Nat) (fault : Dimacs.Fault)
  | stream (fault : StreamFault)
  /-- A variable that no literal can have. -/
  | variableOutOfRange (var : Nat)
  /-- A negative literal whose integer has no 32-bit form. -/
  | negationOverflow
  deriving DecidableEq, Repr

namespace Error

def message : Error → String
  | .libraryNotLoaded path detail => s!"failed to load solver library {path}: {detail}"
  | .symbolNotExported name detail => s!"solver library does not export {name}: {detail}"
  | .nullHandle => "solver library failed to allocate a solver (null handle)"
  | .undefinedStatus code => s!"solve returned undefined status code {code}"
  | .undefinedValue var reply =>
    s!"value({var}) returned {reply}, expected {var}, -{var} or 0"
  | .invalidLiteral value => s!"invalid literal {value}"
  | .unterminatedClause =>
    "solve called while a clause is still open (missing terminating 0)"
  | .alreadySolved => "solver has already been solved once"
  | .noModel => "no model available: last result was not satisfiable"
  | .optionsLocked => "options must be set before the first literal is added"
  | .unsupported feature => s!"{feature.name} is not supported by this solver"
  | .nulInOptionName => "option name contains an interior NUL byte"
  | .modelRefuted clause => s!"model does not satisfy clause {clause}"
  | .dimacs line fault => s!"dimacs line {line}: {fault.message}"
  | .stream fault => fault.message
  | .variableOutOfRange var => s!"variable {var} out of range"
  | .negationOverflow => "attempt to negate with overflow"

/-- The wording of an error, then of what lies behind it. Only the loader has more to say. -/
def causes (error : Error) : List String :=
  match error with
  | .libraryNotLoaded _ detail | .symbolNotExported _ detail => [error.message, detail]
  | _ => [error.message]

end Error

end SatBridge
