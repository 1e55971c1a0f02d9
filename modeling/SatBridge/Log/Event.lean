import SatBridge.Result.Duration
import SatBridge.Error
import SatBridge.Library.Origin

/-!
# Log events

What the library tells about its work: an event for each step worth noting, with the level and the
target under which it is filed. The wording of an event is a function of the event alone, apart
from the time that a solve call took, which only a clock knows.
-/

set_option autoImplicit false

namespace SatBridge

inductive Level where
  | error
  | warn
  | info
  | debug
  | trace
  deriving DecidableEq, Repr

namespace Level

/-- Levels by growing detail. -/
def rank : Level → Nat
  | .error => 1
  | .warn => 2
  | .info => 3
  | .debug => 4
  | .trace => 5

def name : Level → String
  | .error => "ERROR"
  | .warn => "WARN"
  | .info => "INFO"
  | .debug => "DEBUG"
  | .trace => "TRACE"

end Level

structure Offer where
  signature : Bool
  setOption : Bool
  setConflictLimit : Bool
  setDecisionLimit : Bool
  deriving DecidableEq, Repr

def Offer.diagnostic (o : Offer) : String :=
  "KissatApi \x7b signature: " ++ toString o.signature ++
    ", set_option: " ++ toString o.setOption ++
    ", set_conflict_limit: " ++ toString o.setConflictLimit ++
    ", set_decision_limit: " ++ toString o.setDecisionLimit ++ ", .. \x7d"

/-- The address of a solver inside its library. -/
abbrev Pointer := Nat

/-- A pointer in hexadecimal notation. -/
def pointerText (p : Pointer) : String :=
  "0x" ++ String.ofList (Nat.toDigits 16 p)

inductive LogEvent where
  | formulaRead (numVars clauses : Nat)
  | symbolMissing (name : String)
  | libraryLoaded (path : String) (offer : Offer)
  | solverCreated (pointer : Pointer) (origin : Origin)
  | solverReleased (pointer : Pointer)
  | optionSet (name : String) (value previous : Int)
  | literalAdded (value : Int)
  | solved (code : Int) (clauses maxVar : Nat)
  | settingIgnored (backend : String) (feature : Feature)
  | formulaFed (clauses literals : Nat) (backend : String)
  | modelChecked (clauses : Nat)
  | literalRejected (value : Int) (cause : Error)
  | solveRejected (cause : Error)
  | searchStopped (reason : String)
  deriving DecidableEq, Repr

namespace LogEvent

def level : LogEvent → Level
  | .formulaRead .. | .solved .. | .modelChecked .. => .info
  | .symbolMissing .. | .libraryLoaded .. | .solverCreated .. | .solverReleased ..
  | .optionSet .. | .formulaFed .. => .debug
  | .literalAdded .. => .trace
  | .settingIgnored .. | .literalRejected .. | .solveRejected .. | .searchStopped .. => .warn

/-- The part of the program that an event belongs to. -/
def target : LogEvent → String
  | .formulaRead .. => "kissat_handle"
  | .symbolMissing .. | .libraryLoaded .. => "kissat_handle::library"
  | .solverCreated .. | .solverReleased .. | .optionSet .. | .literalAdded .. | .solved .. =>
    "kissat_handle::solver::native"
  | .settingIgnored .. => "kissat_handle::config"
  | .formulaFed .. | .modelChecked .. => "kissat_handle::session"
  | .literalRejected .. | .solveRejected .. => "kissat_handle::builtin"
  | .searchStopped .. => "kissat_handle::solver::varisat"

def message (elapsed : Duration) : LogEvent → String
  | .formulaRead numVars clauses => s!"parsed {numVars} variables and {clauses} clauses"
  | .symbolMissing name => s!"optional symbol {name} not exported"
  | .libraryLoaded path offer => s!"loaded solver library {path} ({offer.diagnostic})"
  | .solverCreated pointer origin =>
    s!"created solver {pointerText pointer} from {origin.text}"
  | .solverReleased pointer => s!"releasing solver {pointerText pointer}"
  | .optionSet name value previous => s!"option {name}={value} (was {previous})"
  | .literalAdded value => s!"add {value}"
  | .solved code clauses maxVar =>
    let time := elapsed.milliseconds
    s!"solve returned {code} after {time} ms ({clauses} clauses, {maxVar} variables)"
  | .settingIgnored backend feature =>
    s!"{backend} backend does not support {feature.name}, setting ignored"
  | .formulaFed clauses literals backend =>
    s!"fed {clauses} clauses ({literals} literals) to {backend}"
  | .modelChecked clauses => s!"model satisfies all {clauses} clauses"
  | .literalRejected value cause =>
    s!"builtin add({value}) rejected, solve will report unknown: {cause.message}"
  | .solveRejected cause => s!"builtin solve failed: {cause.message}"
  | .searchStopped reason => s!"varisat stopped without a result: {reason}"

end LogEvent

/-- The events of a run in the order in which they happened. -/
abbrev Log := Array LogEvent

end SatBridge
