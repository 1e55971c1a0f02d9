import SatBridge.Cli.Args
import SatBridge.Dimacs.Parser
import SatBridge.Library.Builtin
import SatBridge.Library.SharedObject
import SatBridge.Log.Filter
import SatBridge.Result.Report
import SatBridge.Backend.Solve
import SatBridge.Backend.Guarded

/-!
# Running a task

A run reads files and libraries from an environment that is given as a value, and leaves behind what
it wrote, what it logged, and how it ended. A failure keeps what was written before it.
-/

set_option autoImplicit false

namespace SatBridge.Cli

structure Environment where
  stdin : Source
  /-- The file at a path, or why it cannot be opened. -/
  file : String → Except String Source
  /-- The library at a path, with what the loader told the log. -/
  load : String → Except Error (LoadedLibrary × Log)
  /-- What the resident solver decides with, behind the builtin library too. -/
  engine : Engine := Search.engine

/-- A piece of output. -/
inductive Output where
  | comment (text : String)
  | verdict (status : Status)
  | outcome (outcome : Outcome)
  | plain (text : String)
  deriving DecidableEq, Repr

/-- The lines of a piece of output, given how long the run took. -/
def Output.lines (elapsed : Duration) : Output → List String
  | .comment text => [Report.commentLine text]
  | .verdict status => [Report.verdictLine status]
  | .outcome result => Report.outcomeLines elapsed result
  | .plain text => [text]

/-- What went wrong, outermost first: what the run was about to do, and what lies behind that. -/
abbrev Failure := List String

structure Transcript where
  output : Array Output
  log : Log
  deriving DecidableEq, Repr

abbrev RunM := ExceptT Failure (StateM Transcript)

def write (output : Output) : RunM Unit :=
  modify fun t => { t with output := t.output.push output }

def logAll (events : Log) : RunM Unit :=
  modify fun t => { t with log := t.log ++ events }

/-- The value of a step that may fail, with what the step was for put in front of the causes. -/
def require {α : Type} (purpose : List String) (result : Except Error α) : RunM α :=
  match result with
  | .ok value => return value
  | .error error => throw (purpose ++ error.causes)

section

variable {H W : Type} [Backend H W]

structure Working (H W : Type) where
  output : Array Output
  context : Context H W

abbrev WorkM (H W : Type) := ExceptT Failure (StateM (Working H W))

def report (output : Output) : WorkM H W Unit :=
  modify fun w => { w with output := w.output.push output }

def act {α : Type} (action : SolverM H W α) : WorkM H W α := do
  let (result, context) := action.run (← get).context
  modify fun w => { w with context }
  match result with
  | .ok value => return value
  | .error error => throw error.causes

/-- Creates a handle, works with it, and releases it however the work ends. -/
def withHandle {α : Type} (world : World W) (work : WorkM H W α) : RunM α := do
  let (created, world) := (Backend.create (H := H)).run world
  match created with
  | .error error => do
    logAll world.log
    throw ("solver initialisation failed" :: error.causes)
  | .ok handle => do
    let (result, done) := work.run ⟨(← get).output, ⟨world, handle⟩⟩
    modify fun t => { t with output := done.output }
    logAll (Backend.release done.context.handle done.context.toWorld).log
    match result with
    | .ok value => return value
    | .error failure => throw failure

/-- The clause `1 2`, and what the solver makes of it. -/
def demoWork : WorkM H W Status := do
  report (.comment "Initialized solver.")
  act do
    Backend.add 1
    Backend.add 2
    Backend.add 0
  report (.comment "Added some clauses.")
  let status ← act Backend.solve
  report (.verdict status)
  return status

/-- A formula, with the settings of the run. -/
def solveWork (f : Formula) (settings : Settings) : WorkM H W Status := do
  report (.comment s!"backend {Backend.name H}")
  let outcome ← act (Solver.solveFormula f settings)
  report (.outcome outcome)
  return outcome.status

end

/-- A world in which nothing was logged. -/
def World.ofShared {W : Type} (shared : W) : World W := ⟨shared, #[]⟩

/-- Works with the library that the arguments name. -/
def withLibrary {α : Type} (env : Environment) (args : Args) (work : LoadedLibrary → RunM α) :
    RunM α :=
  if args.backend = .builtin then work (Builtin.loaded env.engine)
  else
    let path := args.library.getD defaultLibraryPath
    match env.load path with
    | .error error => throw (s!"cannot use solver library {path}" :: error.causes)
    | .ok (loaded, events) => do
      logAll events
      work loaded

def readFormula (env : Environment) (path : String) : RunM Formula := do
  if path = "-" then require ["failed to parse stdin"] (Dimacs.parse env.stdin)
  else
    match env.file path with
    | .error reason => throw [s!"cannot open {path}", reason]
    | .ok source => require [s!"failed to parse {path}"] (Dimacs.parse source)

def demo (env : Environment) (args : Args) : RunM Status := do
  if args.backend = .resident then
    write (.comment "Using varisat backend without a library.")
    withHandle (H := ResidentSolver env.engine) (World.ofShared ()) demoWork
  else
    withLibrary env args fun loaded => do
      let name := loaded.library.origin.text
      write (.comment s!"Loaded solver library {name}.")
      withHandle (H := GuardedSolver loaded.library) (World.ofShared loaded.memory) demoWork

def solve (env : Environment) (args : Args) (path : String) (settings : Settings) :
    RunM Status := do
  let f ← readFormula env path
  let clauses := f.clauses.length
  logAll #[.formulaRead f.numVars clauses]
  write (.comment s!"parsed 'p cnf {f.numVars} {clauses}' from {path}")
  if args.backend = .resident then
    withHandle (H := ResidentSolver env.engine) (World.ofShared ()) (solveWork f settings)
  else
    withLibrary env args fun loaded =>
      withHandle (H := GuardedSolver loaded.library) (World.ofShared loaded.memory)
        (solveWork f settings)

def signature (env : Environment) (args : Args) : RunM Unit :=
  if args.backend = .resident then write (.plain (Backend.name (ResidentSolver env.engine)))
  else
    withLibrary env args fun loaded =>
      write (.plain ((loaded.library.signatureText? loaded.memory).getD "unknown"))

def runTask (env : Environment) (args : Args) : RunM Int :=
  match args.task with
  | .demo => return (← demo env args).code
  | .solve path settings => return (← solve env args path settings).code
  | .signature => do
    signature env args
    return 0

structure Run where
  exitCode : Int
  transcript : Transcript
  failure : Option Failure
  deriving DecidableEq, Repr

def run (env : Environment) (args : Args) : Run :=
  let (result, transcript) := (runTask env args).run ⟨#[], #[]⟩
  match result with
  | .ok exitCode => ⟨exitCode, transcript, none⟩
  | .error failure => ⟨1, transcript, some failure⟩

/-- A text with its lines behind the first moved to the right. -/
def hang (width : Nat) (text : String) : String :=
  String.ofList (text.toList.flatMap fun c =>
    if c = '\n' then c :: List.replicate width ' ' else [c])

/-- A failure as text: what the run was about to do, then what lies behind it, numbered if there is
more than one cause. -/
def failureLines : Failure → List String
  | [] => []
  | [only] => ["Error: " ++ only]
  | [outermost, cause] => ["Error: " ++ outermost, "", "Caused by:", "    " ++ hang 4 cause]
  | outermost :: causes =>
    ["Error: " ++ outermost, "", "Caused by:"] ++
      causes.zipIdx.map fun (cause, number) =>
        let digits := toString number
        String.ofList (List.replicate (5 - digits.length) ' ') ++ digits ++ ": " ++ hang 7 cause

def logLine (elapsed : Duration) (event : LogEvent) : String :=
  let level := event.level.name
  let padding := String.ofList (List.replicate (5 - level.length) ' ')
  "[" ++ level ++ padding ++ " " ++ event.target ++ "] " ++ hang 4 (event.message elapsed)

namespace Run

def stdout (elapsed : Duration) (run : Run) : String :=
  Report.textOfLines (run.transcript.output.toList.flatMap (Output.lines elapsed))

/-- What a run wrote to the standard error: what is wrong with the filter that `setting` asks for,
the events that pass it, then the failure. Without a setting the filter is that of the verbosity. -/
def stderr (setting : Option String) (args : Args) (elapsed : Duration) (run : Run) : String :=
  let filter := (setting.map LogFilter.ofText).getD (.ofVerbosity args.verbosity)
  let warnings := (setting.map LogFilter.warnings).getD []
  let events := run.transcript.log.toList.filter (filter.passes elapsed)
  Report.textOfLines
    (warnings ++ events.map (logLine elapsed) ++ (run.failure.map failureLines).getD [])

end Run

end SatBridge.Cli
