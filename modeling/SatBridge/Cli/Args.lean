import SatBridge.Backend.Settings
import SatBridge.Cli.OptionArg

/-!
# Command line arguments

The arguments name a task, with the options of the task behind it. Options that concern every task
may stand on either side of its name, and there the later side wins. Reading goes from left to
right: an option takes the next argument as its value unless that looks like an option itself, and
after two dashes every argument is a plain one.
-/

set_option autoImplicit false

namespace SatBridge.Cli

inductive Choice where
  /-- A library that is loaded from a file. -/
  | shared
  | builtin
  /-- The resident solver, without a library. -/
  | resident
  deriving DecidableEq, Repr

def Choice.ofName? : String → Option Choice
  | "native" => some .shared
  | "builtin" => some .builtin
  | "varisat" => some .resident
  | _ => none

inductive Task where
  /-- A small formula, to see whether a solver works. -/
  | demo
  /-- The formula at a path; a dash stands for the standard input. -/
  | solve (path : String) (settings : Settings)
  /-- What the library says about itself. -/
  | signature
  deriving DecidableEq, Repr

structure Args where
  library : Option String
  backend : Choice
  verbosity : Nat
  task : Task
  deriving DecidableEq, Repr

inductive Usage where
  /-- The user asked for help. -/
  | help
  /-- The arguments are not well formed. -/
  | wrong
  deriving DecidableEq, Repr

inductive Flag where
  | verbose
  | noModel
  | verify
  | help
  deriving DecidableEq, Repr

inductive Valued where
  | library
  | backend
  | option
  | conflicts
  | decisions
  deriving DecidableEq, Repr

/-- Where an argument stands: before the name of the task, or behind it. -/
inductive Scope where
  | top
  | demo
  | solve
  | signature
  deriving DecidableEq, Repr

def Scope.ofName? : String → Option Scope
  | "demo" => some .demo
  | "solve" => some .solve
  | "signature" => some .signature
  | _ => none

/-- The flags of a scope by their long names. -/
def Scope.flag? (scope : Scope) (name : String) : Option Flag :=
  match name with
  | "verbose" => some .verbose
  | "help" => some .help
  | "no-model" => if scope = .solve then some .noModel else none
  | "verify" => if scope = .solve then some .verify else none
  | _ => none

/-- The valued options of a scope by their names. -/
def Scope.valued? (scope : Scope) (name : String) : Option Valued :=
  match name with
  | "library" => some .library
  | "backend" => some .backend
  | "option" => if scope = .solve then some .option else none
  | "conflicts" => if scope = .solve then some .conflicts else none
  | "decisions" => if scope = .solve then some .decisions else none
  | _ => none

structure Given where
  library : Option String
  backend : Option Choice
  verbosity : Nat
  /-- Solver options, the last one first. -/
  options : List (String × Int)
  conflicts : Option Nat
  decisions : Option Nat
  noModel : Bool
  verify : Bool
  path : Option String
  deriving DecidableEq, Repr

namespace Given

def nothing : Given := ⟨none, none, 0, [], none, none, false, false, none⟩

/-- A value that may be given once. -/
def once {α : Type} (former : Option α) (value? : Option α) : Except Usage (Option α) :=
  match former, value? with
  | none, some value => .ok (some value)
  | _, _ => .error .wrong

/-- A limit is a 32-bit count. It may carry either sign, so a negative zero is one too. -/
def limit? (text : String) : Option Nat :=
  match Text.Decimal.signed? text.toList with
  | some value => if 0 ≤ value ∧ value < 4294967296 then some value.toNat else none
  | none => none

/-- Takes the value of an option. Only solver options may be given several times. -/
def takeValue (given : Given) (valued : Valued) (text : String) : Except Usage Given :=
  match valued with
  | .library => do
    let library ← once given.library (if text.isEmpty then none else some text)
    return { given with library }
  | .backend => do
    let backend ← once given.backend (Choice.ofName? text)
    return { given with backend }
  | .option =>
    match OptionArg.parse text with
    | .ok setting => .ok { given with options := setting :: given.options }
    | .error _ => .error .wrong
  | .conflicts => do
    let conflicts ← once given.conflicts (limit? text)
    return { given with conflicts }
  | .decisions => do
    let decisions ← once given.decisions (limit? text)
    return { given with decisions }

/-- Takes a flag. Only the verbosity counts how often it is given. -/
def takeFlag (given : Given) : Flag → Except Usage Given
  | .verbose => .ok { given with verbosity := given.verbosity + 1 }
  | .noModel => if given.noModel then .error .wrong else .ok { given with noModel := true }
  | .verify => if given.verify then .error .wrong else .ok { given with verify := true }
  | .help => .error .help

def takeLetters (given : Given) : List Char → Except Usage Given
  | [] => .ok given
  | 'v' :: rest => do (← given.takeFlag .verbose).takeLetters rest
  | 'h' :: _ => .error .help
  | _ :: _ => .error .wrong

/-- Takes a plain argument, which only the path of a formula can be. -/
def takePlain (given : Given) (scope : Scope) (text : String) : Except Usage Given :=
  match scope with
  | .solve => do
    let path ← once given.path (some text)
    return { given with path }
  | _ => .error .wrong

end Given

/-- The forms that an argument can have before two dashes have been seen. -/
inductive Form where
  /-- Two dashes alone. -/
  | escape
  /-- Two dashes and a name, perhaps with a value behind an equals sign. -/
  | long (name : String) (value : Option String)
  /-- One dash and letters. -/
  | short (letters : List Char)
  | plain
  deriving DecidableEq, Repr

def Form.ofText (text : String) : Form :=
  match text.toList with
  | ['-', '-'] => .escape
  | '-' :: '-' :: rest =>
    let (name, value) := OptionArg.splitAtEquals rest
    .long (String.ofList name) (value.map String.ofList)
  | ['-'] => .plain
  | '-' :: letters => .short letters
  | _ => .plain

/-- What the word `help` asks for, given what stands behind it: help on the program, or on what one
name stands for. -/
def helpOn : List String → Usage
  | [] => .help
  | [name] => if name = "help" ∨ (Scope.ofName? name).isSome then .help else .wrong
  | _ => .wrong

/-- Reads the arguments of one scope. Before the task its name ends the scope, and the scope of the
task with the arguments behind the name is returned as well. -/
def readScope (scope : Scope) (given : Given) :
    List String → Except Usage (Given × Option (Scope × List String))
  | [] => .ok (given, none)
  | text :: rest =>
    match Form.ofText text with
    | .escape => do
      let given ← rest.foldlM (fun given text => given.takePlain scope text) given
      return (given, none)
    | .long name none =>
      match scope.flag? name, scope.valued? name with
      | some flag, _ => do readScope scope (← given.takeFlag flag) rest
      | none, some valued =>
        match rest with
        | [] => .error .wrong
        | value :: rest =>
          if Form.ofText value = .plain then do
            readScope scope (← given.takeValue valued value) rest
          else .error .wrong
      | none, none => .error .wrong
    | .long name (some value) =>
      match scope.valued? name with
      | some valued => do readScope scope (← given.takeValue valued value) rest
      | none => .error .wrong
    | .short letters => do readScope scope (← given.takeLetters letters) rest
    | .plain =>
      match scope with
      | .top =>
        match Scope.ofName? text with
        | some task => .ok (given, some (task, rest))
        | none => .error (if text = "help" then helpOn rest else .wrong)
      | _ => do readScope scope (← given.takePlain scope text) rest

def taskOf? (scope : Scope) (given : Given) : Option Task :=
  match scope with
  | .top => none
  | .demo => some .demo
  | .signature => some .signature
  | .solve =>
    given.path.map fun path =>
      .solve path {
        options := given.options.reverse
        conflictLimit := given.conflicts
        decisionLimit := given.decisions
        printModel := !given.noModel
        verify := given.verify }

def Args.parse (arguments : List String) : Except Usage Args := do
  let (before, rest) ← readScope .top .nothing arguments
  let some (scope, rest) := rest | throw .wrong
  let (behind, _) ← readScope scope .nothing rest
  let some task := taskOf? scope behind | throw .wrong
  return {
    library := behind.library <|> before.library
    backend := (behind.backend <|> before.backend).getD .shared
    verbosity := if behind.verbosity = 0 then before.verbosity else behind.verbosity
    task }

end SatBridge.Cli
