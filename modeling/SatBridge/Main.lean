import SatBridge.Cli.Run

/-!
# The program

Reads the arguments and the environment, runs the task, and prints what the run left behind. This
build has no dynamic loader, so only the builtin library and the resident solver can be run.
-/

set_option autoImplicit false

namespace SatBridge.Cli

def describe : IO.Error → String
  | .noFileOrDirectory _ code _ => s!"No such file or directory (os error {code})"
  | .permissionDenied _ code _ => s!"Permission denied (os error {code})"
  | error => toString error

/-- The file that the task reads, if it reads one. -/
def inputPath? (args : Args) : Option String :=
  match args.task with
  | .solve path _ => if path = "-" then none else some path
  | _ => none

def readFile (path : String) : IO (Except String Source) := do
  try
    let bytes ← IO.FS.readBinFile path
    return .ok (.ofBytes bytes.data.toList)
  catch error => return .error (describe error)

/-- The pieces of a stream as it delivers them, the last one first. -/
partial def readPieces (stream : IO.FS.Stream) (pieces : List (List UInt8)) :
    IO (List (List UInt8)) := do
  let piece ← stream.read 65536
  if piece.isEmpty then return pieces
  else readPieces stream (piece.data.toList :: pieces)

def readInput (args : Args) : IO Source := do
  match args.task with
  | .solve "-" _ => return ⟨(← readPieces (← IO.getStdin) []).reverse, none⟩
  | _ => return .ofBytes []

def usageText : String :=
  "usage: satbridge [--library PATH] [--backend native|builtin|varisat] [-v] TASK\n" ++
    "tasks: demo | signature | solve PATH [--option NAME=VALUE] [--conflicts N]\n" ++
    "  [--decisions N] [--no-model] [--verify]"

/-- The environment of a run that reads at most one file. -/
def environment (stdin : Source) (file : Except String Source) : Environment where
  stdin := stdin
  file _ := file
  load path := .error (.libraryNotLoaded path "this build has no dynamic loader")
  engine := Search.engine

end SatBridge.Cli

open SatBridge SatBridge.Cli in
def main (arguments : List String) : IO UInt32 := do
  match Args.parse arguments with
  | .error .help => do
    IO.println usageText
    return 0
  | .error .wrong => do
    IO.eprintln usageText
    return 2
  | .ok args => do
    let setting ← IO.getEnv "RUST_LOG"
    let stdin ← readInput args
    let file ← (inputPath? args).elim (pure (.ok (.ofBytes []))) readFile
    let start ← IO.monoNanosNow
    let result := run (environment stdin file) args
    let elapsed := Duration.ofNanoseconds ((← IO.monoNanosNow) - start)
    IO.eprint (result.stderr setting args elapsed)
    IO.print (result.stdout elapsed)
    return result.exitCode.toNat.toUInt32
