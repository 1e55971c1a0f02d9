import SatBridge.Library.Scripted

/-!
# Shared objects

A shared object exports entry points by symbol. It becomes a library if it exports those that
every library must have; the others are used where they are exported.
-/

set_option autoImplicit false

namespace SatBridge

/-- The symbols of the entry points that every library must have, in the order in which they are
looked up. -/
def requiredSymbols : List String :=
  ["kissat_init", "kissat_release", "kissat_add", "kissat_solve", "kissat_value"]

/-- The symbols of the entry points that a library may lack, in the same way. -/
def optionalSymbols : List String :=
  ["kissat_signature", "kissat_set_option", "kissat_set_conflict_limit",
    "kissat_set_decision_limit"]

/-- Where a library is looked for when no path is given. -/
def defaultLibraryPath : String := "libkissat.so"

/-- A file that the loader has opened: what it exports, and a library with every entry point. -/
structure SharedObject where
  exports : List String
  loaded : LoadedLibrary

namespace SharedObject

def offer (object : SharedObject) : Offer where
  signature := object.exports.contains "kissat_signature"
  setOption := object.exports.contains "kissat_set_option"
  setConflictLimit := object.exports.contains "kissat_set_conflict_limit"
  setDecisionLimit := object.exports.contains "kissat_set_decision_limit"

/-- The library of a shared object. The first required symbol that is missing is an error, which
the loader explains by `detail`; an optional one is only noted in the log. -/
def open? (path detail : String) (object : SharedObject) : Except Error (LoadedLibrary × Log) :=
  match requiredSymbols.find? fun name => !object.exports.contains name with
  | some name => .error (.symbolNotExported name detail)
  | none =>
    let missing := optionalSymbols.filter fun name => !object.exports.contains name
    let library := { object.loaded.library.restrict object.offer with origin := .file path }
    .ok (⟨_, library, object.loaded.memory⟩,
      (missing.map LogEvent.symbolMissing ++ [LogEvent.libraryLoaded path library.offer]).toArray)

end SharedObject

end SatBridge
