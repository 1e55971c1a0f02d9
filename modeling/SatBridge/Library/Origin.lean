/-!
# Where a library comes from
-/

set_option autoImplicit false

namespace SatBridge

/-- A library is loaded from a file or made of entry points of this process. -/
inductive Origin where
  | file (path : String)
  | inProcess (name : String)
  deriving DecidableEq, Repr

namespace Origin

def text : Origin → String
  | .file path => path
  | .inProcess name => name

def diagnostic : Origin → String
  | .file path => "Path(\"" ++ path ++ "\")"
  | .inProcess name => "InProcess(\"" ++ name ++ "\")"

end Origin

end SatBridge
