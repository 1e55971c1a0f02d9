import SatBridge.Text.Blank
import SatBridge.Text.Decimal

/-!
# Option arguments

A solver option is written `name=value`; a bare `name` stands for `name=1` and `no-name` for
`name=0`, and two dashes may come first. The value is a 32-bit integer or one of the words `true`
and `false`.
-/

set_option autoImplicit false

namespace SatBridge.OptionArg

inductive Fault where
  | badValue (raw name : String)
  | badName (name : String)
  deriving DecidableEq, Repr

def Fault.message : Fault → String
  | .badValue raw name => s!"invalid value '{raw}' for option '{name}'"
  | .badName name => s!"invalid option name '{name}'"

/-- The two dashes that may come first are not part of the option. -/
def dropDashes : List Char → List Char
  | '-' :: '-' :: rest => rest
  | cs => cs

/-- The parts of a text before and after its first equals sign, if it has one. -/
def splitAtEquals (cs : List Char) : List Char × Option (List Char) :=
  match cs.dropWhile (· != '=') with
  | [] => (cs, none)
  | _ :: value => (cs.takeWhile (· != '='), some value)

/-- The value that a word writes: one of the two truth words, or a 32-bit integer. -/
def value? (raw : List Char) : Option Int :=
  if raw = "true".toList then some 1
  else if raw = "false".toList then some 0
  else
    match Text.Decimal.signed? raw with
    | some value => if -2147483648 ≤ value ∧ value ≤ 2147483647 then some value else none
    | none => none

/-- An option without a value is switched on, unless its name says that it is switched off. -/
def switch : List Char → List Char × Int
  | 'n' :: 'o' :: '-' :: name => (name, 0)
  | name => (name, 1)

/-- A name has a character, and no blank among its characters. -/
def isName (name : List Char) : Bool :=
  !name.isEmpty && !name.any Text.isBlank

/-- The name and the value that an argument sets. A bad value is reported before a bad name. -/
def parse (arg : String) : Except Fault (String × Int) := do
  let (name, value) ←
    match splitAtEquals (dropDashes arg.toList) with
    | (name, none) => pure (switch name)
    | (name, some raw) =>
      match value? raw with
      | some value => pure (name, value)
      | none => throw (.badValue (String.ofList raw) (String.ofList name))
  if isName name then return (String.ofList name, value)
  else throw (.badName (String.ofList name))

end SatBridge.OptionArg
