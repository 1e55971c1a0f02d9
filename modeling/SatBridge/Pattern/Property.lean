import SatBridge.Text.Blank
import SatBridge.Text.WordCharacter

/-!
# Properties of characters

The general categories by name, and the character classes that patterns name. Categories are exact
for ASCII; of other characters only word characters, decimal digits and blanks are told apart.
-/

set_option autoImplicit false

namespace SatBridge.Pattern

/-- The general category of a character by its two letters. -/
def category (c : Char) : String :=
  if c.isUpper then "lu"
  else if c.isLower then "ll"
  else if Text.isScriptDigit c then "nd"
  else if c.toNat < 32 || (127 ≤ c.toNat && c.toNat < 160) then "cc"
  else if "([\x7b".contains c then "ps"
  else if ")]\x7d".contains c then "pe"
  else if "!\"#%&'*,./:;?@\\".contains c then "po"
  else if "+<=>|~".contains c then "sm"
  else if "^`".contains c then "sk"
  else if c = '_' then "pc"
  else if c = '-' then "pd"
  else if c = '$' then "sc"
  else if Text.isBlank c then "zs"
  else if Text.isWordCharacter c then "lo"
  else "so"

/-- The names of the general categories, each with what its two letters start with. -/
def categoryNames : List (List String × String) :=
  [(["l", "letter"], "l"), (["lu", "uppercaseletter"], "lu"), (["ll", "lowercaseletter"], "ll"),
   (["lt", "titlecaseletter"], "lt"), (["lm", "modifierletter"], "lm"),
   (["lo", "otherletter"], "lo"), (["m", "mark", "combiningmark"], "m"),
   (["mn", "nonspacingmark"], "mn"), (["mc", "spacingmark"], "mc"),
   (["me", "enclosingmark"], "me"), (["n", "number"], "n"),
   (["nd", "decimalnumber", "digit"], "nd"), (["nl", "letternumber"], "nl"),
   (["no", "othernumber"], "no"), (["p", "punctuation", "punct"], "p"),
   (["pc", "connectorpunctuation"], "pc"), (["pd", "dashpunctuation"], "pd"),
   (["ps", "openpunctuation"], "ps"), (["pe", "closepunctuation"], "pe"),
   (["pi", "initialpunctuation"], "pi"), (["pf", "finalpunctuation"], "pf"),
   (["po", "otherpunctuation"], "po"), (["s", "symbol"], "s"), (["sm", "mathsymbol"], "sm"),
   (["sc", "currencysymbol"], "sc"), (["sk", "modifiersymbol"], "sk"),
   (["so", "othersymbol"], "so"), (["z", "separator"], "z"), (["zs", "spaceseparator"], "zs"),
   (["zl", "lineseparator"], "zl"), (["zp", "paragraphseparator"], "zp"), (["c", "other"], "c"),
   (["cc", "control", "cntrl"], "cc"), (["cf", "format"], "cf"), (["cn", "unassigned"], "cn"),
   (["co", "privateuse"], "co"), (["cs", "surrogate"], "cs")]

/-- The characters with a named property. Case, blanks, hyphens and low lines in the name do not
count. -/
def property? (name : List Char) : Option (Char → Bool) :=
  let plain := name.filter fun c => !(Text.isBlank c || c = '-' || c = '_')
  let key := String.ofList (plain.map Char.toLower)
  match key with
  | "any" | "assigned" => some fun _ => true
  | "ascii" => some fun c => c.toNat < 128
  | "alphabetic" | "alpha" => some fun c => Text.isWordCharacter c && (category c).startsWith "l"
  | "uppercase" | "upper" => some Char.isUpper
  | "lowercase" | "lower" => some Char.isLower
  | "whitespace" | "wspace" | "space" => some Text.isBlank
  | _ =>
    (categoryNames.find? fun (names, _) => names.contains key).map fun (_, start) c =>
      (category c).startsWith start

/-- The characters of a class by the name that it has between brackets and colons. -/
def asciiClass? (name : List Char) : Option (Char → Bool) :=
  match String.ofList name with
  | "alnum" => some Char.isAlphanum
  | "alpha" => some Char.isAlpha
  | "ascii" => some fun c => c.toNat < 128
  | "blank" => some fun c => c = ' ' || c = '\t'
  | "cntrl" => some fun c => c.toNat < 32 || c.toNat = 127
  | "digit" => some Char.isDigit
  | "graph" => some fun c => 32 < c.toNat && c.toNat < 127
  | "lower" => some Char.isLower
  | "print" => some fun c => 32 ≤ c.toNat && c.toNat < 127
  | "punct" => some fun c => 32 < c.toNat && c.toNat < 127 && !c.isAlphanum
  | "space" => some fun c => c = ' ' || (9 ≤ c.toNat && c.toNat ≤ 13)
  | "upper" => some Char.isUpper
  | "word" => some fun c => c.isAlphanum || c = '_'
  | "xdigit" => some fun c => c.isDigit || "abcdefABCDEF".contains c
  | _ => none

end SatBridge.Pattern
