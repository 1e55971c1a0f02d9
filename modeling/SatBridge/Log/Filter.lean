import SatBridge.Log.Event
import SatBridge.Pattern.Parser
import SatBridge.Text.Blank

/-!
# Log filters

A filter is a list of directives, each of which lets events pass up to a level: all of them, or
those whose target starts with a name. Of the directives that fit a target the one with the longest
name decides, and an event that none fits is dropped. A pattern, if there is one, has to occur in
the messages of the events that pass.
-/

set_option autoImplicit false

namespace SatBridge

/-- Lets events of targets that start with `name` pass if their rank is at most `rank`. -/
structure Directive where
  /-- What the targets start with; `none` stands for all targets. -/
  name : Option (List Char)
  rank : Nat
  deriving DecidableEq, Repr

namespace Directive

def maxRank : Nat := Level.trace.rank

def fits (d : Directive) (target : List Char) : Bool :=
  match d.name with
  | none => true
  | some name => name.isPrefixOf target

/-- How specific a directive is: the length of its name. -/
def weight (d : Directive) : Nat :=
  match d.name with
  | none => 0
  | some name => name.length

/-- The rank up to which events pass for one of the level words, in any case of ASCII letters. -/
def rank? (word : List Char) : Option Nat :=
  match String.ofList (word.map Char.toLower) with
  | "off" => some 0
  | "error" => some Level.error.rank
  | "warn" => some Level.warn.rank
  | "info" => some Level.info.rank
  | "debug" => some Level.debug.rank
  | "trace" => some Level.trace.rank
  | _ => none

/-- Reads `level`, `name` or `name=level`. A name without a level lets everything pass. What is
none of these is returned: the word that is no level, or all of it if there are two equals signs. -/
def ofChars (cs : List Char) : Except (List Char) Directive :=
  let name := cs.takeWhile (· != '=')
  match cs.dropWhile (· != '=') with
  | [] =>
    match rank? name with
    | some rank => .ok ⟨none, rank⟩
    | none => .ok ⟨some name, maxRank⟩
  | _ :: level =>
    if level.contains '=' then .error cs
    else
      match Text.trim level with
      | [] => .ok ⟨some name, maxRank⟩
      | word =>
        match rank? word with
        | some rank => .ok ⟨some name, rank⟩
        | none => .error word

end Directive

structure LogFilter where
  directives : List Directive
  /-- What has to occur in a message. -/
  pattern : Option Pattern

namespace LogFilter

/-- Lets every event pass up to one level. -/
def ofLevel (level : Level) : LogFilter := ⟨[⟨none, level.rank⟩], none⟩

/-- The default level grows with the verbosity that is asked for. -/
def ofVerbosity : Nat → LogFilter
  | 0 => ofLevel .warn
  | 1 => ofLevel .info
  | 2 => ofLevel .debug
  | _ => ofLevel .trace

/-- Adds a directive in place of one with the same name, if there is one. -/
def insert (directives : List Directive) (d : Directive) : List Directive :=
  if directives.any (·.name == d.name) then
    directives.map fun other => if other.name == d.name then d else other
  else directives ++ [d]

/-- The parts of a text between the places of a character. -/
def splitAt (separator : Char) (cs : List Char) : List (List Char) :=
  cs.foldr (fun c parts =>
    match parts with
    | [] => if c = separator then [[], []] else [[c]]
    | part :: rest => if c = separator then [] :: part :: rest else (c :: part) :: rest) [[]]

/-- The directives between commas, or what stands in the place of one. -/
def entries (cs : List Char) : List (Except (List Char) Directive) :=
  ((splitAt ',' cs).map Text.trim |>.filter (!·.isEmpty)).map Directive.ofChars

/-- The directives and the pattern of a text, which a slash separates. A text with more than one
slash is not read at all. -/
def sections? (text : String) : Option (List (Except (List Char) Directive) × Option (List Char)) :=
  match splitAt '/' text.toList with
  | [] => some ([], none)
  | [directives] => some (entries directives, none)
  | [directives, pattern] => some (entries directives, some pattern)
  | _ => none

/-- The filter that a text describes. Without a single directive, errors pass. What cannot be read
is left out. -/
def ofText (text : String) : LogFilter :=
  match sections? text with
  | none => ofLevel .error
  | some (entries, written) =>
    let directives := (entries.filterMap Except.toOption).foldl insert []
    let pattern := written.bind fun cs => (Pattern.ofChars cs).toOption
    { directives := if directives.isEmpty then (ofLevel .error).directives else directives
      pattern }

/-- What is wrong with each part of a text that is left out. -/
def mistakes (text : String) : List String :=
  let invalid (part : String) : String := "invalid logging spec '" ++ part ++ "'"
  match sections? text with
  | none => [invalid text ++ " (too many '/'s)"]
  | some (entries, written) =>
    let parts := entries.filterMap fun entry =>
      match entry with
      | .ok _ => none
      | .error part => some (invalid (String.ofList part))
    let pattern := written.toList.filterMap fun cs =>
      match Pattern.ofChars cs with
      | .ok _ => none
      | .error refusal => some ("invalid regex filter - " ++ refusal.message cs)
    parts ++ pattern

/-- A warning for each part of a text that is left out. -/
def warnings (text : String) : List String :=
  (mistakes text).map fun mistake => "warning: " ++ mistake ++ ", ignoring it"

/-- The directive that decides on a target: the last of the longest that fit. -/
def directive? (filter : LogFilter) (target : List Char) : Option Directive :=
  filter.directives.foldl (fun best d =>
    if d.fits target then
      match best with
      | some other => if other.weight ≤ d.weight then some d else best
      | none => some d
    else best) none

/-- An event passes if its target admits its level and its message has what is asked for. -/
def passes (filter : LogFilter) (elapsed : Duration) (event : LogEvent) : Bool :=
  match filter.directive? event.target.toList with
  | some d => event.level.rank ≤ d.rank && filter.pattern.all (·.isIn (event.message elapsed))
  | none => false

end LogFilter

end SatBridge
