/-!
# The order of decisions

The variables in a row, from the one that has waited longest for a use to the one that was used
last. A variable moves to the end of the row when it is used. The next decision takes the last
variable that is open, and a mark shortens the way to it.
-/

set_option autoImplicit false

namespace SatBridge.Search

structure Queue where
  /-- The neighbours of each variable in the row; the number of variables stands for none. -/
  before : Array Nat
  after : Array Nat
  /-- The last variable of the row. -/
  newest : Nat
  /-- When a variable was used, by variable, and the time of the last use. -/
  uses : Array Nat
  clock : Nat
  /-- No variable after this one in the row is open. -/
  mark : Nat

namespace Queue

def range (numVars : Nat) : Queue where
  before := .ofFn fun var : Fin numVars => if var.val = 0 then numVars else var.val - 1
  after := .ofFn fun var : Fin numVars => var.val + 1
  newest := numVars - 1
  uses := .range numVars
  clock := numVars
  mark := numVars - 1

def lastUse (q : Queue) (var : Nat) : Nat :=
  q.uses.getD var 0

/-- Moves a variable to the end of the row. -/
def use (q : Queue) (var : Nat) : Queue :=
  let clock := q.clock + 1
  let q := { q with uses := q.uses.setIfInBounds var clock, clock }
  if q.newest = var then q
  else
    let none := q.before.size
    let earlier := q.before.getD var none
    let later := q.after.getD var none
    { q with
      before := (q.before.setIfInBounds later earlier).setIfInBounds var q.newest
      after := ((q.after.setIfInBounds earlier later).setIfInBounds q.newest var).setIfInBounds
        var none
      newest := var }

/-- Notes that a variable is open. -/
def reopen (q : Queue) (var : Nat) : Queue :=
  if q.lastUse q.mark < q.lastUse var then { q with mark := var } else q

/-- The last variable for which `isOpen` holds, at most `steps` places before a variable. -/
def openUpTo? (q : Queue) (isOpen : Nat → Bool) : (steps var : Nat) → Option Nat
  | 0, _ => none
  | steps + 1, var =>
    if isOpen var then some var
    else openUpTo? q isOpen steps (q.before.getD var q.before.size)

end Queue

end SatBridge.Search
