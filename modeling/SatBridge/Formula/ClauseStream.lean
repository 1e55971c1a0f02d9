import SatBridge.Formula.Literal

/-!
# Clauses from a stream of literals

Literals arrive one at a time, and a terminator closes the clause that they have formed so far.
The closed clauses and the open one are all that a reader of such a stream has to keep.
-/

set_option autoImplicit false

namespace SatBridge

structure ClauseStream where
  /-- The closed clauses, the last one first. -/
  closed : List Clause
  /-- The literals since the last terminator, the last one first. -/
  opened : List Literal
  deriving DecidableEq, Repr, Inhabited

namespace ClauseStream

def empty : ClauseStream := ⟨[], []⟩

def push (s : ClauseStream) (l : Literal) : ClauseStream :=
  { s with opened := l :: s.opened }

def openClause (s : ClauseStream) : Clause :=
  s.opened.reverse

/-- Ends the open clause, which may be empty. -/
def close (s : ClauseStream) : ClauseStream :=
  ⟨s.openClause :: s.closed, []⟩

def isOpen (s : ClauseStream) : Bool :=
  !s.opened.isEmpty

/-- The closed clauses in the order of their terminators. -/
def clauses (s : ClauseStream) : List Clause :=
  s.closed.reverse

/-- Cuts a list of integers at its zeros: the runs before each zero, and the run after the last. -/
def cut : List Int → List (List Int) × List Int
  | [] => ([], [])
  | value :: rest =>
    match cut rest with
    | (runs, last) =>
      if value = 0 then ([] :: runs, last)
      else
        match runs with
        | [] => ([], value :: last)
        | run :: runs => ((value :: run) :: runs, last)

@[simp] theorem clauses_push (s : ClauseStream) (l : Literal) :
    (s.push l).clauses = s.clauses := rfl

@[simp] theorem clauses_close (s : ClauseStream) :
    s.close.clauses = s.clauses ++ [s.openClause] := by
  simp [close, clauses]

@[simp] theorem openClause_push (s : ClauseStream) (l : Literal) :
    (s.push l).openClause = s.openClause ++ [l] := by
  simp [push, openClause]

@[simp] theorem openClause_close (s : ClauseStream) : s.close.openClause = [] := rfl

end ClauseStream

end SatBridge
