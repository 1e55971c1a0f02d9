import SatBridge.Formula.Satisfaction
import Std.Data.HashSet

/-!
# Refutations

A refutation derives the empty clause step by step. A step names the clause it derives and the
earlier clauses it rests on: once all literals of the new clause are taken for false, each named
clause in turn has at most one literal that is still open, which it makes true, until one of them
has none left. Main statement: what can be refuted in this way is unsatisfiable.
-/

set_option autoImplicit false

namespace SatBridge.Search

/-- A derived clause, and the numbers of the clauses it rests on in the order of their use. -/
structure Inference where
  clause : Clause
  premises : List Nat

/-- The steps of a derivation in order; the first of them adds to the given clauses. -/
abbrev Refutation := List Inference

/-- Follows the premises from a set of literals that are taken for false, up to one that has no
literal left. -/
def contradicts (known : Array Clause) (falsified : Std.HashSet Literal) : List Nat → Bool
  | [] => false
  | premise :: rest =>
    match known[premise]? with
    | none => false
    | some c =>
      match c.find? fun l => !falsified.contains l with
      | none => true
      | some l =>
        if c.all fun m => m == l || falsified.contains m then
          contradicts known (falsified.insert l.negate) rest
        else false

def Inference.follows (known : Array Clause) (step : Inference) : Bool :=
  contradicts known (.ofList step.clause) step.premises

/-- Whether steps are correct from the first to one that derives the empty clause. -/
def Refutation.refutes (known : Array Clause) : Refutation → Bool
  | [] => false
  | step :: rest =>
    step.follows known && (step.clause.isEmpty || refutes (known.push step.clause) rest)

/-- Premises that hold cannot contradict literals that are false. -/
theorem contradicts_eq_false {v : Valuation} {known : Array Clause}
    (knownHold : ∀ c ∈ known, Clause.holds v c = true) (premises : List Nat)
    (falsified : Std.HashSet Literal)
    (allFalse : ∀ l, l ∈ falsified → l.holds v = false) :
    contradicts known falsified premises = false := by
  induction premises generalizing falsified with
  | nil => rfl
  | cons premise rest ih =>
      unfold contradicts
      split
      · rfl
      · rename_i c found
        have holdsPremise := knownHold c (Array.mem_of_getElem? found)
        obtain ⟨trueLiteral, member, isTrue⟩ := List.any_eq_true.mp holdsPremise
        have notFalsified : trueLiteral ∉ falsified := fun inside => by
          rw [allFalse _ inside] at isTrue
          cases isTrue
        split
        · rename_i none
          have inside := List.find?_eq_none.mp none trueLiteral member
          simp [notFalsified] at inside
        · rename_i l _
          split
          · rename_i others
            apply ih
            have sameLiteral := List.all_eq_true.mp others trueLiteral member
            have trueIsOpen : trueLiteral = l := by simpa [notFalsified] using sameLiteral
            intro m inside
            rcases Std.HashSet.mem_insert.mp inside with same | before
            · rw [← beq_iff_eq.mp same, Literal.holds_negate, ← trueIsOpen, isTrue]
              rfl
            · exact allFalse m before
          · rfl

/-- A step that follows from clauses that hold derives a clause that holds. -/
theorem Inference.holds_of_follows {v : Valuation} {known : Array Clause}
    (knownHold : ∀ c ∈ known, Clause.holds v c = true) {step : Inference}
    (follows : step.follows known = true) : Clause.holds v step.clause = true := by
  cases holds : Clause.holds v step.clause with
  | true => rfl
  | false =>
      have allFalse : ∀ l, l ∈ Std.HashSet.ofList step.clause → l.holds v = false := by
        intro l inside
        have member : l ∈ step.clause := by simpa using inside
        simpa using List.any_eq_false.mp holds l member
      rw [Inference.follows, contradicts_eq_false knownHold _ _ allFalse] at follows
      cases follows

/-- Clauses that can be refuted hold under no valuation. -/
theorem Refutation.not_holds_of_refutes {v : Valuation} (steps : Refutation)
    {known : Array Clause} (refuted : steps.refutes known = true) :
    ¬ ∀ c ∈ known, Clause.holds v c = true := by
  induction steps generalizing known with
  | nil => cases refuted
  | cons step rest ih =>
      intro knownHold
      simp only [Refutation.refutes, Bool.and_eq_true, Bool.or_eq_true] at refuted
      obtain ⟨follows, ends | continues⟩ := refuted
      · have holds := Inference.holds_of_follows knownHold follows
        rw [List.isEmpty_iff.mp ends] at holds
        cases holds
      · refine ih continues ?_
        intro c member
        rcases Array.mem_push.mp member with earlier | same
        · exact knownHold c earlier
        · rw [same]
          exact Inference.holds_of_follows knownHold follows

end SatBridge.Search
