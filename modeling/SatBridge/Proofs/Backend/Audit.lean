import SatBridge.Proofs.Backend.Agreement
import SatBridge.Proofs.Formula.Cutting

/-!
# Audited backends

A backend whose handles keep an account of what they did: the integers they took and the solve calls
they answered, in order. What was refused is not in the account. Main statement: whatever commands
it is given, an audited handle is the handle itself with its account beside it, as long as the
operations do not look at the log.
-/

set_option autoImplicit false

namespace SatBridge

open SolverM

inductive Deed where
  | added (value : Int)
  | solved (status : Status)
  deriving DecidableEq, Repr

def Deed.value? : Deed → Option Int
  | .added value => some value
  | .solved _ => none

namespace Deed

/-- The integers that were taken. -/
def accepted (deeds : List Deed) : List Int :=
  deeds.filterMap value?

/-- The clauses that were closed. -/
def committed (deeds : List Deed) : List Clause :=
  (ClauseStream.cut (accepted deeds)).1.map (List.map Literal.ofSigned)

/-- The integers since the last zero. -/
def remainder (deeds : List Deed) : List Int :=
  (ClauseStream.cut (accepted deeds)).2

def count (stats : Stats) : Deed → Stats
  | .added value => stats.countAdded value
  | .solved _ => stats.countSolve

def tally (deeds : List Deed) : Stats :=
  deeds.foldl count .zero

@[simp] theorem accepted_added (deeds : List Deed) (value : Int) :
    accepted (deeds ++ [.added value]) = accepted deeds ++ [value] := by
  simp [accepted, value?]

@[simp] theorem accepted_solved (deeds : List Deed) (status : Status) :
    accepted (deeds ++ [.solved status]) = accepted deeds := by
  simp [accepted, value?]

@[simp] theorem committed_solved (deeds : List Deed) (status : Status) :
    committed (deeds ++ [.solved status]) = committed deeds := by
  simp [committed]

@[simp] theorem remainder_solved (deeds : List Deed) (status : Status) :
    remainder (deeds ++ [.solved status]) = remainder deeds := by
  simp [remainder]

@[simp] theorem tally_snoc (deeds : List Deed) (deed : Deed) :
    tally (deeds ++ [deed]) = count (tally deeds) deed := by
  simp [tally]

theorem committed_subset_added (deeds : List Deed) (value : Int) :
    committed deeds ⊆ committed (deeds ++ [.added value]) := by
  rw [committed, committed, accepted_added, ClauseStream.cut_snoc]
  refine List.map_subset _ ?_
  by_cases zero : value = 0
  · simp [zero]
  · simp [zero]

theorem maxVar_tally (deeds : List Deed) :
    (tally deeds).maxVar = ((accepted deeds).map Int.natAbs).foldl max 0 := by
  induction deeds using List.reverseRecOn with
  | nil => rfl
  | append_singleton rest deed ih =>
      cases deed with
      | added value =>
          rw [tally_snoc, accepted_added, List.map_append, List.foldl_append, ← ih]
          by_cases zero : value = 0 <;> simp [count, Stats.countAdded, zero]
      | solved status =>
          rw [tally_snoc, accepted_solved, ← ih]
          rfl

end Deed

structure Audited (H : Type) where
  solver : H
  /-- The deeds of the solver, the first one first. -/
  deeds : List Deed

namespace Audited

variable {H W α : Type}

def inner (c : Context (Audited H) W) : Context H W :=
  ⟨c.toWorld, c.handle.solver⟩

def entries (deeds : α → List Deed) : Except Error α → List Deed
  | .ok value => deeds value
  | .error _ => []

/-- Has the solver act, and enters the deeds of a success. -/
def enter (deeds : α → List Deed) (action : SolverM H W α) : SolverM (Audited H) W α :=
  ExceptT.mk fun c =>
    let (result, d) := action.run (inner c)
    (result, ⟨d.toWorld, ⟨d.handle, c.handle.deeds ++ entries deeds result⟩⟩)

instance [Backend H W] : Backend (Audited H) W where
  name := Backend.name H
  create := do return ⟨← Backend.create, []⟩
  release s := Backend.release s.solver
  add value := enter (fun _ => [.added value]) (Backend.add value)
  solve := enter (fun status => [.solved status]) Backend.solve
  value var := enter (fun _ => []) (Backend.value var)
  setOption name value := enter (fun _ => []) (Backend.setOption name value)
  setConflictLimit limit := enter (fun _ => []) (Backend.setConflictLimit limit)
  setDecisionLimit limit := enter (fun _ => []) (Backend.setDecisionLimit limit)
  stats s := Backend.stats s.solver

theorem keeps_enter {holds : H → List Deed → Prop} {deeds : α → List Deed}
    {action : SolverM H W α}
    (succeeds : ∀ c value d before, action.run c = (.ok value, d) → holds c.handle before →
      holds d.handle (before ++ deeds value))
    (fails : ∀ c error d before, action.run c = (.error error, d) → holds c.handle before →
      holds d.handle before) :
    Keeps (fun c : Context (Audited H) W => holds c.handle.solver c.handle.deeds)
      (enter deeds action) := by
  intro c kept
  simp only [enter, ExceptT.run_mk]
  rcases ran : action.run (inner c) with ⟨error | value, d⟩
  · simp only [entries, List.append_nil]
    exact fails (inner c) error d _ ran kept
  · exact succeeds (inner c) value d _ ran kept

theorem keeps_enter_throw {holds : H → List Deed → Prop} (deeds : α → List Deed) (error : Error) :
    Keeps (fun c : Context (Audited H) W => holds c.handle.solver c.handle.deeds)
      (enter deeds (throw error)) := by
  refine keeps_enter (fun c value d before ran => ?_) fun c other d before ran kept => ?_
  · cases ran
  · cases ran
    exact kept

/-- Contexts that differ at most in the log. -/
def SameButLog (c d : Context H W) : Prop :=
  c.shared = d.shared ∧ c.handle = d.handle

def Follows : Relation (Audited H) W H W :=
  fun c d => SameButLog (inner c) d

theorem follows_enter {action : SolverM H W α} (silent : AgreeKeeping SameButLog action action)
    (deeds : α → List Deed) : AgreeKeeping Follows (enter deeds action) action := by
  intro c d follows
  obtain ⟨same, after⟩ := silent (inner c) d follows
  exact ⟨same, after⟩

theorem follows [Backend H W]
    (silent : Backend.Agree (fun _ => True) (fun _ => True)
      fun _ => (SameButLog : Relation H W H W)) :
    Backend.Agree (fun _ => True) (fun _ => True)
      fun _ => (Follows : Relation (Audited H) W H W) where
  record _ _ _ := fun _ _ follows => ⟨rfl, follows⟩
  add value admitted := follows_enter (silent.add value admitted) _
  solve := follows_enter silent.solve _
  value answered index admitted := follows_enter (silent.value answered index admitted) _
  setOption answered name value := follows_enter (silent.setOption answered name value) _
  setConflictLimit answered limit := follows_enter (silent.setConflictLimit answered limit) _
  setDecisionLimit answered limit := follows_enter (silent.setDecisionLimit answered limit) _
  stats _ _ _ follows := congrArg Backend.stats follows.2

end Audited

section Runs

variable {H W : Type} [Backend H W]

/-- The context after some commands, whatever their answers were. -/
def runCommands (c : Context H W) (commands : List Command) : Context H W :=
  commands.foldl (fun c command => (command.perform.run c).2) c

theorem runCommands_append (c : Context H W) (first second : List Command) :
    runCommands c (first ++ second) = runCommands (runCommands c first) second :=
  List.foldl_append

theorem Backend.Keeps.runCommands {kept : Context H W → Prop} (primitives : Backend.Keeps kept)
    (commands : List Command) {c : Context H W} (holds : kept c) :
    kept (SatBridge.runCommands c commands) := by
  induction commands generalizing c with
  | nil => exact holds
  | cons command rest ih => exact ih (primitives.perform command c holds)

namespace Audited

/-- A handle with an empty account. -/
def start (c : Context H W) : Context (Audited H) W :=
  ⟨c.toWorld, ⟨c.handle, []⟩⟩

/-- What the handle does under some commands. -/
def deedsOf (c : Context H W) (commands : List Command) : List Deed :=
  (runCommands (start c) commands).handle.deeds

theorem follows_runCommands
    (silent : Backend.Agree (fun _ => True) (fun _ => True)
      fun _ => (SameButLog : Relation H W H W))
    (commands : List Command) {c : Context (Audited H) W} {d : Context H W}
    (follows : Follows c d) : Follows (runCommands c commands) (runCommands d commands) := by
  induction commands generalizing c d with
  | nil => exact follows
  | cons command rest ih => exact ih ((Audited.follows silent).perform command c d follows).related

/-- The audited handle answers every next command as the handle itself does. -/
theorem perform_start
    (silent : Backend.Agree (fun _ => True) (fun _ => True)
      fun _ => (SameButLog : Relation H W H W))
    (c : Context H W) (commands : List Command) (command : Command) :
    (command.perform.run (runCommands (start c) commands)).1 =
      (command.perform.run (runCommands c commands)).1 := by
  have begins : Follows (start c) c := ⟨rfl, rfl⟩
  have follows := follows_runCommands silent commands begins
  exact ((Audited.follows silent).perform command _ _ follows).result

end Audited

end Runs

end SatBridge
