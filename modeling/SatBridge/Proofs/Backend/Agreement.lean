import SatBridge.Proofs.Backend.Action

/-!
# Agreement of two backends

Two actions agree when runs from related contexts give the same result and end in related contexts.
Backends whose operations agree, as far as their arguments are admitted, agree on everything that is
put together from those operations. The relation may depend on whether the solver has given an
answer yet, because that is when a backend may stop taking clauses.
-/

set_option autoImplicit false

namespace SatBridge

variable {H₁ W₁ H₂ W₂ α β : Type}

abbrev Relation (H₁ W₁ H₂ W₂ : Type) := Context H₁ W₁ → Context H₂ W₂ → Prop

namespace SolverM

/-- Two runs ended with one result, in contexts that are related after it. -/
structure Matches (after : Except Error α → Relation H₁ W₁ H₂ W₂)
    (first : Except Error α × Context H₁ W₁) (second : Except Error α × Context H₂ W₂) : Prop where
  result : first.1 = second.1
  related : after first.1 first.2 second.2

/-- Runs from contexts that are related before have equal results, and end in contexts that are
related after. -/
def Agree (before : Relation H₁ W₁ H₂ W₂) (first : SolverM H₁ W₁ α) (second : SolverM H₂ W₂ α)
    (after : Except Error α → Relation H₁ W₁ H₂ W₂) : Prop :=
  ∀ c d, before c d → Matches after (first.run c) (second.run d)

def AgreeKeeping (kept : Relation H₁ W₁ H₂ W₂) (first : SolverM H₁ W₁ α)
    (second : SolverM H₂ W₂ α) : Prop :=
  Agree kept first second fun _ => kept

theorem agree_of_runs {first : SolverM H₁ W₁ α} {second : SolverM H₂ W₂ α}
    {after : Except Error α → Relation H₁ W₁ H₂ W₂} {c c' : Context H₁ W₁} {d d' : Context H₂ W₂}
    {result : Except Error α} (ranFirst : first.run c = (result, c'))
    (ranSecond : second.run d = (result, d')) (related : after result c' d') :
    Matches after (first.run c) (second.run d) := by
  rw [ranFirst, ranSecond]
  exact ⟨rfl, related⟩

section Rules

variable {before kept : Relation H₁ W₁ H₂ W₂} {middle : Except Error α → Relation H₁ W₁ H₂ W₂}
  {after : Except Error β → Relation H₁ W₁ H₂ W₂}

theorem agree_bind {first : SolverM H₁ W₁ α} {second : SolverM H₂ W₂ α}
    {firstNext : α → SolverM H₁ W₁ β} {secondNext : α → SolverM H₂ W₂ β}
    (agree : Agree before first second middle)
    (next : ∀ value, Agree (middle (.ok value)) (firstNext value) (secondNext value) after)
    (failed : ∀ error c d, middle (.error error) c d → after (.error error) c d) :
    Agree before (first >>= firstNext) (second >>= secondNext) after := by
  intro c d related
  obtain ⟨same, between⟩ := agree c d related
  rw [run_bind, run_bind]
  rcases ranFirst : first.run c with ⟨result, c'⟩
  rcases ranSecond : second.run d with ⟨_, d'⟩
  rw [ranFirst, ranSecond] at same between
  obtain rfl : result = _ := same
  cases result with
  | error error => exact ⟨rfl, failed error c' d' between⟩
  | ok value => exact next value c' d' between

theorem agreeKeeping_pure (value : α) :
    AgreeKeeping kept (pure value : SolverM H₁ W₁ α) (pure value : SolverM H₂ W₂ α) :=
  fun _ _ related => ⟨rfl, related⟩

theorem agreeKeeping_throw (error : Error) :
    AgreeKeeping kept (throw error : SolverM H₁ W₁ α) (throw error : SolverM H₂ W₂ α) :=
  fun _ _ related => ⟨rfl, related⟩

theorem agreeKeeping_bind {first : SolverM H₁ W₁ α} {second : SolverM H₂ W₂ α}
    {firstNext : α → SolverM H₁ W₁ β} {secondNext : α → SolverM H₂ W₂ β}
    (agree : AgreeKeeping kept first second)
    (next : ∀ value, AgreeKeeping kept (firstNext value) (secondNext value)) :
    AgreeKeeping kept (first >>= firstNext) (second >>= secondNext) :=
  agree_bind agree next fun _ _ _ related => related

theorem agreeKeeping_map {first : SolverM H₁ W₁ α} {second : SolverM H₂ W₂ α} (change : α → β)
    (agree : AgreeKeeping kept first second) :
    AgreeKeeping kept (change <$> first) (change <$> second) := by
  intro c d related
  obtain ⟨same, between⟩ := agree c d related
  rw [run_map, run_map]
  exact ⟨congrArg (Except.map change) same, between⟩

theorem agreeKeeping_tryCatch {first : SolverM H₁ W₁ α} {second : SolverM H₂ W₂ α}
    {firstHandler : Error → SolverM H₁ W₁ α} {secondHandler : Error → SolverM H₂ W₂ α}
    (agree : AgreeKeeping kept first second)
    (handlers : ∀ error, AgreeKeeping kept (firstHandler error) (secondHandler error)) :
    AgreeKeeping kept (tryCatch first firstHandler) (tryCatch second secondHandler) := by
  intro c d related
  obtain ⟨same, between⟩ := agree c d related
  rw [run_tryCatch, run_tryCatch]
  rcases ranFirst : first.run c with ⟨result, c'⟩
  rcases ranSecond : second.run d with ⟨_, d'⟩
  rw [ranFirst, ranSecond] at same between
  obtain rfl : result = _ := same
  cases result with
  | error error => exact handlers error c' d' between
  | ok value => exact ⟨rfl, between⟩

theorem agreeKeeping_forM {items : List β} {first : β → SolverM H₁ W₁ PUnit}
    {second : β → SolverM H₂ W₂ PUnit}
    (each : ∀ item ∈ items, AgreeKeeping kept (first item) (second item)) :
    AgreeKeeping kept (items.forM first) (items.forM second) := by
  induction items with
  | nil => exact agreeKeeping_pure _
  | cons item rest ih =>
      have tail := ih fun other member => each other (List.mem_cons_of_mem _ member)
      exact agreeKeeping_bind (each item List.mem_cons_self) fun _ => tail

theorem agreeKeeping_optionForM {item : Option β} {first : β → SolverM H₁ W₁ PUnit}
    {second : β → SolverM H₂ W₂ PUnit}
    (each : ∀ value, AgreeKeeping kept (first value) (second value)) :
    AgreeKeeping kept (item.forM first) (item.forM second) := by
  cases item with
  | none => exact agreeKeeping_pure _
  | some value => exact each value

end Rules

end SolverM

open SolverM

/-- The operations of two backends agree on admitted literals and variables. The flag tells whether
the solver has answered; literals and the solve call come before that. -/
structure Backend.Agree [Backend H₁ W₁] [Backend H₂ W₂] (literal : Int → Prop) (var : Nat → Prop)
    (related : (answered : Bool) → Relation H₁ W₁ H₂ W₂) : Prop where
  record : ∀ answered first second,
    AgreeKeeping (related answered) (Solver.record first) (Solver.record second)
  add : ∀ value, literal value →
    AgreeKeeping (related false) (Backend.add value) (Backend.add value)
  solve : SolverM.Agree (related false) Backend.solve Backend.solve fun result =>
    related result.toBool
  value : ∀ answered index, var index →
    AgreeKeeping (related answered) (Backend.value index) (Backend.value index)
  setOption : ∀ answered name value,
    AgreeKeeping (related answered) (Backend.setOption name value) (Backend.setOption name value)
  setConflictLimit : ∀ answered limit,
    AgreeKeeping (related answered) (Backend.setConflictLimit limit)
      (Backend.setConflictLimit limit)
  setDecisionLimit : ∀ answered limit,
    AgreeKeeping (related answered) (Backend.setDecisionLimit limit)
      (Backend.setDecisionLimit limit)
  stats : ∀ answered c d, related answered c d →
    Backend.stats c.handle = Backend.stats d.handle

/-- Every integer that the clause is fed as is admitted. -/
def Clause.Admitted (literal : Int → Prop) (c : Clause) : Prop :=
  ∀ l ∈ c, ∀ value, l.toInt? = .ok value → literal value

namespace Backend.Agree

variable [Backend H₁ W₁] [Backend H₂ W₂] {literal : Int → Prop} {var : Nat → Prop}
  {related : Bool → Relation H₁ W₁ H₂ W₂}

theorem addClause (operations : Backend.Agree literal var related) (terminator : literal 0)
    {c : Clause} (admitted : c.Admitted literal) :
    AgreeKeeping (related false) (Solver.addClause c) (Solver.addClause c) := by
  refine agreeKeeping_bind (agreeKeeping_forM fun l member => ?_) fun _ =>
    operations.add 0 terminator
  cases given : l.toInt? with
  | error error => exact agreeKeeping_throw error
  | ok value => exact operations.add value (admitted l member value given)

theorem feed (operations : Backend.Agree literal var related) (terminator : literal 0)
    {f : Formula} (admitted : ∀ c ∈ f.clauses, c.Admitted literal) :
    AgreeKeeping (related false) (Solver.feed f) (Solver.feed f) :=
  agreeKeeping_forM fun c member => operations.addClause terminator (admitted c member)

theorem readValues (operations : Backend.Agree literal var related) (answered : Bool)
    (count : Nat) (model : Assignment)
    (admitted : ∀ index, model.size ≤ index → index < model.size + count → var index) :
    AgreeKeeping (related answered) (Solver.readValues count model)
      (Solver.readValues count model) := by
  induction count generalizing model with
  | zero => exact agreeKeeping_pure _
  | succ count ih =>
      have next := operations.value answered model.size (admitted _ (Nat.le_refl _) (by omega))
      refine agreeKeeping_bind next fun value => ih _ fun index low high => ?_
      rw [Array.size_push] at low high
      exact admitted index (by omega) (by omega)

theorem model (operations : Backend.Agree literal var related) (answered : Bool) {numVars : Nat}
    (admitted : ∀ index, 1 ≤ index → index ≤ numVars → var index) :
    AgreeKeeping (related answered) (Solver.model numVars) (Solver.model numVars) := by
  refine operations.readValues answered numVars #[none] fun index low high => ?_
  exact admitted index low (by simpa [Nat.lt_succ_iff, Nat.add_comm] using high)

theorem tolerate (operations : Backend.Agree literal var related) (answered : Bool)
    {first : SolverM H₁ W₁ Unit} {second : SolverM H₂ W₂ Unit}
    (agree : AgreeKeeping (related answered) first second) :
    AgreeKeeping (related answered) (Settings.tolerate first) (Settings.tolerate second) := by
  refine agreeKeeping_tryCatch agree fun error => ?_
  cases error with
  | unsupported feature => exact operations.record answered _ _
  | _ => exact agreeKeeping_throw _

theorem apply (operations : Backend.Agree literal var related) (answered : Bool)
    (settings : Settings) :
    AgreeKeeping (related answered) (settings.apply : SolverM H₁ W₁ Unit)
      (settings.apply : SolverM H₂ W₂ Unit) := by
  refine agreeKeeping_bind (agreeKeeping_forM fun setting _ => ?_) fun _ => ?_
  · refine operations.tolerate answered ?_
    exact agreeKeeping_bind (operations.setOption answered _ _) fun _ => agreeKeeping_pure _
  refine agreeKeeping_bind (agreeKeeping_optionForM fun limit => ?_) fun _ =>
    agreeKeeping_optionForM fun limit => ?_
  · exact operations.tolerate answered (operations.setConflictLimit answered limit)
  · exact operations.tolerate answered (operations.setDecisionLimit answered limit)

theorem conclude (operations : Backend.Agree literal var related) {f : Formula}
    (admitted : ∀ index, 1 ≤ index → index ≤ f.numVars → var index) (settings : Settings)
    (status : Status) :
    AgreeKeeping (related true) (Solver.conclude f settings status)
      (Solver.conclude f settings status) := by
  have fetched : AgreeKeeping (related true) (Solver.fetchModel f settings status)
      (Solver.fetchModel f settings status) := by
    unfold Solver.fetchModel
    split
    · exact agreeKeeping_map _ (operations.model true admitted)
    · exact agreeKeeping_pure _
  have verified (model : Option Assignment) : AgreeKeeping (related true)
      (Solver.verifyModel f settings model) (Solver.verifyModel f settings model) := by
    unfold Solver.verifyModel
    split
    · refine agreeKeeping_optionForM fun model => ?_
      unfold Solver.checkModel
      split
      · exact agreeKeeping_throw _
      · exact operations.record true _ _
    · exact agreeKeeping_pure _
  refine agreeKeeping_bind fetched fun model => agreeKeeping_bind (verified model) fun _ => ?_
  refine agreeKeeping_bind ?_ fun stats => agreeKeeping_pure _
  exact fun c d holds => ⟨congrArg Except.ok (operations.stats true c d holds), holds⟩

theorem solveFormula (operations : Backend.Agree literal var related) (terminator : literal 0)
    {f : Formula} (clauses : ∀ c ∈ f.clauses, c.Admitted literal)
    (vars : ∀ index, 1 ≤ index → index ≤ f.numVars → var index) (settings : Settings) :
    SolverM.Agree (related false) (Solver.solveFormula f settings)
      (Solver.solveFormula f settings) fun _ c d => ∃ answered, related answered c d := by
  have stop : ∀ (_ : Error) c d, related false c d → ∃ answered, related answered c d :=
    fun _ _ _ holds => ⟨false, holds⟩
  refine agree_bind (operations.apply false settings) (fun _ => ?_) stop
  refine agree_bind (operations.feed terminator clauses) (fun _ => ?_) stop
  refine agree_bind (operations.record false _ _) (fun _ => ?_) stop
  refine agree_bind operations.solve (fun status => ?_) stop
  intro c d holds
  obtain ⟨same, after⟩ := operations.conclude vars settings status c d holds
  exact ⟨same, true, after⟩

/-- Backends that always agree cannot be told apart by any command. -/
theorem perform {kept : Relation H₁ W₁ H₂ W₂}
    (operations : Backend.Agree (fun _ => True) (fun _ => True) fun _ => kept)
    (command : Command) :
    AgreeKeeping kept (command.perform : SolverM H₁ W₁ Answer)
      (command.perform : SolverM H₂ W₂ Answer) := by
  have answers {α : Type} (answer : α → Answer) (value : α) :
      AgreeKeeping kept (pure (answer value) : SolverM H₁ W₁ Answer)
        (pure (answer value) : SolverM H₂ W₂ Answer) :=
    agreeKeeping_pure (answer value)
  have clause (c : Clause) : c.Admitted fun _ => True := fun _ _ _ _ => trivial
  cases command with
  | add value => exact agreeKeeping_bind (operations.add value trivial) (answers fun _ => .done)
  | addClause c =>
      exact agreeKeeping_bind (operations.addClause trivial (clause c)) (answers fun _ => .done)
  | feed f =>
      exact agreeKeeping_bind (operations.feed trivial fun c _ => clause c) (answers fun _ => .done)
  | solve => exact agreeKeeping_bind operations.solve (answers .status)
  | value var => exact agreeKeeping_bind (operations.value true var trivial) (answers .value)
  | model numVars =>
      exact agreeKeeping_bind (operations.model true fun _ _ _ => trivial) (answers .model)
  | setOption name value =>
      exact agreeKeeping_bind (operations.setOption true name value) (answers .previous)
  | setConflictLimit limit =>
      exact agreeKeeping_bind (operations.setConflictLimit true limit) (answers fun _ => .done)
  | setDecisionLimit limit =>
      exact agreeKeeping_bind (operations.setDecisionLimit true limit) (answers fun _ => .done)
  | configure settings =>
      exact agreeKeeping_bind (operations.apply true settings) (answers fun _ => .done)
  | solveFormula f settings =>
      refine agreeKeeping_bind (fun c d holds => ?_) (answers .outcome)
      obtain ⟨same, _, after⟩ := operations.solveFormula trivial (fun c _ => clause c)
        (fun _ _ _ => trivial) settings c d holds
      exact ⟨same, after⟩

end Backend.Agree

/-- The responses of two pools are the same as long as each kind of step keeps them related. -/
theorem Pool.steps_of_related [Backend H₁ W₁] [Backend H₂ W₂]
    (related : Pool H₁ W₁ → Pool H₂ W₂ → Prop)
    (create : ∀ p q, related p q → p.create.1 = q.create.1 ∧ related p.create.2 q.create.2)
    (drop : ∀ slot p q, related p q →
      (p.drop slot).1 = (q.drop slot).1 ∧ related (p.drop slot).2 (q.drop slot).2)
    (perform : ∀ slot command p q, related p q →
      (p.perform slot command).1 = (q.perform slot command).1 ∧
        related (p.perform slot command).2 (q.perform slot command).2)
    (steps : List Pool.Step) {p : Pool H₁ W₁} {q : Pool H₂ W₂} (begins : related p q) :
    (p.steps steps).1 = (q.steps steps).1 ∧ related (p.steps steps).2 (q.steps steps).2 := by
  induction steps generalizing p q with
  | nil => exact ⟨rfl, begins⟩
  | cons step rest ih =>
      have stepped : (p.step step).1 = (q.step step).1 ∧ related (p.step step).2 (q.step step).2 := by
        cases step with
        | create =>
            obtain ⟨same, after⟩ := create p q begins
            exact ⟨congrArg Pool.Response.created same, after⟩
        | drop slot =>
            obtain ⟨same, after⟩ := drop slot p q begins
            exact ⟨congrArg Pool.Response.dropped same, after⟩
        | perform slot command =>
            obtain ⟨same, after⟩ := perform slot command p q begins
            exact ⟨congrArg Pool.Response.performed same, after⟩
      obtain ⟨responses, after⟩ := ih stepped.2
      exact ⟨List.cons_eq_cons.mpr ⟨stepped.1, responses⟩, after⟩

end SatBridge
