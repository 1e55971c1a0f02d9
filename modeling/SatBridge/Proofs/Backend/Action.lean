import SatBridge.Backend.Pool

/-!
# Runs of actions

An action on a handle always gives back a context, with an error as with a value. `Keeps`,
`Reaches` and `Takes` say what a run leaves behind when it starts in a context of some kind: at all,
when it succeeds, and when it may be refused. Their rules follow the way in which actions are put
together. Main statement: what the primitive operations of a backend keep is kept by every command.
-/

set_option autoImplicit false

namespace SatBridge

namespace SolverM

variable {S ε H W α β : Type}

section Run

@[simp] theorem run_pure (value : α) (s : S) :
    (pure value : ExceptT ε (StateM S) α).run s = (.ok value, s) := rfl

@[simp] theorem run_throw (error : ε) (s : S) :
    (throw error : ExceptT ε (StateM S) α).run s = (.error error, s) := rfl

@[simp] theorem run_get (s : S) : (get : ExceptT ε (StateM S) S).run s = (.ok s, s) := rfl

@[simp] theorem run_set (s t : S) :
    (set t : ExceptT ε (StateM S) PUnit).run s = (.ok ⟨⟩, t) := rfl

@[simp] theorem run_modify (change : S → S) (s : S) :
    (modify change : ExceptT ε (StateM S) PUnit).run s = (.ok ⟨⟩, change s) := rfl

@[simp] theorem run_modifyGet (step : S → α × S) (s : S) :
    (modifyGet step : ExceptT ε (StateM S) α).run s = (.ok (step s).1, (step s).2) := rfl

@[simp] theorem run_lift (result : Except ε α) (s : S) :
    (liftM result : ExceptT ε (StateM S) α).run s = (result, s) := by
  cases result <;> rfl

@[simp] theorem run_record (event : LogEvent) (c : Context H W) :
    (Solver.record event : SolverM H W Unit).run c =
      (.ok (), { c with log := c.log.push event }) := rfl

/-- An error ends a sequence of actions; the state stays as the failed action left it. -/
theorem run_bind (action : ExceptT ε (StateM S) α)
    (next : α → ExceptT ε (StateM S) β) (s : S) :
    (action >>= next).run s =
      match action.run s with
      | (.ok value, t) => (next value).run t
      | (.error error, t) => (.error error, t) := by
  simp only [ExceptT.run, bind, ExceptT.bind, ExceptT.mk, StateT.bind, ExceptT.bindCont]
  rcases action s with ⟨_ | _, _⟩ <;> rfl

theorem run_bind_ok {action : ExceptT ε (StateM S) α} {s t : S} {value : α}
    (ran : action.run s = (.ok value, t)) (next : α → ExceptT ε (StateM S) β) :
    (action >>= next).run s = (next value).run t := by
  rw [run_bind, ran]

theorem run_bind_error {action : ExceptT ε (StateM S) α} {s t : S} {error : ε}
    (ran : action.run s = (.error error, t)) (next : α → ExceptT ε (StateM S) β) :
    (action >>= next).run s = (.error error, t) := by
  rw [run_bind, ran]

theorem run_map (change : α → β) (action : ExceptT ε (StateM S) α) (s : S) :
    (change <$> action).run s = ((action.run s).1.map change, (action.run s).2) := by
  rw [map_eq_pure_bind, run_bind]
  rcases action.run s with ⟨_ | _, _⟩ <;> rfl

theorem run_tryCatch (action : ExceptT ε (StateM S) α)
    (handler : ε → ExceptT ε (StateM S) α) (s : S) :
    (tryCatch action handler).run s =
      match action.run s with
      | (.ok value, t) => (.ok value, t)
      | (.error error, t) => (handler error).run t := by
  change (ExceptT.tryCatch action handler).run s = _
  simp only [ExceptT.tryCatch, ExceptT.run, ExceptT.mk, bind, StateT.bind]
  rcases action s with ⟨_ | _, _⟩ <;> rfl

theorem run_tolerate_ok [Backend H W] {action : SolverM H W Unit} {c d : Context H W}
    (ran : action.run c = (.ok (), d)) : (Settings.tolerate action).run c = (.ok (), d) := by
  rw [Settings.tolerate, run_tryCatch, ran]

theorem run_tolerate_unsupported [Backend H W] {action : SolverM H W Unit} {c d : Context H W}
    {feature : Feature} (ran : action.run c = (.error (.unsupported feature), d)) :
    (Settings.tolerate action).run c =
      (.ok (), { d with log := d.log.push (.settingIgnored (Backend.name H) feature) }) := by
  rw [Settings.tolerate, run_tryCatch, ran]
  rfl

theorem run_of_result {action : ExceptT ε (StateM S) α} {s : S} {result : Except ε α}
    (answered : (action.run s).1 = result) : action.run s = (result, (action.run s).2) :=
  Prod.ext answered rfl

/-- The value of a sequence that succeeds comes from two runs that succeed, one after the other. -/
theorem run_bind_eq_ok {action : ExceptT ε (StateM S) α}
    {next : α → ExceptT ε (StateM S) β} {s t : S} {result : β}
    (ran : (action >>= next).run s = (.ok result, t)) :
    ∃ value middle, action.run s = (.ok value, middle) ∧
      (next value).run middle = (.ok result, t) := by
  rw [run_bind] at ran
  rcases first : action.run s with ⟨error | value, middle⟩
  · rw [first] at ran
    cases ran
  · rw [first] at ran
    exact ⟨value, middle, rfl, ran⟩

end Run

/-- No run leaves the contexts of a kind, however it ends. -/
def Keeps (kept : Context H W → Prop) (action : SolverM H W α) : Prop :=
  ∀ c, kept c → kept (action.run c).2

/-- Every run that starts in a context of one kind succeeds, and ends in a context of another. -/
def Reaches (before after : Context H W → Prop) (action : SolverM H W α) : Prop :=
  ∀ c, before c → ∃ value d, action.run c = (.ok value, d) ∧ after d

/-- No run that starts in a context of a kind fails, or leaves the contexts of that kind. -/
abbrev Passes (kept : Context H W → Prop) (action : SolverM H W α) : Prop :=
  Reaches kept kept action

/-- Every run that starts in a context of one kind is refused with an error, or if there is none,
succeeds and ends in a context of another kind. -/
def Takes (refusal : Option Error) (before after : Context H W → Prop)
    (action : SolverM H W α) : Prop :=
  match refusal with
  | none => Reaches before after action
  | some error => ∀ c, before c → (action.run c).1 = .error error

section Keeps

variable {kept : Context H W → Prop}

theorem Keeps.after {action : SolverM H W α} (keeps : Keeps kept action) {c d : Context H W}
    {result : Except Error α} (ran : action.run c = (result, d)) (holds : kept c) : kept d := by
  have stays := keeps c holds
  rwa [ran] at stays

theorem keeps_pure (value : α) : Keeps kept (pure value : SolverM H W α) :=
  fun _ holds => holds

theorem keeps_throw (error : Error) : Keeps kept (throw error : SolverM H W α) :=
  fun _ holds => holds

theorem keeps_lift (result : Except Error α) : Keeps kept (liftM result : SolverM H W α) := by
  intro c holds
  rw [run_lift]
  exact holds

theorem keeps_bind {action : SolverM H W α} {next : α → SolverM H W β}
    (first : Keeps kept action) (rest : ∀ value, Keeps kept (next value)) :
    Keeps kept (action >>= next) := by
  intro c holds
  have middle := first c holds
  rw [run_bind]
  rcases ran : action.run c with ⟨error | value, d⟩
  · rwa [ran] at middle
  · rw [ran] at middle
    exact rest value d middle

theorem keeps_map {action : SolverM H W α} (change : α → β) (first : Keeps kept action) :
    Keeps kept (change <$> action) := by
  intro c holds
  rw [run_map]
  exact first c holds

theorem keeps_tryCatch {action : SolverM H W α} {handler : Error → SolverM H W α}
    (first : Keeps kept action) (rest : ∀ error, Keeps kept (handler error)) :
    Keeps kept (tryCatch action handler) := by
  intro c holds
  have middle := first c holds
  rw [run_tryCatch]
  rcases ran : action.run c with ⟨error | value, d⟩
  · rw [ran] at middle
    exact rest error d middle
  · rwa [ran] at middle

theorem keeps_forM {items : List β} {action : β → SolverM H W PUnit}
    (each : ∀ item ∈ items, Keeps kept (action item)) : Keeps kept (items.forM action) := by
  induction items with
  | nil => exact keeps_pure _
  | cons item rest ih =>
      have tail := ih fun other member => each other (List.mem_cons_of_mem _ member)
      exact keeps_bind (each item List.mem_cons_self) fun _ => tail

theorem keeps_optionForM {item : Option β} {action : β → SolverM H W PUnit}
    (each : ∀ value, Keeps kept (action value)) : Keeps kept (item.forM action) := by
  cases item with
  | none => exact keeps_pure _
  | some value => exact each value

end Keeps

section Reaches

variable {before middle after kept : Context H W → Prop}

theorem passes_pure (value : α) : Passes kept (pure value : SolverM H W α) :=
  fun c holds => ⟨value, c, rfl, holds⟩

theorem reaches_bind {action : SolverM H W α} {next : α → SolverM H W β}
    (first : Reaches before middle action) (rest : ∀ value, Reaches middle after (next value)) :
    Reaches before after (action >>= next) := by
  intro c holds
  obtain ⟨value, between, ran, arrived⟩ := first c holds
  rw [run_bind_ok ran]
  exact rest value between arrived

theorem reaches_keeping {action : SolverM H W α} (reaches : Reaches before after action)
    (keeps : Keeps kept action) :
    Reaches (fun c => before c ∧ kept c) (fun c => after c ∧ kept c) action := by
  intro c both
  obtain ⟨starts, holds⟩ := both
  obtain ⟨value, d, ran, ends⟩ := reaches c starts
  exact ⟨value, d, ran, ends, keeps.after ran holds⟩

theorem passes_forM {items : List β} {action : β → SolverM H W PUnit}
    (each : ∀ item ∈ items, Passes kept (action item)) : Passes kept (items.forM action) := by
  induction items with
  | nil => exact passes_pure _
  | cons item rest ih =>
      have tail := ih fun other member => each other (List.mem_cons_of_mem _ member)
      exact reaches_bind (each item List.mem_cons_self) fun _ => tail

theorem passes_optionForM {item : Option β} {action : β → SolverM H W PUnit}
    (each : ∀ value, Passes kept (action value)) : Passes kept (item.forM action) := by
  cases item with
  | none => exact passes_pure _
  | some value => exact each value

/-- One item that makes the difference is enough. -/
theorem reaches_forM {items : List β} {action : β → SolverM H W PUnit}
    (early : ∀ item ∈ items, Passes before (action item))
    (late : ∀ item ∈ items, Passes after (action item))
    (turn : ∃ item ∈ items, Reaches before after (action item)) :
    Reaches before after (items.forM action) := by
  induction items with
  | nil =>
      obtain ⟨_, member, _⟩ := turn
      cases member
  | cons item rest ih =>
      have lateRest : ∀ other ∈ rest, Passes after (action other) := fun other member =>
        late other (List.mem_cons_of_mem _ member)
      obtain ⟨other, member, turns⟩ := turn
      rcases List.mem_cons.mp member with rfl | later
      · exact reaches_bind turns fun _ => passes_forM lateRest
      · have tail := ih (fun other member => early other (List.mem_cons_of_mem _ member)) lateRest
          ⟨other, later, turns⟩
        exact reaches_bind (early item List.mem_cons_self) fun _ => tail

theorem passes_tolerate [Backend H W] {action : SolverM H W Unit}
    (recorded : ∀ c event, kept c → kept { c with log := c.log.push event })
    (each : ∀ c, kept c → ∃ d, (action.run c = (.ok (), d) ∨
      ∃ feature, action.run c = (.error (.unsupported feature), d)) ∧ kept d) :
    Passes kept (Settings.tolerate action) := by
  intro c holds
  obtain ⟨d, ran | ⟨feature, ran⟩, after⟩ := each c holds
  · exact ⟨(), d, run_tolerate_ok ran, after⟩
  · exact ⟨(), _, run_tolerate_unsupported ran, recorded d _ after⟩

theorem passes_apply [Backend H W] {settings : Settings}
    (options : ∀ setting ∈ settings.options,
      Passes kept (Settings.applyOption setting.1 setting.2 : SolverM H W Unit))
    (conflictLimit : ∀ limit,
      Passes kept (Settings.tolerate (Backend.setConflictLimit limit) : SolverM H W Unit))
    (decisionLimit : ∀ limit,
      Passes kept (Settings.tolerate (Backend.setDecisionLimit limit) : SolverM H W Unit)) :
    Passes kept (settings.apply : SolverM H W Unit) := by
  refine reaches_bind (passes_forM options) fun _ => ?_
  exact reaches_bind (passes_optionForM conflictLimit) fun _ => passes_optionForM decisionLimit

/-- A backend without options and limits takes all settings and stays as it is. -/
theorem passes_apply_unsupported [Backend H W]
    (recorded : ∀ c event, kept c → kept { c with log := c.log.push event })
    (setOption : ∀ name value (c : Context H W),
      (Backend.setOption name value).run c = (.error (.unsupported .option), c))
    (setConflictLimit : ∀ limit (c : Context H W),
      (Backend.setConflictLimit limit).run c = (.error (.unsupported .conflictLimit), c))
    (setDecisionLimit : ∀ limit (c : Context H W),
      (Backend.setDecisionLimit limit).run c = (.error (.unsupported .decisionLimit), c))
    (settings : Settings) : Passes kept (settings.apply : SolverM H W Unit) := by
  refine passes_apply (fun setting _ => ?_) (fun limit => ?_) fun limit => ?_
  · exact passes_tolerate recorded fun c holds =>
      ⟨c, .inr ⟨.option, run_bind_error (setOption _ _ c) _⟩, holds⟩
  · exact passes_tolerate recorded fun c holds =>
      ⟨c, .inr ⟨.conflictLimit, setConflictLimit limit c⟩, holds⟩
  · exact passes_tolerate recorded fun c holds =>
      ⟨c, .inr ⟨.decisionLimit, setDecisionLimit limit c⟩, holds⟩

end Reaches

section Takes

variable {before middle after : Context H W → Prop}

theorem takes_bind {action : SolverM H W α} {next : α → SolverM H W β} {first second : Option Error}
    (takes : Takes first before middle action)
    (rest : ∀ value, Takes second middle after (next value)) :
    Takes (first.or second) before after (action >>= next) := by
  cases first with
  | some error =>
      intro c holds
      rw [run_bind_error (run_of_result (takes c holds))]
  | none =>
      cases second with
      | none => exact reaches_bind takes rest
      | some error =>
          intro c holds
          obtain ⟨value, between, ran, arrived⟩ := takes c holds
          rw [run_bind_ok ran]
          exact rest value between arrived

/-- A loop takes its items up to the first one that is refused. -/
theorem takes_forM {items : List β} {action : β → SolverM H W PUnit} {refusal : β → Option Error}
    {kept : List β → Context H W → Prop}
    (each : ∀ item ∈ items, ∀ taken,
      Takes (refusal item) (kept taken) (kept (taken ++ [item])) (action item))
    (taken : List β) :
    Takes (items.findSome? refusal) (kept taken) (kept (taken ++ items)) (items.forM action) := by
  induction items generalizing taken with
  | nil =>
      rw [List.append_nil]
      exact passes_pure _
  | cons item rest ih =>
      have tail := ih (fun other member => each other (List.mem_cons_of_mem _ member))
        (taken ++ [item])
      rw [List.append_assoc, List.singleton_append] at tail
      have split : (item :: rest).findSome? refusal =
          (refusal item).or (rest.findSome? refusal) := by
        rw [List.findSome?_cons]
        cases refusal item <;> rfl
      rw [split]
      exact takes_bind (each item List.mem_cons_self taken) fun _ => tail

theorem reaches_forM_taking {items : List β} {action : β → SolverM H W PUnit}
    {kept : List β → Context H W → Prop}
    (each : ∀ item ∈ items, ∀ taken, Reaches (kept taken) (kept (taken ++ [item])) (action item)) :
    Reaches (kept []) (kept items) (items.forM action) := by
  have takes : Takes (items.findSome? fun _ => none) (kept []) (kept ([] ++ items))
      (items.forM action) := takes_forM each []
  rwa [List.findSome?_eq_none_iff.mpr fun _ _ => rfl, List.nil_append] at takes

end Takes

end SolverM

/-- What the operations of a backend, and the notes in the log, do not change. -/
structure Backend.Keeps {H W : Type} [Backend H W] (kept : Context H W → Prop) : Prop where
  record : ∀ event, SolverM.Keeps kept (Solver.record event)
  add : ∀ value, SolverM.Keeps kept (Backend.add value)
  solve : SolverM.Keeps kept Backend.solve
  value : ∀ var, SolverM.Keeps kept (Backend.value var)
  setOption : ∀ name value, SolverM.Keeps kept (Backend.setOption name value)
  setConflictLimit : ∀ limit, SolverM.Keeps kept (Backend.setConflictLimit limit)
  setDecisionLimit : ∀ limit, SolverM.Keeps kept (Backend.setDecisionLimit limit)

/-- What the operations of a backend do not change unless clauses are added or decided. -/
structure Backend.KeepsBeside {H W : Type} [Backend H W] (kept : Context H W → Prop) : Prop where
  record : ∀ event, SolverM.Keeps kept (Solver.record event)
  value : ∀ var, SolverM.Keeps kept (Backend.value var)
  setOption : ∀ name value, SolverM.Keeps kept (Backend.setOption name value)
  setConflictLimit : ∀ limit, SolverM.Keeps kept (Backend.setConflictLimit limit)
  setDecisionLimit : ∀ limit, SolverM.Keeps kept (Backend.setDecisionLimit limit)

namespace Backend.KeepsBeside

open SolverM

variable {H W : Type} [Backend H W] {kept : Context H W → Prop}

theorem readValues (primitives : Backend.KeepsBeside kept) (count : Nat) (model : Assignment) :
    SolverM.Keeps kept (Solver.readValues count model) := by
  induction count generalizing model with
  | zero => exact keeps_pure _
  | succ count ih => exact keeps_bind (primitives.value _) fun value => ih _

theorem tolerate (primitives : Backend.KeepsBeside kept) {action : SolverM H W Unit}
    (first : SolverM.Keeps kept action) : SolverM.Keeps kept (Settings.tolerate action) := by
  refine keeps_tryCatch first fun error => ?_
  cases error with
  | unsupported feature => exact primitives.record _
  | _ => exact keeps_throw _

theorem applyOption (primitives : Backend.KeepsBeside kept) (name : String) (value : Int) :
    SolverM.Keeps kept (Settings.applyOption name value) :=
  primitives.tolerate (keeps_bind (primitives.setOption name value) fun _ => keeps_pure _)

theorem apply (primitives : Backend.KeepsBeside kept) (settings : Settings) :
    SolverM.Keeps kept settings.apply := by
  refine keeps_bind (keeps_forM fun setting _ => primitives.applyOption _ _) fun _ => ?_
  refine keeps_bind (keeps_optionForM fun limit => ?_) fun _ => keeps_optionForM fun limit => ?_
  · exact primitives.tolerate (primitives.setConflictLimit limit)
  · exact primitives.tolerate (primitives.setDecisionLimit limit)

theorem fetchModel (primitives : Backend.KeepsBeside kept) (f : Formula) (settings : Settings)
    (status : Status) : SolverM.Keeps kept (Solver.fetchModel f settings status) := by
  unfold Solver.fetchModel
  split
  · exact keeps_map _ (primitives.readValues _ _)
  · exact keeps_pure _

theorem verifyModel (primitives : Backend.KeepsBeside kept) (f : Formula) (settings : Settings)
    (model : Option Assignment) : SolverM.Keeps kept (Solver.verifyModel f settings model) := by
  unfold Solver.verifyModel
  split
  · refine keeps_optionForM fun model => ?_
    unfold Solver.checkModel
    split
    · exact keeps_throw _
    · exact primitives.record _
  · exact keeps_pure _

theorem conclude (primitives : Backend.KeepsBeside kept) (f : Formula) (settings : Settings)
    (status : Status) : SolverM.Keeps kept (Solver.conclude f settings status) := by
  refine keeps_bind (primitives.fetchModel f settings status) fun model => ?_
  refine keeps_bind (primitives.verifyModel f settings model) fun _ => ?_
  exact keeps_bind (fun _ holds => holds) fun _ => keeps_pure _

end Backend.KeepsBeside

namespace Backend.Keeps

open SolverM

variable {H W : Type} [Backend H W] {kept : Context H W → Prop}

theorem beside (primitives : Backend.Keeps kept) : Backend.KeepsBeside kept where
  record := primitives.record
  value := primitives.value
  setOption := primitives.setOption
  setConflictLimit := primitives.setConflictLimit
  setDecisionLimit := primitives.setDecisionLimit

theorem addClause (primitives : Backend.Keeps kept) (c : Clause) :
    SolverM.Keeps kept (Solver.addClause c) := by
  refine keeps_bind (keeps_forM fun l _ => ?_) fun _ => primitives.add 0
  exact keeps_bind (keeps_lift _) primitives.add

theorem feed (primitives : Backend.Keeps kept) (f : Formula) :
    SolverM.Keeps kept (Solver.feed f) :=
  keeps_forM fun c _ => primitives.addClause c

theorem apply (primitives : Backend.Keeps kept) (settings : Settings) :
    SolverM.Keeps kept settings.apply :=
  primitives.beside.apply settings

theorem conclude (primitives : Backend.Keeps kept) (f : Formula) (settings : Settings)
    (status : Status) : SolverM.Keeps kept (Solver.conclude f settings status) :=
  primitives.beside.conclude f settings status

theorem solveFormula (primitives : Backend.Keeps kept) (f : Formula) (settings : Settings) :
    SolverM.Keeps kept (Solver.solveFormula f settings) := by
  refine keeps_bind (primitives.apply settings) fun _ => ?_
  refine keeps_bind (primitives.feed f) fun _ => ?_
  refine keeps_bind (primitives.record _) fun _ => ?_
  exact keeps_bind primitives.solve fun status => primitives.conclude f settings status

theorem perform (primitives : Backend.Keeps kept) (command : Command) :
    SolverM.Keeps kept command.perform := by
  cases command with
  | add literal => exact keeps_bind (primitives.add literal) fun _ => keeps_pure _
  | addClause clause => exact keeps_bind (primitives.addClause clause) fun _ => keeps_pure _
  | feed formula => exact keeps_bind (primitives.feed formula) fun _ => keeps_pure _
  | solve => exact keeps_bind primitives.solve fun _ => keeps_pure _
  | value var => exact keeps_bind (primitives.value var) fun _ => keeps_pure _
  | model numVars =>
      exact keeps_bind (primitives.beside.readValues numVars _) fun _ => keeps_pure _
  | setOption name setting =>
      exact keeps_bind (primitives.setOption name setting) fun _ => keeps_pure _
  | setConflictLimit limit =>
      exact keeps_bind (primitives.setConflictLimit limit) fun _ => keeps_pure _
  | setDecisionLimit limit =>
      exact keeps_bind (primitives.setDecisionLimit limit) fun _ => keeps_pure _
  | configure settings => exact keeps_bind (primitives.apply settings) fun _ => keeps_pure _
  | solveFormula formula settings =>
      exact keeps_bind (primitives.solveFormula formula settings) fun _ => keeps_pure _

end Backend.Keeps

end SatBridge
