import TransitionEngine.Proofs.Controller.Determinism
import TransitionEngine.Proofs.Starting

/-!
# No state that breaks an invariant

With the hook that refuses every violation, a call that succeeds and commits a state has checked all
invariants on that very state. A reset checks nothing, but it ends in the state that the model was
built with, which was checked when the controller was. So as long as no call has failed, every
invariant holds on every entry of the history.
-/

namespace TransitionEngine

variable {Outside α β : Type}

/-! ### What a success ensures -/

namespace Outcome

/-- If the operation succeeds, it leaves such a controller. -/
def Ensures (post : Controller Outside → Prop) (outcome : Outcome Outside α) : Prop :=
  ∀ value, outcome.result = .ok value → post outcome.controller

variable {outcome : Outcome Outside α} {middle post : Controller Outside → Prop}

theorem Ensures.of_controller (hpost : post outcome.controller) : outcome.Ensures post :=
  fun _ _ => hpost

theorem Ensures.map (hensures : outcome.Ensures post) (f : α → β) :
    (outcome.map f).Ensures post := by
  intro value hvalue
  obtain ⟨before, hbefore, -⟩ := Success.map_eq_ok_iff.1 hvalue
  exact hensures before hbefore

theorem Ensures.andThen {next : α → Controller Outside → Outcome Outside β}
    (hfirst : outcome.Ensures middle)
    (hnext : ∀ value reached, middle reached → (next value reached).Ensures post) :
    (outcome.andThen next).Ensures post := by
  intro result hresult
  unfold Outcome.andThen at hresult ⊢
  split at hresult
  · cases hresult
  · rename_i value hvalue
    exact hnext value _ (hfirst value hvalue) result hresult

end Outcome

/-! ### States that pass every check -/

/-- Every check succeeds on the bank. -/
def Bank.Satisfies (invariants : List (InvariantDeclaration Outside)) (bank : Bank) : Prop :=
  ∀ declared ∈ invariants, ∀ outside, ((declared.check outside).run bank ∅).outcome = .ok ()

theorem Bank.Satisfies.of_agree {invariants : List (InvariantDeclaration Outside)}
    {left right : Bank} (hsatisfies : left.Satisfies invariants)
    (hchecks : ∀ declared ∈ invariants, Query.IsDeterministic declared.check)
    (hagree : left.Agree right) : right.Satisfies invariants := by
  intro declared hmem outside
  rw [← hchecks declared hmem outside outside left right hagree]
  exact hsatisfies declared hmem outside

/-- The state was saved from conforming values on which every check succeeds. -/
def SavedState.IsGuarded (model : Model Outside) (state : SavedState) : Prop :=
  ∃ bank : Bank, bank.Fits model.bank.declarations ∧ bank.Satisfies model.invariants ∧
    bank.save = state

/-- Wherever a guarded state is restored, every check succeeds. -/
theorem SavedState.IsGuarded.exists_restore {model : Model Outside} {state : SavedState}
    (hguarded : state.IsGuarded model)
    (hchecks : ∀ declared ∈ model.invariants, Query.IsDeterministic declared.check)
    (hdistinct : model.bank.HasDistinctFields) {before : Bank}
    (hdeclared : before.declarations = model.bank.declarations) :
    ∃ bank, before.restore state = .ok bank ∧ bank.Satisfies model.invariants := by
  obtain ⟨saved, ⟨hsaved, hconforms⟩, hsatisfies, rfl⟩ := hguarded
  obtain ⟨bank, hrestore, hsave⟩ :=
    Bank.exists_restore_save hconforms (hdeclared.trans hsaved.symm)
  have hconforms' : bank.Conforms := by
    refine Bank.conforms_of_restore (fun declared hmem => hdistinct declared ?_) hrestore
    rwa [hdeclared] at hmem
  have hsame : saved.declarations = bank.declarations :=
    (hsaved.trans hdeclared.symm).trans (Bank.declarations_restore hrestore).symm
  have hagree : saved.Agree bank := Bank.agree_of_save_eq hsame hconforms hconforms' hsave.symm
  exact ⟨bank, hrestore, hsatisfies.of_agree hchecks hagree⟩

/-- The call succeeds, and the code that it runs leaves conforming values. -/
structure Call.Succeeds (call : Call Outside) (controller : Controller Outside)
    (outside : Outside) : Prop where
  conforming : call.SucceedsConforming controller outside
  succeeds : ∃ reply, (call.outcome controller outside).result = .ok reply

namespace Controller

variable {setup : ControllerSetup Outside} {model : Model Outside}
  {controller : Controller Outside} {outside : Outside}

/-- Every entry of the history is guarded, and the last check found the invariants to hold. -/
structure IsGuarded (setup : ControllerSetup Outside) (model : Model Outside)
    (controller : Controller Outside) : Prop extends controller.IsOf setup model where
  holds : controller.invariantsHold = true
  guarded : ∀ snapshot ∈ controller.history.entries, snapshot.state.IsGuarded model

namespace IsGuarded

variable (hguarded : controller.IsGuarded setup model)

include hguarded

theorem withBank (bank : Bank) : (controller.withBank bank).IsGuarded setup model :=
  { hguarded with toIsOf := { hguarded.toIsOf with } }

theorem sleepRule (id : RuleId) (readset : NameSet) :
    (controller.sleepRule id readset).IsGuarded setup model :=
  { hguarded with toIsOf := hguarded.toIsOf.sleepRule id readset }

theorem reportChanges (outside : Outside) (changes : Changeset) :
    (controller.reportChanges outside changes).controller.IsGuarded setup model :=
  { hguarded with toIsOf := hguarded.toIsOf.reportChanges outside changes }

theorem truncate (index : Nat) :
    IsGuarded setup model { controller with history := controller.history.truncate index } :=
  { hguarded with
    toIsOf := { hguarded.toIsOf with }
    guarded := fun snapshot hmem =>
      hguarded.guarded snapshot (History.mem_entries_of_mem_truncate hmem) }

theorem restoreState (outside : Outside) (state : SavedState) :
    (controller.restoreState outside state).controller.IsGuarded setup model := by
  rw [Controller.restoreState]
  split
  · exact hguarded
  · exact (hguarded.withBank _).reportChanges outside .everything

theorem wouldChangeState (outside : Outside) (mutator : Effect Unit) :
    (controller.wouldChangeState outside mutator).controller.IsGuarded setup model := by
  have hrolledBack (bank : Bank) : ((controller.withBank bank).restoreState outside
      controller.current.state).controller.IsGuarded setup model :=
    (hguarded.withBank bank).restoreState outside _
  rw [Controller.wouldChangeState]
  dsimp only
  split
  · exact hguarded.withBank _
  · split <;> exact hrolledBack _

theorem resetToStartingState
    (hstarting : (controller.runInit outside).outcome = .ok () →
      (controller.runInit outside).bank.save.IsGuarded model) :
    (controller.resetToStartingState outside).Ensures (IsGuarded setup model) := by
  rw [Controller.resetToStartingState, reset_model]
  cases houtcome : (controller.runInit outside).outcome with
  | error error => exact .of_controller hguarded
  | ok _ =>
      have hrestarted : IsGuarded setup model
          { controller.withBank (controller.runInit outside).bank with
            history := .start "Reset" (controller.runInit outside).bank.save } :=
        { hguarded with
          toIsOf := { hguarded.toIsOf with }
          guarded := fun snapshot hmem => by
            rw [List.mem_singleton.1 hmem]
            exact hstarting houtcome }
      have hreported := hrestarted.reportChanges outside .everything
      exact (Outcome.Ensures.of_controller hreported).andThen fun _ _ hguarded =>
        .of_controller hguarded

end IsGuarded

/-- A check that succeeds under the hook that refuses every violation has found all invariants to
hold. -/
theorem satisfies_of_checkInvariants {invariants : List (InvariantDeclaration Outside)}
    (hhook : controller.errorHook = .refuse)
    (hsame : controller.invariants.map Invariant.unread = invariants.map Invariant.ofDeclaration)
    (hchecks : ∀ declared ∈ invariants, Query.IsDeterministic declared.check) {held : Bool}
    (hresult : (controller.checkInvariants outside).result = .ok held) :
    (controller.checkInvariants outside).controller.invariantsHold = true ∧
      controller.bank.Satisfies invariants := by
  unfold checkInvariants at hresult ⊢
  split at hresult
  · rename_i hcheck
    refine ⟨rfl, fun declared hmem outside' => ?_⟩
    rw [hchecks declared hmem outside' outside _ _ (.refl controller.bank)]
    exact Invariant.outcome_of_declared_of_held hsame (congrArg Prod.fst hcheck) declared hmem
  · cases hresult
  · rw [hhook] at hresult
    cases hresult

section Ensures

variable (hhook : setup.errorHook = .refuse)
  (hchecks : ∀ declared ∈ model.invariants, Query.IsDeterministic declared.check)

include hhook hchecks

theorem ensures_checkInvariants (hof : controller.IsOf setup model)
    (hguarded : controller.bank.Satisfies model.invariants →
      ∀ snapshot ∈ controller.history.entries, snapshot.state.IsGuarded model) :
    (controller.checkInvariants outside).Ensures (IsGuarded setup model) := by
  intro held hresult
  obtain ⟨hholds, hsatisfies⟩ := satisfies_of_checkInvariants (hof.errorHook.trans hhook)
    hof.invariants hchecks hresult
  have hhistory : (controller.checkInvariants outside).controller.history = controller.history :=
    congrArg Core.history (core_checkInvariants controller outside)
  exact ⟨hof.checkInvariants outside, hholds, hhistory ▸ hguarded hsatisfies⟩

variable (hguarded : controller.IsGuarded setup model)

include hguarded

/-- What is committed was checked. -/
theorem ensures_commit (hfits : controller.bank.Fits model.bank.declarations) (description : String)
    (changes : Changeset) :
    (controller.commit outside description changes).Ensures (IsGuarded setup model) := by
  have hpushed (message : String) : IsOf setup model
      { controller with history := controller.history.push message controller.saveState } :=
    { hguarded.toIsOf with }
  -- The report makes families anew, but leaves the values as they were pushed.
  have hreported (message : String) : Outcome.Ensures
      (fun reached => reached.IsOf setup model ∧ reached.bank = controller.bank ∧
        reached.history = controller.history.push message controller.saveState)
      (Controller.reportChanges
        { controller with history := controller.history.push message controller.saveState }
        outside changes) :=
    .of_controller ⟨(hpushed message).reportChanges outside changes, rfl, rfl⟩
  have hchecked (message : String) (reached : Controller Outside)
      (hreached : reached.IsOf setup model ∧ reached.bank = controller.bank ∧
        reached.history = controller.history.push message controller.saveState) :
      (reached.checkInvariants outside).Ensures (IsGuarded setup model) := by
    obtain ⟨hof, hbank, hhistory⟩ := hreached
    refine ensures_checkInvariants hhook hchecks hof fun hsatisfies snapshot hmem => ?_
    rw [hhistory, History.entries_push, List.mem_append, List.mem_singleton] at hmem
    rcases hmem with hmem | rfl
    · exact hguarded.guarded snapshot hmem
    · exact ⟨controller.bank, hfits, hbank ▸ hsatisfies, rfl⟩
  have hviewed (checked : Controller Outside) (hguarded : checked.IsGuarded setup model) :
      checked.updateViews.Ensures (IsGuarded setup model) := .of_controller hguarded
  exact (hreported _).andThen fun _ reached hreached =>
    (hchecked _ reached hreached).andThen fun _ checked hguarded =>
      (hviewed checked hguarded).andThen fun _ _ hguarded => .of_controller hguarded

theorem ensures_settle {run : Run (Option String)}
    (hfits : ∀ description, run.outcome = .ok description → run.bank.Fits model.bank.declarations) :
    (controller.settle outside run).Ensures (IsGuarded setup model) := by
  intro changes hresult
  obtain ⟨⟨description, houtcome⟩, -⟩ := changes_of_settle hresult
  have hrun : run.bank.Fits model.bank.declarations := hfits description houtcome
  cases hsame : (Changeset.between controller.current.state run.bank.save).isEmpty with
  | true =>
      rw [settle_of_unchanged houtcome hsame]
      exact hguarded.withBank run.bank
  | false =>
      rw [settle_of_changed houtcome hsame] at hresult ⊢
      exact ensures_commit hhook hchecks (hguarded.withBank run.bank) hrun _ _ changes hresult

theorem ensures_fire {id : RuleId}
    (hfits : ∀ run, controller.runRule? outside id = some run → run.outcome = .ok () →
      run.bank.Fits model.bank.declarations) :
    (controller.fire outside id).Ensures (IsGuarded setup model) := by
  cases hrule : controller.rule? id with
  | none =>
      rw [fire, rule, hrule]
      exact .of_controller hguarded
  | some rule =>
      rw [fire_eq hrule rfl]
      refine (ensures_settle hhook hchecks hguarded fun description houtcome => ?_).andThen ?_
      · obtain ⟨_, hsucceeded, -⟩ := Success.map_eq_ok_iff.1 houtcome
        exact hfits _ (by rw [runRule?, hrule, Option.map_some]) hsucceeded
      · intro changes reached hguarded
        split
        · exact .of_controller (hguarded.sleepRule ..)
        · exact .of_controller hguarded

theorem ensures_restore (index : Nat) :
    (controller.restore outside index).Ensures (IsGuarded setup model) := by
  have hrestored := (hguarded.truncate index).restoreState outside
    (controller.history.truncate index).current.state
  rw [restore]
  split
  · refine (Outcome.Ensures.of_controller hrestored).andThen fun _ reached hguarded => ?_
    exact ensures_checkInvariants hhook hchecks hguarded.toIsOf fun _ => hguarded.guarded
  · exact .of_controller hguarded

/-- Every call that succeeds keeps the history guarded. -/
theorem ensures_outcome {call : Call Outside}
    (hdeclared : controller.bank.declarations = model.bank.declarations)
    (hstarting : (controller.runInit outside).bank.Conforms →
      (controller.runInit outside).bank.save.IsGuarded model)
    (hconforming : call.SucceedsConforming controller outside) :
    (call.outcome controller outside).Ensures (IsGuarded setup model) := by
  have hfits {run : Run Unit} (hattempt : call.attempt? controller outside = some run)
      (hsucceeded : run.outcome = .ok ()) : run.bank.Fits model.bank.declarations :=
    ⟨(declarations_of_attempt? hattempt).trans hdeclared, hconforming.2 run hattempt hsucceeded⟩
  cases call with
  | fire id =>
      exact (ensures_fire hhook hchecks hguarded fun run hattempt => hfits hattempt).map _
  | fireByName name =>
      rw [Call.outcome, fireByName]
      cases hname : controller.ruleId? name with
      | none => exact .of_controller hguarded
      | some id =>
          refine (ensures_fire hhook hchecks hguarded fun run hattempt => hfits ?_).map _
          rw [Call.attempt?, hname, Option.bind_some, hattempt]
  | tryChangeState mutator =>
      refine (ensures_settle hhook hchecks hguarded fun description houtcome => ?_).map _
      have hsucceeded : (mutator.run controller.bank ∅).outcome.map (fun _ => ()) = .ok () := by
        rw [houtcome]
        rfl
      exact hfits rfl hsucceeded
  | wouldChangeState mutator => exact .of_controller (hguarded.wouldChangeState outside mutator)
  | wouldFire id =>
      rw [Call.outcome, wouldFire]
      split
      · exact .of_controller hguarded
      · exact .of_controller (hguarded.wouldChangeState outside _)
  | restore index => exact (ensures_restore hhook hchecks hguarded index).map _
  | restoreState state => exact absurd rfl (hconforming.1 state)
  | resetToStartingState =>
      refine (hguarded.resetToStartingState fun houtcome => ?_).map _
      exact hstarting (hconforming.2 _ rfl houtcome)
  | checkInvariants =>
      exact (ensures_checkInvariants hhook hchecks hguarded.toIsOf fun _ => hguarded.guarded).map _

end Ensures

section Built

variable {declarations : Declarations Outside} {start : Outside}
  (hmodel : (declarations.build start).result = .ok model)

include hmodel

/-- On the model that was just built, the setting-up code does again what it did. -/
theorem runInit_of_build :
    ((ControllerSetup.standard.start model).runInit start).outcome = .ok () ∧
      ((ControllerSetup.standard.start model).runInit start).bank = model.bank := by
  have hreset : (ControllerSetup.standard.start model).model.reset start = .ok model :=
    Model.reset_of_build hmodel
  rw [reset_model] at hreset
  obtain ⟨_, houtcome, hstarted⟩ := Success.map_eq_ok_iff.1 hreset
  exact ⟨houtcome, congrArg Model.bank hstarted⟩

variable (hinit : ∀ {init}, model.init? = some init → Effect.IsDeterministic init)

include hinit

/-- The setting-up code makes the values that the model was built with again. -/
theorem agree_runInit (hsame : controller.model.init? = model.init?)
    (hdeclared : controller.bank.declarations = model.bank.declarations) (outside : Outside) :
    (controller.runInit outside).bank.Agree model.bank := by
  have hsame' : controller.model.init? = (ControllerSetup.standard.start model).model.init? := hsame
  obtain ⟨-, hagree⟩ := runInit_congr hsame' hdeclared hinit outside start
  rwa [(runInit_of_build hmodel).2] at hagree

theorem isGuarded_of_reaches {built : Controller Outside}
    (hhook : setup.errorHook = .refuse)
    (hchecks : ∀ declared ∈ model.invariants, Query.IsDeterministic declared.check)
    (hsatisfies : model.bank.Satisfies model.invariants)
    (hconsistent : built.core.IsConsistent model.bank.declarations)
    (hguarded : built.IsGuarded setup model)
    (hreached : Reaches Call.Succeeds built controller) :
    controller.core.IsConsistent model.bank.declarations ∧ controller.IsGuarded setup model := by
  induction hreached with
  | start => exact ⟨hconsistent, hguarded⟩
  | @call controller _ call outside hcall ih =>
      obtain ⟨hconsistent, hguarded⟩ := ih
      obtain ⟨hconforming, reply, hreply⟩ := hcall
      refine ⟨isConsistent_of_leaves hconsistent hconforming (leaves_perform call _ outside), ?_⟩
      have hdeclared : controller.bank.declarations = model.bank.declarations :=
        hconsistent.declared
      have hagree := agree_runInit hmodel hinit hguarded.init? hdeclared outside
      have hstarting (hconforms : (controller.runInit outside).bank.Conforms) :
          (controller.runInit outside).bank.save.IsGuarded model :=
        ⟨_, ⟨hagree.declared, hconforms⟩, hsatisfies.of_agree hchecks hagree.symm, rfl⟩
      have hensures :=
        ensures_outcome hhook hchecks hguarded hdeclared hstarting hconforming reply hreply
      rwa [Call.controller_outcome] at hensures

end Built

theorem isGuarded_of_build {built : Controller Outside} (hload : setup.config.checksOnLoad = true)
    (hhook : setup.errorHook = .refuse)
    (hchecks : ∀ declared ∈ model.invariants, Query.IsDeterministic declared.check)
    (hconforms : model.bank.Conforms)
    (hbuild : (setup.build model outside).result = .ok built) :
    model.bank.Satisfies model.invariants ∧ built.IsGuarded setup model := by
  obtain ⟨rulesets, -, hcore⟩ := core_of_build hbuild
  have hhistory : built.history = .start "Initial state" model.bank.save :=
    congrArg Core.history hcore
  obtain ⟨checked, _, rfl, ⟨held, hheld⟩, -, hbuilt⟩ := exists_of_build hbuild
  rw [if_pos hload] at hheld hbuilt
  obtain ⟨hholds, hsatisfies⟩ :=
    satisfies_of_checkInvariants hhook (map_unread_start setup model) hchecks hheld
  refine ⟨hsatisfies, { isOf_of_build hbuild with holds := ?_, guarded := fun snapshot hmem => ?_ }⟩
  · rw [hbuilt]
    exact hholds
  · rw [hhistory] at hmem
    rw [List.mem_singleton.1 hmem]
    exact ⟨model.bank, ⟨rfl, hconforms⟩, hsatisfies, rfl⟩

/-- As long as no call fails, every invariant holds on every entry of the history. -/
theorem history_keeps_invariants {declarations : Declarations Outside} {start : Outside}
    (hmodel : (declarations.build start).result = .ok model)
    (hinit : ∀ {init}, model.init? = some init → Effect.IsDeterministic init)
    (hchecks : ∀ declared ∈ model.invariants, Query.IsDeterministic declared.check)
    (hdistinct : model.bank.HasDistinctFields) (hconforms : model.bank.Conforms)
    (hload : setup.config.checksOnLoad = true) (hhook : setup.errorHook = .refuse)
    {built : Controller Outside} (hbuild : (setup.build model outside).result = .ok built)
    (hreached : Reaches Call.Succeeds built controller) :
    controller.invariantsHold = true ∧
      ∀ snapshot ∈ controller.history.entries, ∃ bank,
        controller.bank.restore snapshot.state = .ok bank ∧
          ∀ declared ∈ model.invariants, ∀ outside,
            ((declared.check outside).run bank ∅).outcome = .ok () := by
  obtain ⟨hsatisfies, hbuilt⟩ := isGuarded_of_build hload hhook hchecks hconforms hbuild
  obtain ⟨hconsistent, hguarded⟩ := isGuarded_of_reaches hmodel hinit hhook hchecks hsatisfies
    (isConsistent_of_build hconforms hbuild) hbuilt hreached
  refine ⟨hguarded.holds, fun snapshot hmem => ?_⟩
  exact (hguarded.guarded snapshot hmem).exists_restore hchecks hdistinct hconsistent.declared

/-- There is something left in the reservoir. -/
def notDry : Query Unit :=
  .read "level" fun held => .done <|
    if 0 < (held.toOption.bind Value.asNumber?).getD 0 then .ok ()
    else .error (.violation ⟨"run dry"⟩)

/-- A reservoir that is drawn from, and that must not run dry. -/
def reservoir : Declarations Unit where
  entries := [⟨"level", .range 0 9, none⟩]
  rules := [⟨"draw", .single fun _ => Effect.overwrite "level" (.number 4)⟩]
  invariants := [⟨"not dry", fun _ => notDry⟩]
  init? := some fun _ => Effect.overwrite "level" (.number 7)

theorem repeatable_notDry : Query.Repeatable fun _ : Unit => notDry :=
  Query.repeatable_readNumber "level" fun number =>
    if 0 < number.getD 0 then .ok () else .error (.violation ⟨"run dry"⟩)

/-- The reservoir is drawn from, and then put back to its start. -/
theorem history_keeps_invariants_reservoir :
    ∃ model, (reservoir.build ()).result = .ok model ∧
      ∃ built, (ControllerSetup.standard.build model ()).result = .ok built ∧
        let drawn := (Call.fire ⟨0, 0⟩).perform built ()
        let restarted := Call.resetToStartingState.perform drawn ()
        drawn.history.length = 2 ∧ restarted.invariantsHold = true ∧
          ∃ bank, restarted.bank.restore restarted.current.state = .ok bank ∧
            (notDry.run bank ∅).outcome = .ok () := by
  obtain ⟨model, hmodel⟩ : ∃ model, (reservoir.build ()).result = .ok model := ⟨_, rfl⟩
  obtain ⟨built, hbuild⟩ :
      ∃ built, (ControllerSetup.standard.build model ()).result = .ok built := by
    cases hmodel
    exact ⟨_, rfl⟩
  have hdraw : (Call.fire ⟨0, 0⟩).Succeeds built () := by
    cases hmodel
    cases hbuild
    refine ⟨⟨(by simp), fun run hattempt _ => ?_⟩, _, rfl⟩
    have hentries : run.bank.entries = [⟨"level", .range 0 9, false, .number 4⟩] := by
      rw [← Option.some.inj hattempt]
      rfl
    exact Bank.conforms_of_range (by decide) (by decide) hentries
  have hrestart : Call.resetToStartingState.Succeeds ((Call.fire ⟨0, 0⟩).perform built ()) () := by
    cases hmodel
    cases hbuild
    refine ⟨⟨(by simp), fun run hattempt _ => ?_⟩, _, rfl⟩
    have hentries : run.bank.entries = [⟨"level", .range 0 9, false, .number 7⟩] := by
      rw [← Option.some.inj hattempt]
      rfl
    exact Bank.conforms_of_range (by decide) (by decide) hentries
  have hinit {init : Unit → Effect Unit} (hinit : model.init? = some init) :
      Effect.IsDeterministic init := by
    cases hmodel
    cases hinit
    exact (Effect.repeatable_overwrite "level" (.number 7)).isDeterministic
  have hchecks : ∀ declared ∈ model.invariants, Query.IsDeterministic declared.check := by
    intro declared hmem
    cases hmodel
    rw [List.mem_singleton.1 hmem]
    exact repeatable_notDry.isDeterministic
  have hdistinct : model.bank.HasDistinctFields := by
    cases hmodel
    exact Bank.hasDistinctFields_of_range rfl
  have hconforms : model.bank.Conforms := by
    cases hmodel
    exact Bank.conforms_of_range (by decide) (by decide) rfl
  obtain ⟨hholds, hentries⟩ := history_keeps_invariants hmodel hinit hchecks hdistinct hconforms rfl
    rfl hbuild ((Reaches.start.call _ () hdraw).call _ () hrestart)
  obtain ⟨bank, hrestore, hpasses⟩ := hentries _ (History.current_mem_entries _)
  have hdeclared : ⟨"not dry", fun _ => notDry⟩ ∈ model.invariants := by
    cases hmodel
    exact List.mem_singleton_self _
  refine ⟨model, hmodel, built, hbuild, ?_, hholds, bank, hrestore, hpasses _ hdeclared ()⟩
  cases hmodel
  cases hbuild
  rfl

end Controller

end TransitionEngine
