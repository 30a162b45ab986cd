import TransitionEngine.Controller.Build
import TransitionEngine.Proofs.Program.Running

/-!
# Calls on a controller

A controller is used by calls, one after the other, each of which may fail and may meet another
outside. What a call leaves of the variables, the history and the rules is one of a few things, and
`Leaves` lists them; the views, the notices, the checks and the error hook have no part in it.
-/

namespace TransitionEngine

variable {Outside : Type}

inductive Call (Outside : Type) where
  | fire (id : RuleId)
  | fireByName (name : String)
  | tryChangeState (mutator : Effect (Option String))
  | wouldChangeState (mutator : Effect Unit)
  | wouldFire (id : RuleId)
  | restore (index : Nat)
  | restoreState (state : SavedState)
  | resetToStartingState
  | checkInvariants

namespace Call

/-- The controller after the call, also when the call fails. -/
def perform (call : Call Outside) (controller : Controller Outside) (outside : Outside) :
    Controller Outside :=
  match call with
  | .fire id => (controller.fire outside id).controller
  | .fireByName name => (controller.fireByName outside name).controller
  | .tryChangeState mutator => (controller.tryChangeState outside mutator).controller
  | .wouldChangeState mutator => (controller.wouldChangeState outside mutator).controller
  | .wouldFire id => (controller.wouldFire outside id).controller
  | .restore index => (controller.restore outside index).controller
  | .restoreState state => (controller.restoreState outside state).controller
  | .resetToStartingState => (controller.resetToStartingState outside).controller
  | .checkInvariants => (controller.checkInvariants outside).controller

/-- Whether the call only asks what would change. -/
def isProbe : Call Outside → Bool
  | .wouldChangeState _ | .wouldFire _ => true
  | _ => false

end Call

namespace Run

def describedAs (run : Run Unit) (description : String) : Run (Option String) :=
  { run with outcome := run.outcome.map fun _ => some description }

@[simp]
theorem bank_describedAs (run : Run Unit) (description : String) :
    (run.describedAs description).bank = run.bank := rfl

theorem outcome_describedAs {run : Run Unit} (hsucceeded : run.outcome = .ok ())
    (description : String) : (run.describedAs description).outcome = .ok (some description) := by
  rw [describedAs, hsucceeded]
  rfl

theorem outcome_describedAs_of_failed {run : Run Unit} {error : EngineError}
    (hfailed : run.outcome = .error error) (description : String) :
    (run.describedAs description).outcome = .error error := by
  rw [describedAs, hfailed]
  rfl

/-- The description is all that a described run has to say. -/
theorem map_describedAs (run : Run Unit) (description : String) :
    (⟨(run.describedAs description).outcome.map fun _ => (), run.bank, run.readset⟩ : Run Unit) =
      run := by
  cases run with
  | mk outcome bank readset => cases outcome <;> rfl

end Run

namespace Controller

def runRule? (controller : Controller Outside) (outside : Outside) (id : RuleId) :
    Option (Run Unit) :=
  (controller.rule? id).map fun rule => (rule.effect outside).run controller.bank ∅

/-- The setting-up code on the variables as they were declared. -/
def runInit (controller : Controller Outside) (outside : Outside) : Run Unit :=
  match controller.model.init? with
  | none => ⟨.ok (), controller.bank.reset, ∅⟩
  | some init => (init outside).run controller.bank.reset ∅

end Controller

/-- What the code of the model or of the caller that the call runs comes to, if it runs any. -/
def Call.attempt? (call : Call Outside) (controller : Controller Outside) (outside : Outside) :
    Option (Run Unit) :=
  match call with
  | .fire id | .wouldFire id => controller.runRule? outside id
  | .fireByName name => (controller.ruleId? name).bind (controller.runRule? outside)
  | .tryChangeState mutator =>
      let run := mutator.run controller.bank ∅
      some ⟨run.outcome.map fun _ => (), run.bank, run.readset⟩
  | .wouldChangeState mutator => some (mutator.run controller.bank ∅)
  | .resetToStartingState => some (controller.runInit outside)
  | .restore _ | .restoreState _ | .checkInvariants => none

/-- The controllers that calls lead to, each of them permitted where it is made. -/
inductive Reaches (permitted : Call Outside → Controller Outside → Outside → Prop)
    (start : Controller Outside) : Controller Outside → Prop
  | start : Reaches permitted start start
  | call {controller : Controller Outside} (hreached : Reaches permitted start controller)
      (call : Call Outside) (outside : Outside) (hpermitted : permitted call controller outside) :
      Reaches permitted start (call.perform controller outside)

theorem Reaches.mono {permitted allowed : Call Outside → Controller Outside → Outside → Prop}
    {start controller : Controller Outside} (hreached : Reaches permitted start controller)
    (himp : ∀ call controller outside, permitted call controller outside →
      allowed call controller outside) : Reaches allowed start controller := by
  induction hreached with
  | start => exact .start
  | call _ call outside hpermitted ih => exact ih.call call outside (himp _ _ _ hpermitted)

/-- What decides about the rules: the variables, the history, and which rules sleep on what. -/
structure Core (Outside : Type) where
  bank : Bank
  history : History
  rulesets : List (Ruleset Outside)

namespace Core

def rule? (core : Core Outside) (id : RuleId) : Option (Rule Outside) :=
  core.rulesets[id.ruleset]?.bind (·.rules[id.rule]?)

/-- The core after the rules were told of a change. -/
def report (core : Core Outside) (outside : Outside) (changes : Changeset) : Core Outside :=
  { core with rulesets := (Ruleset.reportAll changes outside core.bank core.rulesets).2 }

def sleep (core : Core Outside) (id : RuleId) (readset : NameSet) : Core Outside :=
  { core with
    rulesets := core.rulesets.modify id.ruleset fun ruleset =>
      { ruleset with rules := ruleset.rules.modify id.rule (·.sleep readset) } }

end Core

namespace Controller

def core (controller : Controller Outside) : Core Outside :=
  ⟨controller.bank, controller.history, controller.rulesets⟩

inductive Leaves (controller : Controller Outside) (outside : Outside) (call : Call Outside) :
    Core Outside → Prop
  | nothing : Leaves controller outside call controller.core
  | unchanged {run : Run Unit} (hattempt : call.attempt? controller outside = some run)
      (hkept : run.outcome = .ok () ∨ call.isProbe = true)
      (hsame : (Changeset.between controller.current.state run.bank.save).isEmpty = true) :
      Leaves controller outside call { controller.core with bank := run.bank }
  | slept {id : RuleId} {rule : Rule Outside} (hrule : controller.rule? id = some rule)
      (hattempt : call.attempt? controller outside =
        some ((rule.effect outside).run controller.bank ∅))
      (hsucceeded : ((rule.effect outside).run controller.bank ∅).outcome = .ok ())
      (hsame : (Changeset.between controller.current.state
        ((rule.effect outside).run controller.bank ∅).bank.save).isEmpty = true) :
      Leaves controller outside call
        ({ controller.core with bank := ((rule.effect outside).run controller.bank ∅).bank }.sleep
          id ((rule.effect outside).run controller.bank ∅).readset)
  | undone {before bank : Bank} (hdeclared : before.declarations = controller.bank.declarations)
      (hrestore : before.restore controller.current.state = .ok bank) :
      Leaves controller outside call { controller.core with bank }
  | committed {run : Run Unit} {message : String}
      (hattempt : call.attempt? controller outside = some run) (hsucceeded : run.outcome = .ok ()) :
      Leaves controller outside call
        (Core.report ⟨run.bank, controller.history.push message run.bank.save, controller.rulesets⟩
          outside (.between controller.current.state run.bank.save))
  | restarted {run : Run Unit} (hattempt : call.attempt? controller outside = some run)
      (hsucceeded : run.outcome = .ok ()) :
      Leaves controller outside call
        (Core.report ⟨run.bank, .start "Reset" run.bank.save, controller.rulesets⟩ outside
          .everything)
  | rewound {before bank : Bank} {history : History}
      (hdeclared : before.declarations = controller.bank.declarations)
      (hhistory : history = controller.history ∨ ∃ index, history = controller.history.truncate index)
      (hrestore : before.restore history.current.state = .ok bank) :
      Leaves controller outside call
        (Core.report ⟨bank, history, controller.rulesets⟩ outside .everything)
  | stuck {before : Bank} {history : History} {error : ValueError}
      (hdeclared : before.declarations = controller.bank.declarations)
      (hhistory : history = controller.history ∨ ∃ index, history = controller.history.truncate index)
      (hrestore : before.restore history.current.state = .error error) :
      Leaves controller outside call ⟨before, history, controller.rulesets⟩
  | replaced {state : SavedState} {bank : Bank} (hcall : call = .restoreState state)
      (hrestore : controller.bank.restore state = .ok bank) :
      Leaves controller outside call
        (Core.report ⟨bank, controller.history, controller.rulesets⟩ outside .everything)

/-! ### The core after each operation -/

section Operations

variable (controller : Controller Outside) (outside : Outside)

@[simp]
theorem bank_withBank (bank : Bank) : (controller.withBank bank).bank = bank := rfl

@[simp]
theorem core_withBank (bank : Bank) :
    (controller.withBank bank).core = { controller.core with bank } := rfl

@[simp]
theorem core_sleepRule (id : RuleId) (readset : NameSet) :
    (controller.sleepRule id readset).core = controller.core.sleep id readset := rfl

@[simp]
theorem core_reportChanges (changes : Changeset) :
    (controller.reportChanges outside changes).controller.core =
      controller.core.report outside changes := rfl

@[simp]
theorem core_checkInvariants :
    (controller.checkInvariants outside).controller.core = controller.core := by
  unfold checkInvariants
  split <;> rfl

theorem core_andThen {α β : Type} {outcome : Outcome Outside α}
    {next : α → Controller Outside → Outcome Outside β}
    (hnext : ∀ result controller, (next result controller).controller.core = controller.core) :
    (outcome.andThen next).controller.core = outcome.controller.core := by
  unfold Outcome.andThen
  split
  · rfl
  · exact hnext _ _

theorem core_commit (description : String) (changes : Changeset) :
    (controller.commit outside description changes).controller.core =
      Core.report ⟨controller.bank, controller.history.push
        (description ++ " (changed " ++ changes.display ++ ")") controller.bank.save,
        controller.rulesets⟩ outside changes := by
  rw [commit]
  dsimp only
  rw [core_andThen, core_reportChanges]
  · rfl
  · intro _ reported
    rw [core_andThen, core_checkInvariants]
    intro _ checked
    rfl

theorem core_restoreState (state : SavedState) :
    (controller.restoreState outside state).controller.core =
      match controller.bank.restore state with
      | .error _ => controller.core
      | .ok bank => Core.report ⟨bank, controller.history, controller.rulesets⟩ outside
          .everything := by
  rw [restoreState]
  cases controller.bank.restore state <;> rfl

theorem core_restore {index : Nat} (hindex : index < controller.history.length) :
    (controller.restore outside index).controller.core =
      match controller.bank.restore (controller.history.truncate index).current.state with
      | .error _ => ⟨controller.bank, controller.history.truncate index, controller.rulesets⟩
      | .ok bank => Core.report ⟨bank, controller.history.truncate index, controller.rulesets⟩
          outside .everything := by
  rw [restore, if_pos hindex]
  dsimp only
  rw [core_andThen, core_restoreState]
  · rfl
  · intro _ restored
    exact core_checkInvariants restored outside

theorem reset_model :
    controller.model.reset outside = (controller.runInit outside).outcome.map fun _ =>
      { controller.model with bank := (controller.runInit outside).bank } := by
  obtain ⟨⟨bank, rules, invariants, init?⟩, _⟩ := controller
  cases init? with
  | none => rfl
  | some init =>
      simp only [Model.reset, Model.runInit, runInit, Controller.bank]
      cases ((init outside).run bank.reset ∅).outcome <;> rfl

variable {controller outside}

theorem core_resetToStartingState (hsucceeded : (controller.runInit outside).outcome = .ok ()) :
    (controller.resetToStartingState outside).controller.core =
      Core.report ⟨(controller.runInit outside).bank,
        .start "Reset" (controller.runInit outside).bank.save, controller.rulesets⟩ outside
          .everything := by
  rw [resetToStartingState, reset_model, hsucceeded]
  dsimp only [Except.map]
  rw [core_andThen, core_reportChanges]
  · rfl
  · intro _ reported
    rfl

theorem settle_of_unchanged {run : Run (Option String)} {description : Option String}
    (houtcome : run.outcome = .ok description)
    (hsame : (Changeset.between controller.current.state run.bank.save).isEmpty = true) :
    controller.settle outside run =
      ⟨.ok (.between controller.current.state run.bank.save), controller.withBank run.bank, []⟩ := by
  rw [settle, houtcome]
  exact if_pos hsame

theorem settle_of_changed {run : Run (Option String)} {description : Option String}
    (houtcome : run.outcome = .ok description)
    (hchanged : (Changeset.between controller.current.state run.bank.save).isEmpty = false) :
    controller.settle outside run = (controller.withBank run.bank).commit outside
      (description.getD controller.config.defaultMessage)
      (.between controller.current.state run.bank.save) := by
  rw [settle, houtcome]
  exact if_neg (by simpa using hchanged)

theorem result_andThen_eq_ok {α β : Type} {outcome : Outcome Outside α}
    {next : α → Controller Outside → Outcome Outside β} {result : β}
    (hresult : (outcome.andThen next).result = .ok result) :
    ∃ value, outcome.result = .ok value ∧ (next value outcome.controller).result = .ok result := by
  unfold Outcome.andThen at hresult
  split at hresult
  · cases hresult
  · rename_i value hvalue
    exact ⟨value, hvalue, hresult⟩

theorem changes_of_commit {description : String} {changes result : Changeset}
    (hresult : (controller.commit outside description changes).result = .ok result) :
    result = changes := by
  obtain ⟨-, -, hchecked⟩ := result_andThen_eq_ok hresult
  obtain ⟨-, -, hviewed⟩ := result_andThen_eq_ok hchecked
  obtain ⟨-, -, hresult⟩ := result_andThen_eq_ok hviewed
  exact (Except.ok.inj hresult).symm

/-- A change is taken over only after a success, and it is what the comparison found. -/
theorem changes_of_settle {run : Run (Option String)} {changes : Changeset}
    (hresult : (controller.settle outside run).result = .ok changes) :
    (∃ description, run.outcome = .ok description) ∧
      changes = .between controller.current.state run.bank.save := by
  cases houtcome : run.outcome with
  | error error =>
      rw [settle, houtcome] at hresult
      cases hrestore : run.bank.restore controller.current.state <;>
        simp [hrestore] at hresult
  | ok description =>
      refine ⟨⟨description, rfl⟩, ?_⟩
      cases hsame : (Changeset.between controller.current.state run.bank.save).isEmpty with
      | true =>
          rw [settle_of_unchanged houtcome hsame] at hresult
          exact (Except.ok.inj hresult).symm
      | false =>
          rw [settle_of_changed houtcome hsame] at hresult
          exact changes_of_commit hresult

section Firing

variable {id : RuleId} {rule : Rule Outside} {run : Run Unit}
  (hrule : controller.rule? id = some rule)
  (hrun : (rule.effect outside).run controller.bank ∅ = run)

include hrule hrun

theorem fire_eq : controller.fire outside id =
    (controller.settle outside (run.describedAs rule.name)).andThen fun changes controller =>
      if changes.isEmpty then
        ⟨.ok changes, controller.sleepRule id run.readset, [.logged (.ruleIneffective rule.name)]⟩
      else ⟨.ok changes, controller, []⟩ := by
  rw [fire, Controller.rule, hrule]
  dsimp only
  rw [hrun]
  rfl

theorem fire_of_unchanged (hsucceeded : run.outcome = .ok ())
    (hsame : (Changeset.between controller.current.state run.bank.save).isEmpty = true) :
    controller.fire outside id =
      ⟨.ok (.between controller.current.state run.bank.save),
        (controller.withBank run.bank).sleepRule id run.readset,
        [.logged (.ruleIneffective rule.name)]⟩ := by
  have hsettle : controller.settle outside (run.describedAs rule.name) =
      ⟨.ok (.between controller.current.state run.bank.save), controller.withBank run.bank, []⟩ :=
    settle_of_unchanged (Run.outcome_describedAs hsucceeded rule.name) hsame
  rw [fire_eq hrule hrun, hsettle, Outcome.andThen]
  dsimp only
  rw [if_pos hsame, List.nil_append]

theorem fire_of_changed (hsucceeded : run.outcome = .ok ())
    (hchanged : (Changeset.between controller.current.state run.bank.save).isEmpty = false) :
    controller.fire outside id = (controller.withBank run.bank).commit outside rule.name
      (.between controller.current.state run.bank.save) := by
  have hsettle : controller.settle outside (run.describedAs rule.name) = _ :=
    settle_of_changed (Run.outcome_describedAs hsucceeded rule.name) hchanged
  rw [Option.getD_some, Run.bank_describedAs] at hsettle
  rw [fire_eq hrule hrun, hsettle]
  generalize hcommit : (controller.withBank run.bank).commit outside rule.name _ = committed
  obtain ⟨result, reached, notices⟩ := committed
  cases result with
  | error error => rfl
  | ok changes =>
      rw [Outcome.andThen]
      dsimp only
      rw [changes_of_commit (congrArg Outcome.result hcommit), if_neg (by simpa using hchanged),
        List.append_nil]

theorem core_fire_of_changed (hsucceeded : run.outcome = .ok ())
    (hchanged : (Changeset.between controller.current.state run.bank.save).isEmpty = false) :
    ∃ message, (controller.fire outside id).controller.core =
      Core.report ⟨run.bank, controller.history.push message run.bank.save, controller.rulesets⟩
        outside (.between controller.current.state run.bank.save) := by
  rw [fire_of_changed hrule hrun hsucceeded hchanged]
  exact ⟨_, core_commit ..⟩

theorem fire_of_failed {error : EngineError} (hfailed : run.outcome = .error error) :
    controller.fire outside id = controller.settle outside (run.describedAs rule.name) := by
  rw [fire_eq hrule hrun, Outcome.andThen]
  split
  · rename_i hresult
    rw [← hresult]
  · rename_i hresult
    obtain ⟨⟨description, houtcome⟩, -⟩ := changes_of_settle hresult
    rw [Run.outcome_describedAs_of_failed hfailed] at houtcome
    cases houtcome

/-- A firing succeeds only where the effect does. -/
theorem outcome_of_fire {changes : Changeset}
    (hfired : (controller.fire outside id).result = .ok changes) : run.outcome = .ok () := by
  cases houtcome : run.outcome with
  | ok _ => rfl
  | error error =>
      rw [fire_of_failed hrule hrun houtcome] at hfired
      obtain ⟨⟨description, hdescribed⟩, -⟩ := changes_of_settle hfired
      rw [Run.outcome_describedAs_of_failed houtcome] at hdescribed
      cases hdescribed

end Firing

end Operations

/-! ### What calls leave -/

section Calls

variable {controller : Controller Outside} {outside : Outside} {call : Call Outside}

theorem declarations_of_attempt? {run : Run Unit}
    (hattempt : call.attempt? controller outside = some run) :
    run.bank.declarations = controller.bank.declarations := by
  have hrule (id : RuleId) (hrun : controller.runRule? outside id = some run) :
      run.bank.declarations = controller.bank.declarations := by
    obtain ⟨rule, -, rfl⟩ := Option.map_eq_some_iff.1 hrun
    exact Effect.declarations_run ..
  cases call with
  | fire id => exact hrule id hattempt
  | wouldFire id => exact hrule id hattempt
  | fireByName name =>
      obtain ⟨id, -, hrun⟩ := Option.bind_eq_some_iff.1 hattempt
      exact hrule id hrun
  | tryChangeState mutator =>
      rw [← Option.some.inj hattempt]
      exact Effect.declarations_run ..
  | wouldChangeState mutator =>
      rw [← Option.some.inj hattempt]
      exact Effect.declarations_run ..
  | resetToStartingState =>
      rw [← Option.some.inj hattempt, runInit]
      split
      · exact Bank.declarations_reset _
      · rw [Effect.declarations_run, Bank.declarations_reset]
  | restore _ | restoreState _ | checkInvariants => cases hattempt

theorem leaves_settle {run : Run (Option String)}
    (hattempt : call.attempt? controller outside =
      some ⟨run.outcome.map fun _ => (), run.bank, run.readset⟩) :
    Leaves controller outside call (controller.settle outside run).controller.core := by
  have hdeclared := declarations_of_attempt? hattempt
  cases houtcome : run.outcome with
  | error error =>
      rw [settle, houtcome]
      cases hrestore : run.bank.restore controller.current.state with
      | ok bank => exact .undone hdeclared hrestore
      | error rollback => exact .stuck hdeclared (.inl rfl) hrestore
  | ok description =>
      rw [houtcome] at hattempt
      cases hsame : (Changeset.between controller.current.state run.bank.save).isEmpty with
      | true =>
          rw [settle_of_unchanged houtcome hsame]
          exact .unchanged hattempt (.inl rfl) hsame
      | false =>
          rw [settle_of_changed houtcome hsame, core_commit]
          exact .committed hattempt rfl

theorem leaves_fire {id : RuleId} (hattempt :
      call.attempt? controller outside = controller.runRule? outside id) :
    Leaves controller outside call (controller.fire outside id).controller.core := by
  cases hrule : controller.rule? id with
  | none =>
      rw [fire, rule, hrule]
      exact .nothing
  | some rule =>
      rw [runRule?, hrule, Option.map_some] at hattempt
      cases hsucceeded : ((rule.effect outside).run controller.bank ∅).outcome with
      | error error =>
          rw [fire_of_failed hrule rfl hsucceeded]
          refine leaves_settle ?_
          rw [hattempt]
          exact congrArg some (Run.map_describedAs _ rule.name).symm
      | ok _ =>
          cases hsame : (Changeset.between controller.current.state
              ((rule.effect outside).run controller.bank ∅).bank.save).isEmpty with
          | true =>
              rw [fire_of_unchanged hrule rfl hsucceeded hsame]
              exact .slept hrule hattempt hsucceeded hsame
          | false =>
              obtain ⟨message, hcore⟩ := core_fire_of_changed hrule rfl hsucceeded hsame
              rw [hcore]
              exact .committed hattempt hsucceeded

theorem leaves_wouldChangeState {mutator : Effect Unit}
    (hattempt : call.attempt? controller outside = some (mutator.run controller.bank ∅))
    (hprobe : call.isProbe = true) :
    Leaves controller outside call (controller.wouldChangeState outside mutator).controller.core := by
  have hrolledBack : Leaves controller outside call
      ((controller.withBank (mutator.run controller.bank ∅).bank).restoreState outside
        controller.current.state).controller.core := by
    have hdeclared := declarations_of_attempt? hattempt
    rw [core_restoreState, bank_withBank]
    cases hrestore : (mutator.run controller.bank ∅).bank.restore controller.current.state with
    | error error => exact .stuck hdeclared (.inl rfl) hrestore
    | ok bank => exact .rewound hdeclared (.inl rfl) hrestore
  rw [wouldChangeState]
  dsimp only
  split
  · rename_i hempty
    exact .unchanged hattempt (.inr hprobe) hempty
  · split <;> exact hrolledBack

theorem leaves_restore (index : Nat) :
    Leaves controller outside call (controller.restore outside index).controller.core := by
  by_cases hindex : index < controller.history.length
  · rw [core_restore controller outside hindex]
    cases hrestore : controller.bank.restore (controller.history.truncate index).current.state with
    | error error => exact .stuck rfl (.inr ⟨index, rfl⟩) hrestore
    | ok bank => exact .rewound rfl (.inr ⟨index, rfl⟩) hrestore
  · rw [restore, if_neg hindex]
    exact .nothing

theorem leaves_resetToStartingState
    (hattempt : call.attempt? controller outside = some (controller.runInit outside)) :
    Leaves controller outside call (controller.resetToStartingState outside).controller.core := by
  cases hsucceeded : (controller.runInit outside).outcome with
  | error error =>
      rw [resetToStartingState, reset_model, hsucceeded]
      exact .nothing
  | ok _ =>
      rw [core_resetToStartingState hsucceeded]
      exact .restarted hattempt hsucceeded

/-- Whatever is called, it leaves one of the cores that are listed. -/
theorem leaves_perform (call : Call Outside) (controller : Controller Outside) (outside : Outside) :
    Leaves controller outside call (call.perform controller outside).core := by
  cases call with
  | fire id => exact leaves_fire rfl
  | fireByName name =>
      rw [Call.perform, fireByName]
      cases hname : controller.ruleId? name with
      | none => exact .nothing
      | some id => exact leaves_fire (by rw [Call.attempt?, hname, Option.bind_some])
  | tryChangeState mutator => exact leaves_settle rfl
  | wouldChangeState mutator => exact leaves_wouldChangeState rfl rfl
  | wouldFire id =>
      rw [Call.perform, wouldFire, rule]
      cases hrule : controller.rule? id with
      | none => exact .nothing
      | some rule =>
          refine leaves_wouldChangeState ?_ rfl
          rw [Call.attempt?, runRule?, hrule, Option.map_some]
  | restore index => exact leaves_restore index
  | restoreState state =>
      rw [Call.perform, core_restoreState]
      cases hrestore : controller.bank.restore state with
      | error error => exact .nothing
      | ok bank => exact .replaced rfl hrestore
  | resetToStartingState => exact leaves_resetToStartingState rfl
  | checkInvariants =>
      rw [Call.perform, core_checkInvariants]
      exact .nothing

end Calls

/-! ### What is built -/

/-- Before the rulesets are made, the invariants are checked on the starting state, unless they are not
to be. -/
theorem exists_of_build {setup : ControllerSetup Outside} {model : Model Outside} {outside : Outside}
    {built : Controller Outside} (hbuild : (setup.build model outside).result = .ok built) :
    ∃ (checked : Outcome Outside Bool) (rulesets : List (Ruleset Outside)),
      (checked = if setup.config.checksOnLoad then (setup.start model).checkInvariants outside
        else ⟨.ok true, setup.start model, []⟩) ∧
      (∃ holds, checked.result = .ok holds) ∧
      model.rules.mapM (Ruleset.ofDeclaration · outside model.bank) = .ok rulesets ∧
      built = { checked.controller with rulesets } := by
  unfold ControllerSetup.build at hbuild
  split at hbuild
  · cases hbuild
  · dsimp only at hbuild
    generalize hchecked : (if setup.config.checksOnLoad then
        (setup.start model).checkInvariants outside
      else (⟨.ok true, setup.start model, []⟩ : Outcome Outside Bool)) = checked at hbuild
    have hmodel : checked.controller.model = model := by
      rw [← hchecked]
      split
      · rw [checkInvariants]
        split <;> rfl
      · rfl
    split at hbuild
    · cases hbuild
    · rename_i holds hholds
      change (ControllerSetup.withRulesets checked.controller outside).result = _ at hbuild
      have hbank : checked.controller.bank = model.bank := congrArg Model.bank hmodel
      have hrules : checked.controller.model.rules = model.rules := congrArg Model.rules hmodel
      rw [ControllerSetup.withRulesets, hbank, hrules] at hbuild
      cases hrulesets : model.rules.mapM (Ruleset.ofDeclaration · outside model.bank) with
      | error error => simp [hrulesets] at hbuild
      | ok rulesets =>
          rw [hrulesets] at hbuild
          exact ⟨checked, rulesets, rfl, ⟨holds, hholds⟩, rfl, (Except.ok.inj hbuild).symm⟩

end Controller

end TransitionEngine
