import TransitionEngine.Proofs.Controller.Freshness
import TransitionEngine.Proofs.Controller.Replies
import TransitionEngine.Proofs.Controller.Steps

/-!
# Controllers that cannot be told apart

Two controllers of one deterministic model are alike when they hold the same values, have the same
history and the same instances. Which instances sleep and on what is not asked for, nor what the
checks have read, and no call can find it out: alike controllers give the same reply to every
deterministic call, and are alike again.
-/

namespace TransitionEngine

variable {Outside α β : Type}

structure RuleBody.IsDeterministic (body : RuleBody Outside) : Prop where
  effects {effect : Outside → Effect Unit} (heffect : body.HasEffect effect) :
    Effect.IsDeterministic effect
  repeats : body.DomainRepeats

structure Model.IsDeterministic (model : Model Outside) : Prop where
  rules {declared : RuleDeclaration Outside} (hmem : declared ∈ model.rules) :
    declared.body.IsDeterministic
  checks {declared : InvariantDeclaration Outside} (hmem : declared ∈ model.invariants) :
    Query.IsDeterministic declared.check
  init {init : Outside → Effect Unit} (hinit : model.init? = some init) :
    Effect.IsDeterministic init

theorem Model.IsDeterministic.repeats {model : Model Outside}
    (hdeterministic : model.IsDeterministic) : ∀ declared ∈ model.rules, declared.body.DomainRepeats :=
  fun _ hmem => (hdeterministic.rules hmem).repeats

/-- The answer of the hook depends on the failure that it is told of alone. -/
def ErrorHook.IsStateless (errorHook : ErrorHook Outside) : Prop :=
  ∀ outside outside' message violation,
    errorHook outside message violation = errorHook outside' message violation

/-- The code that comes with the call is deterministic. -/
def Call.IsDeterministic : Call Outside → Prop
  | .tryChangeState mutator => Effect.IsDeterministic fun _ : Outside => mutator
  | .wouldChangeState mutator => Effect.IsDeterministic fun _ : Outside => mutator
  | _ => True

/-- What is seen of a sequence of calls: of each call its result, its notices and the history after
it. -/
def Controller.transcript (controller : Controller Outside) :
    List (Call Outside × Outside) → List (Except EngineError Reply × List Notice × History)
  | [] => []
  | (call, outside) :: rest =>
      let outcome := call.outcome controller outside
      (outcome.result, outcome.notices, outcome.controller.history) ::
        outcome.controller.transcript rest

/-- The controllers were set up alike, hold the same values, and differ at most in what sleeps. -/
structure Controller.Alike (setup : ControllerSetup Outside) (model : Model Outside)
    (left right : Controller Outside) : Prop where
  isOf_left : left.IsOf setup model
  isOf_right : right.IsOf setup model
  agree : left.bank.Agree right.bank
  history : left.history = right.history
  rulesets : left.rulesets.map Ruleset.awake = right.rulesets.map Ruleset.awake

structure Outcome.Alike (setup : ControllerSetup Outside) (model : Model Outside)
    (left right : Outcome Outside α) : Prop where
  result : left.result = right.result
  notices : left.notices = right.notices
  controller : left.controller.Alike setup model right.controller

variable {setup : ControllerSetup Outside} {model : Model Outside}

namespace Outcome.Alike

theorem map {left right : Outcome Outside α} (halike : left.Alike setup model right) (f : α → β) :
    (left.map f).Alike setup model (right.map f) :=
  ⟨congrArg (Except.map f) halike.result, halike.notices, halike.controller⟩

theorem notify {left right : Outcome Outside α} (halike : left.Alike setup model right)
    (notice : Notice) :
    Alike setup model { left with notices := notice :: left.notices }
      { right with notices := notice :: right.notices } :=
  ⟨halike.result, congrArg (notice :: ·) halike.notices, halike.controller⟩

theorem andThen {left right : Outcome Outside α}
    {next next' : α → Controller Outside → Outcome Outside β}
    (hfirst : left.Alike setup model right)
    (hnext : ∀ value reached reached', reached.Alike setup model reached' →
      (next value reached).Alike setup model (next' value reached')) :
    (left.andThen next).Alike setup model (right.andThen next') := by
  obtain ⟨hresult, hnotices, hcontroller⟩ := hfirst
  unfold Outcome.andThen
  rw [hresult]
  cases right.result with
  | error error => exact ⟨rfl, hnotices, hcontroller⟩
  | ok value =>
      obtain ⟨hresult', hnotices', hcontroller'⟩ := hnext value _ _ hcontroller
      exact ⟨hresult', congrArg₂ (· ++ ·) hnotices hnotices', hcontroller'⟩

end Outcome.Alike

/-- Where the setting-up code is deterministic, it depends on the declarations of the variables
alone. -/
theorem Controller.runInit_congr {left right : Controller Outside}
    (hsame : left.model.init? = right.model.init?)
    (hdeclared : left.bank.declarations = right.bank.declarations)
    (hinit : ∀ {init}, right.model.init? = some init → Effect.IsDeterministic init)
    (outside outside' : Outside) :
    (left.runInit outside).outcome = (right.runInit outside').outcome ∧
      (left.runInit outside).bank.Agree (right.runInit outside').bank := by
  rw [runInit, runInit, hsame, Bank.reset_congr hdeclared]
  cases hright : right.model.init? with
  | none => exact ⟨rfl, .refl right.bank.reset⟩
  | some init => exact hinit hright outside outside' _ _ (.refl right.bank.reset)

namespace Controller.Alike

variable {left right : Controller Outside}

section Parts

variable (halike : left.Alike setup model right)

include halike

theorem withBank {bank bank' : Bank} (hagree : bank.Agree bank') :
    (left.withBank bank).Alike setup model (right.withBank bank') :=
  { halike with
    isOf_left := { halike.isOf_left with }
    isOf_right := { halike.isOf_right with }
    agree := hagree }

theorem withHistory (history : History) :
    Alike setup model { left with history } { right with history } :=
  { halike with
    isOf_left := { halike.isOf_left with }
    isOf_right := { halike.isOf_right with }
    history := rfl }

theorem sleepRule (id : RuleId) (readset readset' : NameSet) :
    (left.sleepRule id readset).Alike setup model (right.sleepRule id readset') := by
  have hleft : (left.sleepRule id readset).rulesets.map Ruleset.awake =
      left.rulesets.map Ruleset.awake := left.core.map_awake_sleep id readset
  have hright : (right.sleepRule id readset').rulesets.map Ruleset.awake =
      right.rulesets.map Ruleset.awake := right.core.map_awake_sleep id readset'
  exact { halike with
    isOf_left := halike.isOf_left.sleepRule id readset
    isOf_right := halike.isOf_right.sleepRule id readset'
    rulesets := by rw [hleft, hright, halike.rulesets] }

theorem of_core_eq {left' right' : Controller Outside} (hleft : left'.IsOf setup model)
    (hright : right'.IsOf setup model) (hcore : left'.core = left.core)
    (hcore' : right'.core = right.core) : left'.Alike setup model right' := by
  have hbank : left'.bank = left.bank := congrArg Core.bank hcore
  have hbank' : right'.bank = right.bank := congrArg Core.bank hcore'
  have hhistory : left'.history = left.history := congrArg Core.history hcore
  have hhistory' : right'.history = right.history := congrArg Core.history hcore'
  have hrulesets : left'.rulesets = left.rulesets := congrArg Core.rulesets hcore
  have hrulesets' : right'.rulesets = right.rulesets := congrArg Core.rulesets hcore'
  refine ⟨hleft, hright, ?_, ?_, ?_⟩
  · rw [hbank, hbank']
    exact halike.agree
  · rw [hhistory, hhistory', halike.history]
  · rw [hrulesets, hrulesets', halike.rulesets]

theorem current_eq : left.current = right.current :=
  congrArg History.current halike.history

theorem viewNotices_eq : left.viewNotices = right.viewNotices := by
  rw [viewNotices, viewNotices, halike.isOf_left.views, halike.isOf_right.views, halike.history]

theorem rule_wake_eq (id : RuleId) :
    (left.rule? id).map Rule.wake = (right.rule? id).map Rule.wake := by
  have hawake (controller : Controller Outside) : (controller.rule? id).map Rule.wake =
      (controller.rulesets.map Ruleset.awake)[id.ruleset]?.bind (·.rules[id.rule]?) := by
    rw [rule?, List.getElem?_map]
    cases controller.rulesets[id.ruleset]? <;> simp [Ruleset.awake]
  rw [hawake, hawake, halike.rulesets]

/-- On both there is the same instance under an id, but for its sleep, or there is none. -/
theorem rule?_cases
    (hdeterministic : ∀ {declared}, declared ∈ model.rules → declared.body.IsDeterministic)
    (hrules : left.core.HasRulesOf model.rules) (id : RuleId) :
    (left.rule? id = none ∧ right.rule? id = none) ∨
      ∃ first second, left.rule? id = some first ∧ right.rule? id = some second ∧
        first.name = second.name ∧ first.effect = second.effect ∧
        Effect.IsDeterministic second.effect := by
  have hwake := halike.rule_wake_eq id
  cases hleft : left.rule? id with
  | none =>
      rw [hleft, Option.map_none, eq_comm, Option.map_eq_none_iff] at hwake
      exact .inl ⟨rfl, hwake⟩
  | some first =>
      rw [hleft, Option.map_some, eq_comm, Option.map_eq_some_iff] at hwake
      obtain ⟨second, hright, hsame⟩ := hwake
      have hname : second.wake.name = first.wake.name := congrArg Rule.name hsame
      have heffect : second.wake.effect = first.wake.effect := congrArg Rule.effect hsame
      obtain ⟨⟨declared, hdeclared, hhas⟩, -⟩ := hrules.of_rule? hleft
      have hrepeat := (hdeterministic hdeclared).effects hhas
      exact .inr ⟨first, second, rfl, hright, hname.symm, heffect.symm, heffect ▸ hrepeat⟩

theorem ruleId?_eq (name : String) : left.ruleId? name = right.ruleId? name := by
  have hawake (controller : Controller Outside) : controller.ruleId? name =
      ({ controller with rulesets := controller.rulesets.map Ruleset.awake } :
        Controller Outside).ruleId? name := by
    simp only [ruleId?, Ruleset.awake, List.zipIdx_map, List.findSome?_map, Function.comp_def,
      Prod.map, List.findIdx?_map, id]
    rfl
  rw [hawake left, hawake right]
  simp only [ruleId?, halike.rulesets]

theorem updateViews : left.updateViews.Alike setup model right.updateViews :=
  ⟨rfl, halike.viewNotices_eq, halike⟩

/-- Both go back to the same entry, whatever the failure has left of the values. -/
theorem settle_of_failed {run run' : Run (Option String)} {error : EngineError}
    (hfailed : run.outcome = .error error) (hfailed' : run'.outcome = .error error)
    (hbanks : run.bank.Agree run'.bank) (outside outside' : Outside) :
    (left.settle outside run).Alike setup model (right.settle outside' run') := by
  rw [Controller.settle, Controller.settle, hfailed, hfailed', halike.current_eq,
    Bank.restore_congr hbanks.declared]
  dsimp only
  cases run'.bank.restore right.current.state with
  | ok bank => exact ⟨rfl, rfl, halike.withBank (.refl bank)⟩
  | error rollback => exact ⟨rfl, rfl, halike.withBank hbanks⟩

end Parts

section Rules

variable (hrepeats : ∀ declared ∈ model.rules, declared.body.DomainRepeats)
  (halike : left.Alike setup model right) (outside outside' : Outside)

include hrepeats halike

theorem reportChanges (changes : Changeset) :
    (left.reportChanges outside changes).Alike setup model
      (right.reportChanges outside' changes) := by
  obtain ⟨hresult, hrulesets⟩ := Ruleset.reportAll_congr halike.rulesets
    (fun ruleset hmem => hrepeats _ (halike.isOf_left.declaration_mem hmem)) halike.agree
    outside outside'
  exact ⟨hresult, rfl, halike.isOf_left.reportChanges outside changes,
    halike.isOf_right.reportChanges outside' changes, halike.agree, halike.history, hrulesets⟩

theorem restoreState (state : SavedState) :
    (left.restoreState outside state).Alike setup model (right.restoreState outside' state) := by
  rw [Controller.restoreState, Controller.restoreState,
    Bank.restore_congr halike.agree.declared state]
  cases right.bank.restore state with
  | error error => exact ⟨rfl, rfl, halike⟩
  | ok bank => exact reportChanges hrepeats (halike.withBank (.refl bank)) outside outside' _

theorem wouldChangeState {effect : Outside → Effect Unit}
    (heffect : Effect.IsDeterministic effect) :
    (left.wouldChangeState outside (effect outside)).Alike setup model
      (right.wouldChangeState outside' (effect outside')) := by
  obtain ⟨houtcome, hbanks⟩ := heffect outside outside' left.bank right.bank halike.agree
  have hchanged := halike.withBank hbanks
  have hrolledBack := restoreState hrepeats hchanged outside outside' right.current.state
  rw [Controller.wouldChangeState, Controller.wouldChangeState, halike.current_eq]
  dsimp only
  rw [houtcome, hbanks.save_eq]
  split
  · exact ⟨rfl, rfl, hchanged⟩
  · obtain ⟨hresult, hnotices, hcontroller⟩ := hrolledBack
    rw [hresult]
    split
    · exact ⟨rfl, hnotices, hcontroller⟩
    · exact ⟨rfl, hnotices, hcontroller⟩
    · exact ⟨rfl, congrArg (· ++ _) hnotices, hcontroller⟩

/-- The checks and the hook have no say in what a commit leaves. -/
theorem controller_commit {description : String} {changes : Changeset}
    (hleft : (left.commit outside description changes).controller.IsOf setup model)
    (hright : (right.commit outside' description changes).controller.IsOf setup model) :
    (left.commit outside description changes).controller.Alike setup model
      (right.commit outside' description changes).controller := by
  have hsave : left.bank.save = right.bank.save := halike.agree.save_eq
  have hpushed := halike.withHistory
    (right.history.push (description ++ " (changed " ++ changes.display ++ ")") right.bank.save)
  have hreported := (reportChanges hrepeats hpushed outside outside' changes).controller
  refine hreported.of_core_eq hleft hright ?_ (core_commit ..)
  rw [core_commit, halike.history, hsave]
  rfl

end Rules

section Operations

variable (hdeterministic : model.IsDeterministic) (hstateless : setup.errorHook.IsStateless)
  (halike : left.Alike setup model right) (outside outside' : Outside)

include hdeterministic halike

theorem resetToStartingState :
    (left.resetToStartingState outside).Alike setup model
      (right.resetToStartingState outside') := by
  obtain ⟨houtcome, hbanks⟩ := runInit_congr
    (halike.isOf_left.init?.trans halike.isOf_right.init?.symm) halike.agree.declared
    (fun {_} hinit => hdeterministic.init (halike.isOf_right.init?.symm.trans hinit))
    outside outside'
  rw [Controller.resetToStartingState, Controller.resetToStartingState, reset_model, reset_model,
    houtcome]
  cases (right.runInit outside').outcome with
  | error error => exact ⟨rfl, rfl, halike⟩
  | ok _ =>
      have hrestarted := (halike.withBank hbanks).withHistory
        (.start "Reset" (right.runInit outside').bank.save)
      dsimp only [Except.map]
      rw [hbanks.save_eq]
      refine ((reportChanges hdeterministic.repeats hrestarted outside outside' .everything).andThen
        fun _ reached reached' halike => ?_).notify _
      exact ⟨rfl, congrArg (_ :: ·) halike.viewNotices_eq, halike⟩

include hstateless

theorem checkInvariants :
    (left.checkInvariants outside).Alike setup model (right.checkInvariants outside') := by
  have hsame : left.invariants.map Invariant.unread = right.invariants.map Invariant.unread :=
    halike.isOf_left.invariants.trans halike.isOf_right.invariants.symm
  have hchecks : ∀ invariant ∈ left.invariants, Query.IsDeterministic invariant.check := by
    intro invariant hmem
    obtain ⟨-, declared, hdeclared, hcheck⟩ :=
      Invariant.exists_declared halike.isOf_left.invariants hmem
    exact hcheck ▸ hdeterministic.checks hdeclared
  have hresult := Invariant.checkAll_congr hsame hchecks halike.agree outside outside'
  have hanswer : (left.checkInvariants outside).result = (right.checkInvariants outside').result ∧
      (left.checkInvariants outside).notices = (right.checkInvariants outside').notices := by
    rw [Controller.checkInvariants, Controller.checkInvariants, halike.isOf_left.errorHook,
      halike.isOf_right.errorHook]
    generalize Invariant.checkAll outside left.bank left.invariants = checked at hresult ⊢
    generalize Invariant.checkAll outside' right.bank right.invariants = checked' at hresult ⊢
    obtain ⟨result, invariants⟩ := checked
    obtain ⟨result', invariants'⟩ := checked'
    obtain rfl : result = result' := hresult
    cases result with
    | held => exact ⟨rfl, rfl⟩
    | failed error => exact ⟨rfl, rfl⟩
    | violated name violation =>
        dsimp only
        rw [hstateless outside outside']
        exact ⟨rfl, rfl⟩
  exact ⟨hanswer.1, hanswer.2, halike.of_core_eq (halike.isOf_left.checkInvariants outside)
    (halike.isOf_right.checkInvariants outside') (core_checkInvariants ..)
    (core_checkInvariants ..)⟩

theorem commit (description : String) (changes : Changeset) :
    (left.commit outside description changes).Alike setup model
      (right.commit outside' description changes) := by
  have hsave : left.saveState = right.saveState := halike.agree.save_eq
  rw [Controller.commit, Controller.commit, halike.history, hsave]
  have hreported := reportChanges hdeterministic.repeats (halike.withHistory (right.history.push
    (description ++ " (changed " ++ changes.display ++ ")") right.saveState)) outside outside'
    changes
  refine (hreported.andThen fun _ reached reached' halike => ?_).notify _
  refine (checkInvariants hdeterministic hstateless halike outside outside').andThen ?_
  intro _ reached reached' halike
  exact halike.updateViews.andThen fun _ reached reached' halike => ⟨rfl, rfl, halike⟩

section Runs

variable {run run' : Run (Option String)} (houtcome : run.outcome = run'.outcome)
  (hbanks : run.bank.Agree run'.bank)

include houtcome hbanks

theorem settle :
    (left.settle outside run).Alike setup model (right.settle outside' run') := by
  cases hresult : run'.outcome with
  | error error =>
      exact halike.settle_of_failed (houtcome.trans hresult) hresult hbanks outside outside'
  | ok description =>
      have hchanged := halike.withBank hbanks
      rw [Controller.settle, Controller.settle, houtcome, hresult, halike.current_eq,
        hbanks.save_eq, halike.isOf_left.config, halike.isOf_right.config]
      dsimp only
      split
      · exact ⟨rfl, rfl, hchanged⟩
      · exact commit hdeterministic hstateless hchanged outside outside' _ _

end Runs

theorem fire (hrules : left.core.HasRulesOf model.rules) (id : RuleId) :
    (left.fire outside id).Alike setup model (right.fire outside' id) := by
  rcases halike.rule?_cases hdeterministic.rules hrules id with
    ⟨hleft, hright⟩ | ⟨first, second, hleft, hright, hname, heffect, hrepeat⟩
  · rw [Controller.fire, Controller.fire, rule, rule, hleft, hright]
    exact ⟨rfl, rfl, halike⟩
  · obtain ⟨houtcome, hbanks⟩ := hrepeat outside outside' left.bank right.bank halike.agree
    rw [fire_eq hleft rfl, fire_eq hright rfl, hname, heffect]
    refine (settle hdeterministic hstateless halike outside outside' ?_ hbanks).andThen ?_
    · exact congrArg (Except.map fun _ => some second.name) houtcome
    · intro changes reached reached' halike
      split
      · exact ⟨rfl, rfl, halike.sleepRule ..⟩
      · exact ⟨rfl, rfl, halike⟩

theorem restore (index : Nat) :
    (left.restore outside index).Alike setup model (right.restore outside' index) := by
  rw [Controller.restore, Controller.restore, halike.history]
  split
  · have hrewound := halike.withHistory (right.history.truncate index)
    refine (restoreState hdeterministic.repeats hrewound outside outside' _).andThen ?_
    intro _ reached reached' halike
    obtain ⟨hresult, hnotices, hcontroller⟩ :=
      checkInvariants hdeterministic hstateless halike outside outside'
    refine ⟨hresult, ?_, hcontroller⟩
    dsimp only
    rw [halike.viewNotices_eq, hnotices]
  · exact ⟨rfl, rfl, halike⟩

/-- Alike controllers reply alike to every deterministic call, and are alike again. -/
theorem outcome (hrules : left.core.HasRulesOf model.rules) {call : Call Outside}
    (hcall : call.IsDeterministic) :
    (call.outcome left outside).Alike setup model (call.outcome right outside') := by
  cases call with
  | fire id => exact (fire hdeterministic hstateless halike outside outside' hrules id).map _
  | fireByName name =>
      rw [Call.outcome, Call.outcome, fireByName, fireByName, halike.ruleId?_eq]
      cases right.ruleId? name with
      | none => exact ⟨rfl, rfl, halike⟩
      | some id => exact (fire hdeterministic hstateless halike outside outside' hrules id).map _
  | tryChangeState mutator =>
      obtain ⟨houtcome, hbanks⟩ := hcall outside outside' left.bank right.bank halike.agree
      exact (settle hdeterministic hstateless halike outside outside' houtcome hbanks).map _
  | wouldChangeState mutator =>
      exact (wouldChangeState hdeterministic.repeats halike outside outside' hcall).map _
  | wouldFire id =>
      rw [Call.outcome, Call.outcome, wouldFire, wouldFire, rule, rule]
      rcases halike.rule?_cases hdeterministic.rules hrules id with
        ⟨hleft, hright⟩ | ⟨first, second, hleft, hright, -, heffect, hrepeat⟩
      · rw [hleft, hright]
        exact ⟨rfl, rfl, halike⟩
      · rw [hleft, hright]
        dsimp only
        rw [heffect]
        exact (wouldChangeState hdeterministic.repeats halike outside outside' hrepeat).map _
  | restore index => exact (restore hdeterministic hstateless halike outside outside' index).map _
  | restoreState state =>
      exact (restoreState hdeterministic.repeats halike outside outside' state).map _
  | resetToStartingState =>
      exact (resetToStartingState hdeterministic halike outside outside').map _
  | checkInvariants =>
      exact (checkInvariants hdeterministic hstateless halike outside outside').map _

/-- No sequence of deterministic calls tells alike controllers apart. -/
theorem transcript_eq (hrules : left.core.HasRulesOf model.rules)
    {calls calls' : List (Call Outside × Outside)}
    (hsame : calls.map Prod.fst = calls'.map Prod.fst)
    (hcalls : ∀ call ∈ calls.map Prod.fst, call.IsDeterministic) :
    left.transcript calls = right.transcript calls' := by
  induction calls generalizing calls' left right with
  | nil =>
      obtain rfl := List.map_eq_nil_iff.1 hsame.symm
      rfl
  | cons first rest ih =>
      cases calls' with
      | nil => cases hsame
      | cons first' rest' =>
          obtain ⟨call, outside⟩ := first
          obtain ⟨call', outside'⟩ := first'
          obtain ⟨rfl, hrest⟩ : call = call' ∧ rest.map Prod.fst = rest'.map Prod.fst :=
            List.cons.inj hsame
          obtain ⟨hcall, hcalls⟩ := List.forall_mem_cons.1 hcalls
          obtain ⟨hresult, hnotices, hcontroller⟩ :=
            outcome hdeterministic hstateless halike outside outside' hrules hcall
          have hleaves := leaves_perform call left outside
          rw [← Call.controller_outcome] at hleaves
          have htranscript := ih hcontroller (hasRulesOf_of_leaves hrules hleaves) hrest hcalls
          rw [transcript, transcript, hresult, hnotices, hcontroller.history, htranscript]

end Operations

end Controller.Alike

end TransitionEngine
