import TransitionEngine.Proofs.Controller.Growth
import TransitionEngine.Proofs.Controller.Rules

/-!
# What is committed

A call that may commit does so when its code succeeds and leaves another state than that of the current
entry. The state is then appended to the history and the rulesets are told of the change, before any
check. Otherwise the history stays as it is, and so does every instance but the one that is fired.
-/

namespace TransitionEngine

variable {Outside : Type}

/-- The instance that the call fires, if it fires one. -/
def Call.fires? (call : Call Outside) (controller : Controller Outside) : Option RuleId :=
  match call with
  | .fire id => some id
  | .fireByName name => controller.ruleId? name
  | .tryChangeState _ | .wouldChangeState _ | .wouldFire _ | .restore _ | .restoreState _
  | .resetToStartingState | .checkInvariants => none

namespace Controller

/-- A call that may commit comes to a commit of what its code changed, or it leaves the history. -/
inductive Settles (controller : Controller Outside) (outside : Outside) (call : Call Outside) :
    Outcome Outside Changeset → Prop
  | committed {run : Run Unit} (hattempt : call.attempt? controller outside = some run)
      (hsucceeded : run.outcome = .ok ())
      (hchanged : (Changeset.between controller.current.state run.bank.save).isEmpty = false)
      (description : String) :
      Settles controller outside call ((controller.withBank run.bank).commit outside description
        (.between controller.current.state run.bank.save))
  | kept {outcome : Outcome Outside Changeset}
      (hsame : ∀ run, call.attempt? controller outside = some run → run.outcome = .ok () →
        (Changeset.between controller.current.state run.bank.save).isEmpty = true)
      (hhistory : outcome.controller.history = controller.history)
      (hothers : ∀ id, call.fires? controller ≠ some id →
        outcome.controller.rule? id = controller.rule? id)
      (hresult : ∀ changes, outcome.result = .ok changes → changes = .none)
      (hnotices : ∀ notice ∈ outcome.notices, notice.IsAside) :
      Settles controller outside call outcome

theorem rule?_sleepRule_of_ne (controller : Controller Outside) {id other : RuleId}
    (hne : other ≠ id) (readset : NameSet) :
    (controller.sleepRule id readset).rule? other = controller.rule? other := by
  change (controller.core.sleep id readset).rule? other = controller.core.rule? other
  exact Core.rule?_sleep_of_ne hne

section Settles

variable {controller : Controller Outside} {outside : Outside} {call : Call Outside}

theorem settles_settle {run : Run (Option String)} (hattempt : call.attempt? controller outside =
      some ⟨run.outcome.map fun _ => (), run.bank, run.readset⟩) :
    Settles controller outside call (controller.settle outside run) := by
  cases houtcome : run.outcome with
  | error error =>
      have hsame : ∀ attempted, call.attempt? controller outside = some attempted →
          attempted.outcome = .ok () →
          (Changeset.between controller.current.state attempted.bank.save).isEmpty = true := by
        intro attempted hattempted hsucceeded
        rw [hattempt, houtcome] at hattempted
        rw [← Option.some.inj hattempted] at hsucceeded
        cases hsucceeded
      rw [settle, houtcome]
      dsimp only
      split
      · exact .kept hsame rfl (fun _ _ => rfl) (fun _ hresult => by cases hresult)
          (List.forall_mem_nil _)
      · exact .kept hsame rfl (fun _ _ => rfl) (fun _ hresult => by cases hresult)
          (List.forall_mem_singleton.2 trivial)
  | ok description =>
      rw [houtcome] at hattempt
      cases hsame : (Changeset.between controller.current.state run.bank.save).isEmpty with
      | true =>
          rw [settle_of_unchanged houtcome hsame]
          refine .kept (fun attempted hattempted _ => ?_) rfl (fun _ _ => rfl) ?_
            (List.forall_mem_nil _)
          · rw [hattempt] at hattempted
            rw [← Option.some.inj hattempted]
            exact hsame
          · intro changes hresult
            rw [← Except.ok.inj hresult]
            exact Changeset.eq_none_of_isEmpty hsame
      | false =>
          rw [settle_of_changed houtcome hsame]
          exact .committed hattempt rfl hsame _

theorem settles_fire {id : RuleId} (hattempt : call.attempt? controller outside =
      controller.runRule? outside id) (hfires : call.fires? controller = some id) :
    Settles controller outside call (controller.fire outside id) := by
  cases hrule : controller.rule? id with
  | none =>
      rw [runRule?, hrule, Option.map_none] at hattempt
      rw [fire, rule, hrule]
      refine .kept (fun run hrun => ?_) rfl (fun _ _ => rfl) (fun _ hresult => by cases hresult)
        (List.forall_mem_nil _)
      rw [hattempt] at hrun
      cases hrun
  | some rule =>
      rw [runRule?, hrule, Option.map_some] at hattempt
      generalize hrun : (rule.effect outside).run controller.bank ∅ = run at hattempt
      cases hsucceeded : run.outcome with
      | error error =>
          rw [fire_of_failed hrule hrun hsucceeded]
          refine settles_settle ?_
          rw [hattempt]
          exact congrArg some (run.map_describedAs rule.name).symm
      | ok _ =>
          cases hsame : (Changeset.between controller.current.state run.bank.save).isEmpty with
          | true =>
              rw [fire_of_unchanged hrule hrun hsucceeded hsame]
              refine .kept (fun attempted hattempted _ => ?_) rfl (fun other hother => ?_) ?_
                (List.forall_mem_singleton.2 trivial)
              · rw [hattempt] at hattempted
                rw [← Option.some.inj hattempted]
                exact hsame
              · refine rule?_sleepRule_of_ne (controller.withBank run.bank) (fun heq => ?_) _
                exact hother (hfires.trans (congrArg some heq.symm))
              · intro changes hresult
                rw [← Except.ok.inj hresult]
                exact Changeset.eq_none_of_isEmpty hsame
          | false =>
              rw [fire_of_changed hrule hrun hsucceeded hsame]
              exact .committed hattempt hsucceeded hsame _

theorem settles_outcome (hcommits : (Operation.call call).commits = true)
    (controller : Controller Outside) (outside : Outside) :
    ∃ outcome : Outcome Outside Changeset,
      call.outcome controller outside = outcome.map Reply.changed ∧
        Settles controller outside call outcome := by
  cases call with
  | fire id => exact ⟨_, rfl, settles_fire rfl rfl⟩
  | fireByName name =>
      refine ⟨_, rfl, ?_⟩
      rw [fireByName]
      split
      · rename_i hname
        refine .kept (fun run hrun => ?_) rfl (fun _ _ => rfl) (fun _ hresult => by cases hresult)
          (List.forall_mem_nil _)
        rw [Call.attempt?, hname] at hrun
        cases hrun
      · rename_i id hname
        exact settles_fire (by rw [Call.attempt?, hname, Option.bind_some]) hname
  | tryChangeState mutator => exact ⟨_, rfl, settles_settle rfl⟩
  | wouldChangeState _ | wouldFire _ | restore _ | restoreState _ | resetToStartingState
  | checkInvariants => cases hcommits

/-! ### A commit -/

@[simp]
theorem rulesets_commit (controller : Controller Outside) (outside : Outside) (description : String)
    (changes : Changeset) :
    (controller.commit outside description changes).controller.rulesets =
      (Ruleset.reportAll changes outside controller.bank controller.rulesets).2 :=
  congrArg Core.rulesets (core_commit controller outside description changes)

/-- The domain at which the report of a commit ends is what the call fails with. -/
theorem result_commit_of_failed {description : String} {changes : Changeset} {error : EngineError}
    (hfails : (Ruleset.reportAll changes outside controller.bank controller.rulesets).1 =
      .error error) : (controller.commit outside description changes).result = .error error := by
  rw [commit]
  dsimp only
  rw [Outcome.andThen_of_error hfails]

/-- Only a call that may commit lengthens the history. -/
theorem commits_of_pushed
    (hpushed : controller.history.length < (call.perform controller outside).history.length) :
    (Operation.call call).commits = true := by
  have hamended := amended_outcome (.call call) controller outside
  rw [Operation.outcome, Call.controller_outcome] at hamended
  generalize (call.perform controller outside).history = after at hpushed hamended
  cases hamended with
  | kept => exact absurd hpushed (Nat.lt_irrefl _)
  | appended hcommits _ => exact hcommits
  | @cut index _ =>
      rw [← History.length_entries, ← History.length_entries, History.entries_truncate] at hpushed
      exact absurd hpushed (Nat.not_lt.2 (List.length_take_le' _ _))
  | restarted _ => exact absurd hpushed (Nat.not_lt.2 (Nat.le_add_left _ _))

theorem exists_commit_of_pushed
    (hpushed : controller.history.length < (call.perform controller outside).history.length) :
    ∃ bank description, call.outcome controller outside =
      ((controller.withBank bank).commit outside description
        (.between controller.current.state bank.save)).map Reply.changed := by
  obtain ⟨outcome, houtcome, hsettles⟩ :=
    settles_outcome (commits_of_pushed hpushed) controller outside
  rw [← Call.controller_outcome, houtcome] at hpushed
  cases hsettles with
  | committed _ _ _ description => exact ⟨_, description, houtcome⟩
  | kept _ hhistory =>
      rw [Outcome.map, hhistory] at hpushed
      exact absurd hpushed (Nat.lt_irrefl _)

end Settles

end Controller

end TransitionEngine
