import TransitionEngine.Proofs.Controller.Replies
import TransitionEngine.Proofs.Controller.Steps

/-!
# What operations give notice of

An operation leaves the history alone, appends to it, goes back to an entry of it or starts it anew.
Which of these it did can be told from its notices, as long as the domains of the families succeed:
then all that can come between the change of the history and its notice is a check that fails after
a commit, or an entry that does not decode.
-/

namespace TransitionEngine

variable {Outside α β : Type}

/-- All that can be done to a controller that was built. -/
inductive Operation (Outside : Type) where
  | call (call : Call Outside)
  | reportChanges (changes : Changeset)
  | setErrorHook (hook : ErrorHook Outside)
  | addView (view : String)

namespace Operation

def outcome (operation : Operation Outside) (controller : Controller Outside) (outside : Outside) :
    Outcome Outside Reply :=
  match operation with
  | .call made => made.outcome controller outside
  | .reportChanges changes => (controller.reportChanges outside changes).map fun _ => .done
  | .setErrorHook errorHook => ⟨.ok .done, { controller with errorHook }, []⟩
  | .addView view => ⟨.ok .done, { controller with views := controller.views ++ [view] }, []⟩

/-- Whether the operation commits what it changes. -/
def commits : Operation Outside → Bool
  | .call (.fire _) | .call (.fireByName _) | .call (.tryChangeState _) => true
  | _ => false

/-- Whether the operation goes back to an entry of the history, or starts it anew. -/
def rewrites : Operation Outside → Bool
  | .call (.restore _) | .call .resetToStartingState => true
  | _ => false

theorem rewrites_of_commits {operation : Operation Outside} (hcommits : operation.commits = true) :
    operation.rewrites = false := by
  unfold commits at hcommits
  split at hcommits <;> first | rfl | cases hcommits

/-- On the variables that the operation leaves, the domain of every family can be evaluated. -/
def DomainsSucceed (operation : Operation Outside) (controller : Controller Outside)
    (outside : Outside) : Prop :=
  ∀ ruleset ∈ controller.rulesets,
    ruleset.body.DomainSucceeds (· = (operation.outcome controller outside).controller.bank)

end Operation

/-- The controllers that operations lead to, each of them permitted where it is performed, with the
notices that were given on the way. -/
inductive Proceeds (permitted : Operation Outside → Controller Outside → Outside → Prop)
    (start : Controller Outside) : Controller Outside → List Notice → Prop
  | start : Proceeds permitted start start []
  | perform {controller : Controller Outside} {notices : List Notice}
      (hproceeds : Proceeds permitted start controller notices) (operation : Operation Outside)
      (outside : Outside) (hpermitted : permitted operation controller outside) :
      Proceeds permitted start (operation.outcome controller outside).controller
        (notices ++ (operation.outcome controller outside).notices)

/-- The notice does not tell of a change of the history. -/
def Notice.IsAside : Notice → Prop
  | .event (.invariantFailed _ _) | .errorHookCalled _ _ | .logged _ => True
  | .event (.committed _ _ _) | .event .reset | .event (.restored _) | .resetHookCalled
  | .viewUpdated _ _ => False

namespace Outcome

variable {outcome : Outcome Outside α} {next : α → Controller Outside → Outcome Outside β}

theorem andThen_of_ok {value : α} (hresult : outcome.result = .ok value) :
    outcome.andThen next =
      { next value outcome.controller with
        notices := outcome.notices ++ (next value outcome.controller).notices } := by
  rw [andThen, hresult]

theorem andThen_of_error {error : EngineError} (hresult : outcome.result = .error error) :
    outcome.andThen next = ⟨.error error, outcome.controller, outcome.notices⟩ := by
  rw [andThen, hresult]

end Outcome

namespace Controller

/-- One notice to each view, with this history. -/
def showing (controller : Controller Outside) (history : History) : List Notice :=
  controller.views.map (.viewUpdated · history)

/-- What an operation came to, the history it left, and its notices. -/
inductive Accounts (controller : Controller Outside) (operation : Operation Outside) :
    Except EngineError α → History → List Notice → Prop
  | silent {result : Except EngineError α} {notices : List Notice}
      (hnotices : ∀ notice ∈ notices, notice.IsAside)
      (hrestore : ∀ index, operation = .call (.restore index) → controller.history.length ≤ index)
      (hreset : operation = .call .resetToStartingState → ∃ error, result = .error error) :
      Accounts controller operation result controller.history notices
  | committed {reply : α} {bank : Bank} {message : String} {asides : List Notice}
      (hcommits : operation.commits = true) (hasides : ∀ notice ∈ asides, notice.IsAside) :
      Accounts controller operation (.ok reply) (controller.history.push message bank.save)
        (.event (.ofCommit controller.history.length message
            (.between controller.current.state bank.save)) ::
          (asides ++ controller.showing (controller.history.push message bank.save)))
  | interrupted {error : EngineError} {bank : Bank} {message : String} {asides : List Notice}
      (hcommits : operation.commits = true) (hasides : ∀ notice ∈ asides, notice.IsAside) :
      Accounts controller operation (.error error) (controller.history.push message bank.save)
        (.event (.ofCommit controller.history.length message
          (.between controller.current.state bank.save)) :: asides)
  | restarted {reply : α} {bank : Bank} (hreset : operation = .call .resetToStartingState) :
      Accounts controller operation (.ok reply) (.start "Reset" bank.save)
        (.resetHookCalled :: .event .reset :: controller.showing (.start "Reset" bank.save))
  | rewound {result : Except EngineError α} {index : Nat} {asides : List Notice}
      (hrestore : operation = .call (.restore index)) (hindex : index < controller.history.length)
      (hdecodes : controller.bank.Decodes (controller.history.truncate index).current.state)
      (hasides : ∀ notice ∈ asides, notice.IsAside) :
      Accounts controller operation result (controller.history.truncate index)
        (.event (.restored index) ::
          (controller.showing (controller.history.truncate index) ++ asides))
  | stranded {error : EngineError} {index : Nat}
      (hrestore : operation = .call (.restore index)) (hindex : index < controller.history.length)
      (hstuck : ¬controller.bank.Decodes (controller.history.truncate index).current.state) :
      Accounts controller operation (.error error) (controller.history.truncate index) []

/-- The outcome of the operation is accounted for. -/
abbrev AccountsFor (controller : Controller Outside) (operation : Operation Outside)
    (outcome : Outcome Outside α) : Prop :=
  controller.Accounts operation outcome.result outcome.controller.history outcome.notices

section Accounts

variable {controller : Controller Outside} {outside : Outside} {operation : Operation Outside}

theorem Accounts.map {result : Except EngineError α} {history : History} {notices : List Notice}
    (haccounts : controller.Accounts operation result history notices) (f : α → β) :
    controller.Accounts operation (result.map f) history notices := by
  cases haccounts with
  | silent hnotices hrestore hreset =>
      refine .silent hnotices hrestore fun hcall => ?_
      obtain ⟨error, rfl⟩ := hreset hcall
      exact ⟨error, rfl⟩
  | committed hcommits hasides => exact .committed hcommits hasides
  | interrupted hcommits hasides => exact .interrupted hcommits hasides
  | restarted hreset => exact .restarted hreset
  | rewound hrestore hindex hdecodes hasides => exact .rewound hrestore hindex hdecodes hasides
  | stranded hrestore hindex hstuck => exact .stranded hrestore hindex hstuck

/-- An operation that keeps the history is silent about it. -/
theorem AccountsFor.of_kept {outcome : Outcome Outside α} (hrewrites : operation.rewrites = false)
    (hhistory : outcome.controller.history = controller.history)
    (hnotices : ∀ notice ∈ outcome.notices, notice.IsAside) :
    controller.AccountsFor operation outcome := by
  rw [AccountsFor, hhistory]
  refine .silent hnotices (fun index hcall => ?_) fun hcall => ?_
  · rw [hcall] at hrewrites
    cases hrewrites
  · rw [hcall] at hrewrites
    cases hrewrites

/-! ### The parts of operations -/

@[simp]
theorem history_checkInvariants (controller : Controller Outside) (outside : Outside) :
    (controller.checkInvariants outside).controller.history = controller.history :=
  congrArg Core.history (core_checkInvariants controller outside)

@[simp]
theorem views_checkInvariants (controller : Controller Outside) (outside : Outside) :
    (controller.checkInvariants outside).controller.views = controller.views := by
  obtain ⟨holds, hchecked⟩ := controller_checkInvariants controller outside
  rw [hchecked]

theorem isAside_checkInvariants (controller : Controller Outside) (outside : Outside) :
    ∀ notice ∈ (controller.checkInvariants outside).notices, notice.IsAside := by
  unfold checkInvariants
  split
  · exact List.forall_mem_nil _
  · exact List.forall_mem_nil _
  · exact List.forall_mem_cons.2 ⟨trivial, List.forall_mem_singleton.2 trivial⟩

theorem result_reportChanges (hdomains : ∀ ruleset ∈ controller.rulesets,
    ruleset.body.DomainSucceeds (· = controller.bank)) (outside : Outside) (changes : Changeset) :
    (controller.reportChanges outside changes).result = .ok () := by
  cases hresult : (controller.reportChanges outside changes).result with
  | ok _ => rfl
  | error error =>
      obtain ⟨ruleset, hmem, domain, effect, hbody, hfails⟩ := domainFails_of_reportChanges hresult
      have hdomain := hdomains ruleset hmem
      rw [hbody] at hdomain
      obtain ⟨elements, hsucceeds⟩ := hdomain outside controller.bank rfl
      rw [hfails] at hsucceeds
      cases hsucceeds

/-- Where the domains succeed, whatever follows a report goes on in silence. -/
theorem andThen_reportChanges (hdomains : ∀ ruleset ∈ controller.rulesets,
      ruleset.body.DomainSucceeds (· = controller.bank)) {changes : Changeset}
    {next : Unit → Controller Outside → Outcome Outside α} :
    (controller.reportChanges outside changes).andThen next =
      next () (controller.reportChanges outside changes).controller := by
  rw [Outcome.andThen_of_ok (result_reportChanges hdomains outside changes)]
  rfl

/-- After the commit stands, only the check can keep it from being shown. -/
theorem commit_cases (hdomains : ∀ ruleset ∈ controller.rulesets,
      ruleset.body.DomainSucceeds (· = controller.bank)) (description : String)
    (changes : Changeset) :
    ∃ reached asides message, (∀ notice ∈ asides, notice.IsAside) ∧
      reached.views = controller.views ∧
      reached.history = controller.history.push message controller.saveState ∧
      let event : Notice := .event (.ofCommit controller.history.length message changes)
      ((∃ error, controller.commit outside description changes =
          ⟨.error error, reached, event :: asides⟩) ∨
        controller.commit outside description changes =
          ⟨.ok changes, reached, event :: (asides ++ reached.viewNotices)⟩) := by
  rw [commit]
  generalize description ++ " (changed " ++ changes.display ++ ")" = message
  dsimp only
  rw [andThen_reportChanges]
  · generalize hreported : (Controller.reportChanges _ outside changes).controller = reported
    refine ⟨(reported.checkInvariants outside).controller, _, message,
      isAside_checkInvariants reported outside, ?_, ?_, ?_⟩
    · rw [views_checkInvariants, ← hreported]
      rfl
    · rw [history_checkInvariants, ← hreported]
      rfl
    · cases hchecked : (reported.checkInvariants outside).result with
      | error error =>
          rw [Outcome.andThen_of_error hchecked]
          exact .inl ⟨error, rfl⟩
      | ok held =>
          rw [Outcome.andThen_of_ok hchecked, updateViews, Outcome.andThen]
          dsimp only
          rw [List.append_nil]
          exact .inr rfl
  · exact hdomains

@[simp]
theorem bank_commit (controller : Controller Outside) (bank : Bank) (outside : Outside)
    (description : String) (changes : Changeset) :
    ((controller.withBank bank).commit outside description changes).controller.bank = bank :=
  congrArg Core.bank (core_commit (controller.withBank bank) outside description changes)

theorem accounts_commit {bank : Bank} (hcommits : operation.commits = true)
    (hdomains : ∀ ruleset ∈ controller.rulesets, ruleset.body.DomainSucceeds (· = bank))
    (outside : Outside) (description : String) :
    controller.AccountsFor operation <| (controller.withBank bank).commit outside description
      (.between controller.current.state bank.save) := by
  obtain ⟨reached, asides, message, hasides, hviews, hhistory, hcases⟩ :=
    commit_cases (show ∀ ruleset ∈ (controller.withBank bank).rulesets, _ from hdomains) description
      (.between controller.current.state bank.save)
  have hshown : reached.viewNotices = controller.showing reached.history := by
    rw [viewNotices, hviews]
    rfl
  rw [AccountsFor]
  rcases hcases with ⟨error, hcommit⟩ | hcommit
  · rw [hcommit, hhistory]
    exact .interrupted hcommits hasides
  · rw [hcommit, hshown, hhistory]
    exact .committed hcommits hasides

/-! ### The operations -/

theorem accounts_settle {run : Run (Option String)} (hcommits : operation.commits = true)
    (hdomains : ∀ ruleset ∈ controller.rulesets,
      ruleset.body.DomainSucceeds (· = (controller.settle outside run).controller.bank)) :
    controller.AccountsFor operation (controller.settle outside run) := by
  have hrewrites := Operation.rewrites_of_commits hcommits
  cases houtcome : run.outcome with
  | error error =>
      rw [settle, houtcome]
      dsimp only
      split
      · exact .of_kept hrewrites rfl (List.forall_mem_nil _)
      · exact .of_kept hrewrites rfl (List.forall_mem_singleton.2 trivial)
  | ok description =>
      cases hsame : (Changeset.between controller.current.state run.bank.save).isEmpty with
      | true =>
          rw [settle_of_unchanged houtcome hsame]
          exact .of_kept hrewrites rfl (List.forall_mem_nil _)
      | false =>
          rw [settle_of_changed houtcome hsame] at hdomains ⊢
          rw [bank_commit] at hdomains
          exact accounts_commit hcommits hdomains outside _

theorem accounts_fire {id : RuleId} (hcommits : operation.commits = true)
    (hdomains : ∀ ruleset ∈ controller.rulesets,
      ruleset.body.DomainSucceeds (· = (controller.fire outside id).controller.bank)) :
    controller.AccountsFor operation (controller.fire outside id) := by
  have hrewrites := Operation.rewrites_of_commits hcommits
  cases hrule : controller.rule? id with
  | none =>
      rw [fire, rule, hrule]
      exact .of_kept hrewrites rfl (List.forall_mem_nil _)
  | some rule =>
      generalize hrun : (rule.effect outside).run controller.bank ∅ = run
      cases hsucceeded : run.outcome with
      | error error =>
          rw [fire_of_failed hrule hrun hsucceeded] at hdomains ⊢
          exact accounts_settle hcommits hdomains
      | ok _ =>
          cases hsame : (Changeset.between controller.current.state run.bank.save).isEmpty with
          | true =>
              rw [fire_of_unchanged hrule hrun hsucceeded hsame]
              exact .of_kept hrewrites rfl (List.forall_mem_singleton.2 trivial)
          | false =>
              rw [fire_of_changed hrule hrun hsucceeded hsame] at hdomains ⊢
              rw [bank_commit] at hdomains
              exact accounts_commit hcommits hdomains outside _

theorem restoreState_of_error {state : SavedState} {error : ValueError}
    (hrestore : controller.bank.restore state = .error error) :
    controller.restoreState outside state = ⟨.error (.value error), controller, []⟩ := by
  rw [restoreState, hrestore]

theorem restoreState_keeps (controller : Controller Outside) (outside : Outside)
    (state : SavedState) :
    (controller.restoreState outside state).controller.history = controller.history ∧
      (controller.restoreState outside state).notices = [] := by
  rw [restoreState]
  split <;> exact ⟨rfl, rfl⟩

theorem accounts_wouldChangeState (hrewrites : operation.rewrites = false)
    (mutator : Effect Unit) :
    controller.AccountsFor operation (controller.wouldChangeState outside mutator) := by
  rw [wouldChangeState]
  generalize mutator.run controller.bank ∅ = run
  obtain ⟨hhistory, hnotices⟩ :=
    restoreState_keeps (controller.withBank run.bank) outside controller.current.state
  dsimp only
  split
  · exact .of_kept hrewrites rfl (List.forall_mem_nil _)
  · split
    · exact .of_kept hrewrites hhistory (by simp [hnotices])
    · exact .of_kept hrewrites hhistory (by simp [hnotices])
    · exact .of_kept hrewrites hhistory (by simp [hnotices, Notice.IsAside])

theorem bank_resetToStartingState (hinit : (controller.runInit outside).outcome = .ok ()) :
    (controller.resetToStartingState outside).controller.bank =
      (controller.runInit outside).bank :=
  congrArg Core.bank (core_resetToStartingState hinit)

theorem accounts_resetToStartingState
    (hdomains : ∀ ruleset ∈ controller.rulesets, ruleset.body.DomainSucceeds
      (· = (controller.resetToStartingState outside).controller.bank)) :
    controller.AccountsFor (.call .resetToStartingState)
      (controller.resetToStartingState outside) := by
  cases hinit : (controller.runInit outside).outcome with
  | error error =>
      rw [resetToStartingState, reset_model, hinit]
      exact .silent (List.forall_mem_nil _) (fun index hcall => by cases hcall)
        fun _ => ⟨error, rfl⟩
  | ok _ =>
      rw [bank_resetToStartingState hinit] at hdomains
      rw [resetToStartingState, reset_model, hinit]
      dsimp only [Except.map]
      rw [andThen_reportChanges]
      · exact .restarted rfl
      · exact hdomains

theorem bank_restore {index : Nat} (hindex : index < controller.history.length) {bank : Bank}
    (hrestore : controller.bank.restore (controller.history.truncate index).current.state =
      .ok bank) :
    (controller.restore outside index).controller.bank = bank := by
  change Core.bank (Controller.core (Outcome.controller _)) = _
  rw [core_restore controller outside hindex, hrestore]
  rfl

theorem accounts_restore {index : Nat}
    (hdomains : ∀ ruleset ∈ controller.rulesets, ruleset.body.DomainSucceeds
      (· = (controller.restore outside index).controller.bank)) :
    controller.AccountsFor (.call (.restore index)) (controller.restore outside index) := by
  by_cases hindex : index < controller.history.length
  · cases hrestore : controller.bank.restore (controller.history.truncate index).current.state with
    | error error =>
        have hstuck :
            ¬controller.bank.Decodes (controller.history.truncate index).current.state := by
          intro hdecodes
          obtain ⟨bank, hbank⟩ := Bank.exists_restore_iff.2 hdecodes
          rw [hrestore] at hbank
          cases hbank
        have hfailed : ({ controller with history := controller.history.truncate index } :
            Controller Outside).restoreState outside
              (controller.history.truncate index).current.state = _ :=
          restoreState_of_error hrestore
        rw [restore, if_pos hindex]
        dsimp only
        rw [hfailed]
        exact .stranded rfl hindex hstuck
    | ok bank =>
        have hdecodes := Bank.exists_restore_iff.1 ⟨bank, hrestore⟩
        rw [bank_restore hindex hrestore] at hdomains
        have hrestored : ({ controller with history := controller.history.truncate index } :
            Controller Outside).restoreState outside
              (controller.history.truncate index).current.state = _ :=
          restoreState_eq_reportChanges hrestore
        rw [restore, if_pos hindex]
        dsimp only
        rw [hrestored, andThen_reportChanges]
        · rw [AccountsFor, history_checkInvariants]
          exact .rewound rfl hindex hdecodes (isAside_checkInvariants _ outside)
        · exact hdomains
  · rw [restore, if_neg hindex]
    refine .silent (List.forall_mem_nil _) (fun other hcall => ?_) fun hcall => by cases hcall
    cases hcall
    exact Nat.not_lt.1 hindex

theorem accounts_call {call : Call Outside}
    (hdomains : (Operation.call call).DomainsSucceed controller outside) :
    controller.AccountsFor (.call call) (call.outcome controller outside) := by
  cases call with
  | fire id =>
      have hfired : controller.AccountsFor (.call (.fire id)) (controller.fire outside id) :=
        accounts_fire rfl hdomains
      exact hfired.map Reply.changed
  | fireByName name =>
      cases hname : controller.ruleId? name with
      | none =>
          rw [Call.outcome, fireByName, hname]
          exact .of_kept rfl rfl (List.forall_mem_nil _)
      | some id =>
          simp only [Operation.DomainsSucceed, Operation.outcome, Call.outcome, fireByName, hname]
            at hdomains ⊢
          have hfired : controller.AccountsFor (.call (.fireByName name))
              (controller.fire outside id) := accounts_fire rfl hdomains
          exact hfired.map Reply.changed
  | tryChangeState mutator =>
      have hsettled : controller.AccountsFor (.call (.tryChangeState mutator))
          (controller.tryChangeState outside mutator) := accounts_settle rfl hdomains
      exact hsettled.map Reply.changed
  | wouldChangeState mutator =>
      have hprobed : controller.AccountsFor (.call (.wouldChangeState mutator))
          (controller.wouldChangeState outside mutator) := accounts_wouldChangeState rfl mutator
      exact hprobed.map Reply.wouldChange
  | wouldFire id =>
      cases hrule : controller.rule? id with
      | none =>
          rw [Call.outcome, wouldFire, rule, hrule]
          exact .of_kept rfl rfl (List.forall_mem_nil _)
      | some rule =>
          rw [Call.outcome, wouldFire, Controller.rule, hrule]
          have hprobed : controller.AccountsFor (.call (.wouldFire id))
              (controller.wouldChangeState outside (rule.effect outside)) :=
            accounts_wouldChangeState rfl _
          exact hprobed.map Reply.wouldChange
  | restore index => exact (accounts_restore hdomains).map Reply.held
  | restoreState state =>
      obtain ⟨hhistory, hnotices⟩ := restoreState_keeps controller outside state
      have hrestored : controller.AccountsFor (.call (.restoreState state))
          (controller.restoreState outside state) := .of_kept rfl hhistory (by simp [hnotices])
      exact hrestored.map fun _ => Reply.done
  | resetToStartingState => exact (accounts_resetToStartingState hdomains).map fun _ => Reply.done
  | checkInvariants =>
      have hchecked : controller.AccountsFor (.call .checkInvariants)
          (controller.checkInvariants outside) :=
        .of_kept rfl (history_checkInvariants ..) (isAside_checkInvariants controller outside)
      exact hchecked.map Reply.held

/-- As long as the domains succeed, every operation accounts for what it did to the history. -/
theorem accounts_outcome {operation : Operation Outside}
    (hdomains : operation.DomainsSucceed controller outside) :
    controller.AccountsFor operation (operation.outcome controller outside) := by
  cases operation with
  | call call => exact accounts_call hdomains
  | reportChanges _ | setErrorHook _ | addView _ => exact .of_kept rfl rfl (List.forall_mem_nil _)

end Accounts

/-- There is something left in the cistern. -/
def notEmpty : Query Unit :=
  .read "level" fun held => .done <|
    if 0 < (held.toOption.bind Value.asNumber?).getD 0 then .ok ()
    else .error (.violation ⟨"nothing left"⟩)

/-- A cistern that is filled up, and drained of what is in it, which leaves too little. -/
def cistern : Model Unit where
  bank := ⟨[⟨"level", .range 0 9, false, .number 2⟩], by decide⟩
  rules := [⟨"fill", .single fun _ => Effect.overwrite "level" (.number 9)⟩,
    ⟨"drain", .family (fun _ => .read "level" fun held => .done (held.map fun level => [level]))
      fun _ _ => Effect.overwrite "level" (.number 0)⟩]
  invariants := [⟨"not empty", fun _ => notEmpty⟩]
  init? := none

end Controller

end TransitionEngine
