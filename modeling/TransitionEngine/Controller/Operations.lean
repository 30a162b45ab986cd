import TransitionEngine.Controller.Basic

/-!
# Operations of a controller

A change that succeeds and leaves another state behind is committed: it is appended to the history,
reported to the rules and invariants that it may concern, and checked against the invariants; then the
views are updated. Every later part is left out when one before it fails, but the commit stands.
-/

namespace TransitionEngine.Controller

variable {Outside : Type}

/-- Wakes what the change touches, and regenerates the families whose domain it touches. -/
def reportChanges (controller : Controller Outside) (outside : Outside) (changes : Changeset) :
    Outcome Outside Unit :=
  let (result, rulesets) :=
    Ruleset.reportAll changes outside controller.bank controller.rulesets
  { result
    controller := { controller with
      invariants := controller.invariants.map (Invariant.activateIf changes)
      rulesets }
    notices := [] }

/-- Sets the variables to a state, after which anything may have changed. -/
def restoreState (controller : Controller Outside) (outside : Outside) (state : SavedState) :
    Outcome Outside Unit :=
  match controller.bank.restore state with
  | .error error => ⟨.error (.value error), controller, []⟩
  | .ok bank => (controller.withBank bank).reportChanges outside .everything

/-- Checks the active invariants in order up to the first violation, which goes to the sink and then
to the error hook. The result is whether all of them held. -/
def checkInvariants (controller : Controller Outside) (outside : Outside) :
    Outcome Outside Bool :=
  match Invariant.checkAll outside controller.bank controller.invariants with
  | (.held, invariants) => ⟨.ok true, { controller with invariants, invariantsHold := true }, []⟩
  | (.failed error, invariants) => ⟨.error error, { controller with invariants }, []⟩
  | (.violated name violation, invariants) =>
      let message := "Failed invariant " ++ name ++ ": " ++ violation.message
      { result := (controller.errorHook outside message violation).map fun _ => false
        controller := { controller with invariants, invariantsHold := false }
        notices :=
          [.event (.invariantFailed name message), .errorHookCalled message violation] }

def updateViews (controller : Controller Outside) : Outcome Outside Unit :=
  ⟨.ok (), controller, controller.viewNotices⟩

def commit (controller : Controller Outside) (outside : Outside) (description : String)
    (changes : Changeset) : Outcome Outside Changeset :=
  let message := description ++ " (changed " ++ changes.display ++ ")"
  let event := EventPayload.ofCommit controller.history.length message changes
  let committed := { controller with
    history := controller.history.push message controller.saveState }
  let outcome := (committed.reportChanges outside changes).andThen fun _ controller =>
    (controller.checkInvariants outside).andThen fun _ controller =>
      controller.updateViews.andThen fun _ controller => ⟨.ok changes, controller, []⟩
  { outcome with notices := .event event :: outcome.notices }

/-- Takes over what a mutator came to: commits the state it left when that is another one. After a
failure the variables go back to the current state. -/
def settle (controller : Controller Outside) (outside : Outside) (run : Run (Option String)) :
    Outcome Outside Changeset :=
  match run.outcome with
  | .error error =>
      match run.bank.restore controller.current.state with
      | .ok bank => ⟨.error error, controller.withBank bank, []⟩
      | .error rollback =>
          ⟨.error error, controller.withBank run.bank,
            [.logged (.mutatorRollbackFailed rollback)]⟩
  | .ok description =>
      let changes := Changeset.between controller.current.state run.bank.save
      let changed := controller.withBank run.bank
      if changes.isEmpty then ⟨.ok changes, changed, []⟩
      else changed.commit outside (description.getD controller.config.defaultMessage) changes

def tryChangeState (controller : Controller Outside) (outside : Outside)
    (mutator : Effect (Option String)) : Outcome Outside Changeset :=
  controller.settle outside (mutator.run controller.bank ∅)

/-- What a mutator would change. A change is taken back by restoring the current state. -/
def wouldChangeState (controller : Controller Outside) (outside : Outside)
    (mutator : Effect Unit) : Outcome Outside (Option Changeset) :=
  let run := mutator.run controller.bank ∅
  let changes := Changeset.between controller.current.state run.bank.save
  let changed := controller.withBank run.bank
  if changes.isEmpty then ⟨run.outcome.map fun _ => none, changed, []⟩
  else
    let rolledBack := changed.restoreState outside controller.current.state
    match run.outcome, rolledBack.result with
    | .ok (), result => { rolledBack with result := result.map fun _ => some changes }
    | .error error, .ok () => { rolledBack with result := .error error }
    | .error error, .error rollback =>
        { rolledBack with
          result := .error error
          notices := rolledBack.notices ++ [.logged (.probeRollbackFailed rollback)] }

/-- Puts the model back to its starting state, with a history of that one entry. The invariants are
not checked. -/
def resetToStartingState (controller : Controller Outside) (outside : Outside) :
    Outcome Outside Unit :=
  match controller.model.reset outside with
  | .error error => ⟨.error error, controller, []⟩
  | .ok model =>
      let restarted := { controller with model, history := .start "Reset" model.bank.save }
      let outcome := (restarted.reportChanges outside .everything).andThen fun _ controller =>
        ⟨.ok (), controller, .event .reset :: controller.viewNotices⟩
      { outcome with notices := .resetHookCalled :: outcome.notices }

/-- Goes back to an entry of the history and drops every later one. The result is that of the check
of the restored state. -/
def restore (controller : Controller Outside) (outside : Outside) (index : Nat) :
    Outcome Outside Bool :=
  if index < controller.history.length then
    let history := controller.history.truncate index
    let rewound := { controller with history }
    (rewound.restoreState outside history.current.state).andThen fun _ controller =>
      let outcome := controller.checkInvariants outside
      { outcome with
        notices := .event (.restored index) :: controller.viewNotices ++ outcome.notices }
  else ⟨.error (.snapshotOutOfRange index controller.history.length), controller, []⟩

/-- Fires a rule: its effect is tried as a change described by its name, and when it changed nothing
the rule goes to sleep on what it read. -/
def fire (controller : Controller Outside) (outside : Outside) (id : RuleId) :
    Outcome Outside Changeset :=
  match controller.rule id with
  | .error error => ⟨.error error, controller, []⟩
  | .ok rule =>
      let run := (rule.effect outside).run controller.bank ∅
      let described := { run with outcome := run.outcome.map fun _ => some rule.name }
      (controller.settle outside described).andThen fun changes controller =>
        if changes.isEmpty then
          ⟨.ok changes, controller.sleepRule id run.readset,
            [.logged (.ruleIneffective rule.name)]⟩
        else ⟨.ok changes, controller, []⟩

def fireByName (controller : Controller Outside) (outside : Outside) (name : String) :
    Outcome Outside Changeset :=
  match controller.ruleId? name with
  | none => ⟨.error (.unknownRule name), controller, []⟩
  | some id => controller.fire outside id

def wouldFire (controller : Controller Outside) (outside : Outside) (id : RuleId) :
    Outcome Outside (Option Changeset) :=
  match controller.rule id with
  | .error error => ⟨.error error, controller, []⟩
  | .ok rule => controller.wouldChangeState outside (rule.effect outside)

end TransitionEngine.Controller
