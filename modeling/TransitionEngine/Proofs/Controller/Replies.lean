import TransitionEngine.Proofs.Controller.Calls
import TransitionEngine.Proofs.Rule.Checking
import TransitionEngine.Proofs.Rule.Reporting

/-!
# Replies

A call replies with a result of its own kind, or with an error. When the variables can be set as a
call wants them, whatever error there is was raised by the code of the model, a domain or a check,
or by the error hook.
-/

namespace TransitionEngine

variable {Outside α β : Type}

/-- What a call that succeeds has to say. -/
inductive Reply where
  | done
  | changed (changes : Changeset)
  | wouldChange (changes? : Option Changeset)
  | held (holds : Bool)

namespace Outcome

def map (f : α → β) (outcome : Outcome Outside α) : Outcome Outside β :=
  ⟨outcome.result.map f, outcome.controller, outcome.notices⟩

/-- Every error of the outcome is one of these. -/
def FailsOnly (allowed : EngineError → Prop) (outcome : Outcome Outside α) : Prop :=
  ∀ error, outcome.result = .error error → allowed error

variable {allowed : EngineError → Prop}

theorem FailsOnly.map {outcome : Outcome Outside α} (hfails : outcome.FailsOnly allowed)
    (f : α → β) : (outcome.map f).FailsOnly allowed :=
  fun error herror => hfails error (Success.map_eq_error_iff.1 herror)

theorem FailsOnly.andThen {outcome : Outcome Outside α}
    {next : α → Controller Outside → Outcome Outside β} (hfirst : outcome.FailsOnly allowed)
    (hnext : ∀ result, (next result outcome.controller).FailsOnly allowed) :
    (outcome.andThen next).FailsOnly allowed := by
  intro error herror
  unfold Outcome.andThen at herror
  split at herror
  · rename_i hfailed
    obtain rfl := Except.error.inj herror
    exact hfirst _ hfailed
  · exact hnext _ error herror

end Outcome

/-- The call with its reply and its notices. -/
def Call.outcome (call : Call Outside) (controller : Controller Outside) (outside : Outside) :
    Outcome Outside Reply :=
  match call with
  | .fire id => (controller.fire outside id).map .changed
  | .fireByName name => (controller.fireByName outside name).map .changed
  | .tryChangeState mutator => (controller.tryChangeState outside mutator).map .changed
  | .wouldChangeState mutator => (controller.wouldChangeState outside mutator).map .wouldChange
  | .wouldFire id => (controller.wouldFire outside id).map .wouldChange
  | .restore index => (controller.restore outside index).map .held
  | .restoreState state => (controller.restoreState outside state).map fun _ => .done
  | .resetToStartingState => (controller.resetToStartingState outside).map fun _ => .done
  | .checkInvariants => (controller.checkInvariants outside).map .held

@[simp]
theorem Call.controller_outcome (call : Call Outside) (controller : Controller Outside)
    (outside : Outside) :
    (call.outcome controller outside).controller = call.perform controller outside := by
  cases call <;> rfl

namespace Controller

/-- The error is that of the domain of a family on this bank. -/
def DomainFails (controller : Controller Outside) (outside : Outside) (bank : Bank)
    (error : EngineError) : Prop :=
  ∃ ruleset ∈ controller.rulesets, ∃ domain effect, ruleset.body = .family domain effect ∧
    ((domain outside).run bank ∅).outcome = .error error

/-- The error comes from the check of an invariant on this bank, or from the error hook. -/
def CheckFails (controller : Controller Outside) (outside : Outside) (bank : Bank)
    (error : EngineError) : Prop :=
  (∃ invariant ∈ controller.invariants,
      ((invariant.check outside).run bank ∅).outcome = .error error) ∨
    ∃ message violation, controller.errorHook outside message violation = .error error

/-- The error comes from a domain or a check that is evaluated on this bank, or from the error
hook. -/
inductive Raises (controller : Controller Outside) (outside : Outside) (bank : Bank) :
    EngineError → Prop
  | domain {ruleset : Ruleset Outside} {domain : Outside → Query (List Value)}
      {effect : Nat → Outside → Effect Unit} {error : EngineError}
      (hmem : ruleset ∈ controller.rulesets) (hbody : ruleset.body = .family domain effect)
      (hfails : ((domain outside).run bank ∅).outcome = .error error) :
      Raises controller outside bank error
  | check {invariant : Invariant Outside} {error : EngineError}
      (hmem : invariant ∈ controller.invariants)
      (hfails : ((invariant.check outside).run bank ∅).outcome = .error error) :
      Raises controller outside bank error
  | hook {message : String} {violation : Violation} {error : EngineError}
      (hfails : controller.errorHook outside message violation = .error error) :
      Raises controller outside bank error

section Raises

variable {controller other : Controller Outside} {outside : Outside} {bank : Bank}

/-- A report fails only where a domain does. -/
theorem domainFails_of_reportChanges {changes : Changeset} {error : EngineError}
    (hfailed : (controller.reportChanges outside changes).result = .error error) :
    controller.DomainFails outside controller.bank error := by
  obtain ⟨ruleset, hmem, hreport⟩ := Ruleset.exists_report_of_reportAll hfailed
  exact ⟨ruleset, hmem, Ruleset.exists_outcome_of_report hreport⟩

theorem failsOnly_reportChanges (controller : Controller Outside) (outside : Outside)
    (changes : Changeset) :
    (controller.reportChanges outside changes).FailsOnly
      (controller.Raises outside controller.bank) := by
  intro error herror
  obtain ⟨ruleset, hmem, domain, effect, hbody, hfails⟩ := domainFails_of_reportChanges herror
  exact .domain hmem hbody hfails

theorem checkFails_of_checkInvariants {error : EngineError}
    (hfailed : (controller.checkInvariants outside).result = .error error) :
    controller.CheckFails outside controller.bank error := by
  unfold checkInvariants at hfailed
  split at hfailed
  · cases hfailed
  · rename_i failure invariants hcheck
    obtain rfl := Except.error.inj hfailed
    exact .inl (Invariant.exists_outcome_of_checkAll_failed (congrArg Prod.fst hcheck))
  · rename_i name violation invariants hcheck
    dsimp only at hfailed
    cases hhook : controller.errorHook outside
        ("Failed invariant " ++ name ++ ": " ++ violation.message) violation with
    | error failure =>
        rw [hhook] at hfailed
        obtain rfl := Except.error.inj hfailed
        exact .inr ⟨_, violation, hhook⟩
    | ok _ =>
        rw [hhook] at hfailed
        cases hfailed

theorem failsOnly_checkInvariants (controller : Controller Outside) (outside : Outside) :
    (controller.checkInvariants outside).FailsOnly
      (controller.Raises outside controller.bank) := by
  intro error herror
  rcases checkFails_of_checkInvariants herror with ⟨invariant, hmem, hfails⟩ | ⟨_, _, hfails⟩
  · exact .check hmem hfails
  · exact .hook hfails

theorem Raises.of_same {error : EngineError} (hraises : other.Raises outside bank error)
    (hrulesets : other.rulesets = controller.rulesets)
    (hinvariants : other.invariants = controller.invariants)
    (hhook : other.errorHook = controller.errorHook) : controller.Raises outside bank error := by
  cases hraises with
  | domain hmem hbody hfails => exact .domain (hrulesets ▸ hmem) hbody hfails
  | check hmem hfails => exact .check (hinvariants ▸ hmem) hfails
  | hook hfails => exact .hook (hhook ▸ hfails)

/-- What is raised after a report of a change could have been raised before it. -/
theorem Raises.of_reportChanges {changes : Changeset} {error : EngineError}
    (hraises : (controller.reportChanges outside changes).controller.Raises outside bank error) :
    controller.Raises outside bank error := by
  cases hraises with
  | domain hmem hbody hfails =>
      rcases Ruleset.mem_reportAll hmem with hold | ⟨ruleset, hold, hreport⟩
      · exact .domain hold hbody hfails
      · rw [Ruleset.body_report hreport] at hbody
        exact .domain hold hbody hfails
  | check hmem hfails =>
      obtain ⟨invariant, hold, rfl⟩ := List.mem_map.1 hmem
      rw [Invariant.check_activateIf] at hfails
      exact .check hold hfails
  | hook hfails => exact .hook hfails

theorem restoreState_eq_reportChanges {state : SavedState}
    (hrestore : controller.bank.restore state = .ok bank) :
    controller.restoreState outside state =
      (controller.withBank bank).reportChanges outside .everything := by
  rw [restoreState, hrestore]

section Probing

variable {mutator : Effect Unit} {run : Run Unit}
  (hrun : mutator.run controller.bank ∅ = run)

include hrun

/-- A probe that changes nothing leaves the variables as the mutator does. -/
theorem wouldChangeState_of_unchanged
    (hsame : (Changeset.between controller.current.state run.bank.save).isEmpty = true) :
    controller.wouldChangeState outside mutator =
      ⟨run.outcome.map fun _ => none, controller.withBank run.bank, []⟩ := by
  rw [wouldChangeState, hrun]
  exact if_pos hsame

/-- A probe that changes something takes it back, and then reports that anything may have changed.
Only after a success does a failure of the report count. -/
theorem wouldChangeState_of_changed
    (hchanged : (Changeset.between controller.current.state run.bank.save).isEmpty = false)
    (hrestore : run.bank.restore controller.current.state = .ok bank) (outside : Outside) :
    ∃ notices, (∀ notice ∈ notices, ∃ rollback,
        ((controller.withBank bank).reportChanges outside .everything).result = .error rollback ∧
          notice = .logged (.probeRollbackFailed rollback)) ∧
      controller.wouldChangeState outside mutator =
        ⟨run.outcome.bind fun _ =>
            ((controller.withBank bank).reportChanges outside .everything).result.map fun _ =>
              some (.between controller.current.state run.bank.save),
          ((controller.withBank bank).reportChanges outside .everything).controller, notices⟩ := by
  have hrestored : (controller.withBank run.bank).restoreState outside controller.current.state =
      (controller.withBank bank).reportChanges outside .everything :=
    restoreState_eq_reportChanges hrestore
  rw [wouldChangeState, hrun]
  dsimp only
  rw [if_neg (by simpa using hchanged), hrestored]
  split
  · rename_i hsucceeded
    exact ⟨[], List.forall_mem_nil _, by rw [hsucceeded]; rfl⟩
  · rename_i hfailed _
    exact ⟨[], List.forall_mem_nil _, by rw [hfailed]; rfl⟩
  · rename_i rollback hfailed hrollback
    refine ⟨_, List.forall_mem_singleton.2 ⟨rollback, hrollback, rfl⟩, ?_⟩
    rw [hfailed]
    rfl

end Probing

/-- When the entry can be restored, only code can fail. -/
theorem failsOnly_restore {index : Nat} (hindex : index < controller.history.length)
    (hrestore : controller.bank.restore (controller.history.truncate index).current.state =
      .ok bank) :
    (controller.restore outside index).FailsOnly (controller.Raises outside bank) := by
  have hrestored : ({ controller with history := controller.history.truncate index } :
      Controller Outside).restoreState outside (controller.history.truncate index).current.state =
        _ := restoreState_eq_reportChanges hrestore
  rw [restore, if_pos hindex]
  dsimp only
  rw [hrestored]
  refine .andThen (fun error herror => ?_) fun _ error herror => ?_
  · have hraises := failsOnly_reportChanges _ outside .everything error herror
    exact Raises.of_same hraises rfl rfl rfl
  · have hraises := failsOnly_checkInvariants _ outside error herror
    exact Raises.of_same (Raises.of_reportChanges hraises) rfl rfl rfl

end Raises

end Controller

end TransitionEngine
