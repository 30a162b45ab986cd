import TransitionEngine.Proofs.Controller.Accounts
import TransitionEngine.Proofs.Controller.Freshness
import TransitionEngine.Proofs.Controller.Refusal
import TransitionEngine.Proofs.Controller.Rules

/-!
# Probing is neutral

A probe runs a mutator on the live variables to see what it would change, and then sets them back to
the current state. Whatever the mutator wrote and whether or not it failed, nothing that can be
observed of the controller has changed afterwards but the sleep of the rules: as anything may have
changed on the way, all of them are woken, and the families are regenerated.
-/

namespace TransitionEngine

variable {Outside : Type}

namespace Controller

/-- The state, the constants, the history and the outcome of the last check are as they were, and no
rule went to sleep. -/
structure IsUndisturbed (before after : Controller Outside) : Prop where
  saveState : after.saveState = before.saveState
  constant {name : String} {entry : Variable} (hget : before.bank.get? name = some entry)
    (hconstant : entry.isConstant = true) : after.bank.get? name = some entry
  history : after.history = before.history
  invariantsHold : after.invariantsHold = before.invariantsHold
  declaration :
    after.rulesets.map Ruleset.declaration = before.rulesets.map Ruleset.declaration
  active {id : RuleId} {rule other : Rule Outside} (hbefore : before.rule? id = some rule)
    (hactive : rule.isActive = true) (hafter : after.rule? id = some other) :
    other.isActive = true

/-- The error of the mutator comes first. After a success the probe says which names it would change,
if there are any, unless a domain fails on the variables that were set back. -/
structure Answers (controller : Controller Outside) (outside : Outside) (run : Run Unit)
    (probe : Outcome Outside (Option Changeset)) : Prop where
  failed {error : EngineError} (hfailed : run.outcome = .error error) : probe.result = .error error
  unchanged (hsucceeded : run.outcome = .ok ()) :
    probe.result = .ok none ↔ run.bank.save = controller.current.state
  changed (hsucceeded : run.outcome = .ok ())
    (hchanged : run.bank.save ≠ controller.current.state) :
    (∃ names, probe.result = .ok (some (.vars names)) ∧ ∀ name, name ∈ names ↔
        controller.current.state.get? name ≠ run.bank.save.get? name) ∨
      ∃ error, probe.result = .error error ∧
        controller.DomainFails outside probe.controller.bank error

variable {controller : Controller Outside} {outside : Outside} {bank : Bank}

theorem IsUndisturbed.reportChanges {before : Controller Outside}
    (hundisturbed : before.IsUndisturbed controller) (changes : Changeset) :
    before.IsUndisturbed (controller.reportChanges outside changes).controller where
  saveState := hundisturbed.saveState
  constant := hundisturbed.constant
  history := hundisturbed.history
  invariantsHold := hundisturbed.invariantsHold
  declaration := (Ruleset.map_declaration_reportAll ..).trans hundisturbed.declaration
  active {id rule other} hbefore hactive hafter := by
    by_contra hasleep
    have hslept : controller.core.rule? id = some other :=
      Core.rule?_of_report_asleep hafter (Bool.eq_false_iff.2 hasleep)
    exact hasleep (hundisturbed.active hbefore hactive hslept)

section Probe

variable (hlive : controller.saveState = controller.current.state)

include hlive

end Probe

end Controller

end TransitionEngine
