import TransitionEngine.Controller.Operations

/-!
# Building a controller
-/

namespace TransitionEngine

variable {Outside : Type}

structure ControllerSetup (Outside : Type) where
  config : ControllerConfig
  errorHook : ErrorHook Outside
  views : List String

namespace ControllerSetup

def standard : ControllerSetup Outside :=
  ⟨.standard, .refuse, []⟩

/-- The controller before its rulesets are made, with the live state as its history. -/
def start (setup : ControllerSetup Outside) (model : Model Outside) : Controller Outside :=
  { model
    config := setup.config
    errorHook := setup.errorHook
    views := setup.views
    invariants := model.invariants.map Invariant.ofDeclaration
    rulesets := []
    history := .start "Initial state" model.bank.save
    invariantsHold := true }

def withRulesets (controller : Controller Outside) (outside : Outside) :
    Built (Controller Outside) :=
  match controller.model.rules.mapM (Ruleset.ofDeclaration · outside controller.bank) with
  | .error error => ⟨.error error, []⟩
  | .ok rulesets =>
      ⟨.ok { controller with rulesets },
        [.logged (.controllerReady rulesets.length controller.invariants.length)]⟩

/-- Checks the configuration, then the invariants unless told not to, then makes the rulesets. -/
def build (setup : ControllerSetup Outside) (model : Model Outside) (outside : Outside) :
    Built (Controller Outside) :=
  match setup.config.validate with
  | .error error => ⟨.error error, []⟩
  | .ok () =>
      let controller := setup.start model
      let checked : Outcome Outside Bool :=
        if setup.config.checksOnLoad then controller.checkInvariants outside
        else ⟨.ok true, controller, []⟩
      match checked.result with
      | .error error => ⟨.error error, checked.notices⟩
      | .ok _ =>
          let built := withRulesets checked.controller outside
          { built with notices := checked.notices ++ built.notices }

end ControllerSetup

end TransitionEngine
