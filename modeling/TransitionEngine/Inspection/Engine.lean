import TransitionEngine.Controller.Basic
import TransitionEngine.Inspection.Values

/-!
# Inspecting models and controllers

The text in which a developer sees a model or a controller. Effects, domains and checks are not shown.
-/

namespace TransitionEngine

open Text

variable {Outside : Type}

def NameSet.inspect (set : NameSet) : String :=
  setOf (set.names.map literal)

def RuleBody.inspect : RuleBody Outside → String
  | .single _ => "RuleDecl::Simple"
  | .family _ _ => "RuleDecl::Parameterized"

def Model.inspect (model : Model Outside) : String :=
  let rules := model.rules.map fun rule =>
    call "" (literal rule.name ++ ", " ++ rule.body.inspect)
  structureOf "Module"
    [("vars", model.bank.inspect), ("rules", listOf rules),
      ("invariants", listOf (model.invariants.map fun invariant => literal invariant.name)),
      ("has_init", truth model.init?.isSome)]

def Rule.inspect (rule : Rule Outside) : String :=
  structureBeginning "Rule"
    [("name", literal rule.name), ("active", truth rule.isActive),
      ("readset", optional (rule.readset.map NameSet.inspect))]

def Ruleset.inspect (ruleset : Ruleset Outside) : String :=
  structureOf "Ruleset"
    [("name", literal ruleset.name), ("parameterized", truth ruleset.isFamily),
      ("rules", listOf (ruleset.rules.map Rule.inspect)), ("readset", ruleset.readset.inspect)]

def Invariant.inspect (invariant : Invariant Outside) : String :=
  structureBeginning "Invariant"
    [("name", literal invariant.name), ("active", truth invariant.isActive),
      ("readset", optional (invariant.readset.map NameSet.inspect))]

def ControllerConfig.inspect (config : ControllerConfig) : String :=
  structureOf "ControllerConfig"
    [("check_invariants_on_load", truth config.checksOnLoad),
      ("default_message", literal config.defaultMessage)]

namespace Controller

def inspectRulesets (controller : Controller Outside) : String :=
  listOf (controller.rulesets.map Ruleset.inspect)

def inspectInvariants (controller : Controller Outside) : String :=
  listOf (controller.invariants.map Invariant.inspect)

def inspect (controller : Controller Outside) : String :=
  structureBeginning "Controller"
    [("config", controller.config.inspect), ("rulesets", controller.inspectRulesets),
      ("invariants", controller.inspectInvariants),
      ("history_len", toString controller.history.length),
      ("views", toString controller.views.length),
      ("invariants_hold", truth controller.invariantsHold)]

end Controller

end TransitionEngine
