import TransitionEngine.Controller.Config
import TransitionEngine.Rule

/-!
# Controllers

A controller owns a model and is the one way in which its state moves forward. It keeps the history
of committed states, the rules with what they sleep on, and the invariants. An operation gives back
its result, the controller it leaves behind, also after a failure, and the notices of what happened.
-/

namespace TransitionEngine

/-- Gets the message of a failed invariant; its error fails the operation that ran the check. -/
abbrev ErrorHook (Outside : Type) := Outside → String → Violation → Except EngineError Unit

/-- The hook that fails every operation in which an invariant failed. -/
def ErrorHook.refuse {Outside : Type} : ErrorHook Outside := fun _ message violation =>
  .error (.invariantFailed message violation)

structure Controller (Outside : Type) where
  model : Model Outside
  config : ControllerConfig
  errorHook : ErrorHook Outside
  views : List String
  invariants : List (Invariant Outside)
  rulesets : List (Ruleset Outside)
  history : History
  /-- Whether the last check of the invariants found all of them to hold. -/
  invariantsHold : Bool

structure Outcome (Outside α : Type) where
  result : Except EngineError α
  controller : Controller Outside
  notices : List Notice

namespace Outcome

variable {Outside α β : Type}

/-- Goes on after a success, on the controller that was left. -/
def andThen (outcome : Outcome Outside α) (next : α → Controller Outside → Outcome Outside β) :
    Outcome Outside β :=
  match outcome.result with
  | .error error => ⟨.error error, outcome.controller, outcome.notices⟩
  | .ok result =>
      let following := next result outcome.controller
      { following with notices := outcome.notices ++ following.notices }

end Outcome

namespace Controller

variable {Outside : Type}

def bank (controller : Controller Outside) : Bank :=
  controller.model.bank

def withBank (controller : Controller Outside) (bank : Bank) : Controller Outside :=
  { controller with model := { controller.model with bank } }

/-- The entry of the history for the live state. -/
def current (controller : Controller Outside) : Snapshot :=
  controller.history.current

def saveState (controller : Controller Outside) : SavedState :=
  controller.bank.save

def rule? (controller : Controller Outside) (id : RuleId) : Option (Rule Outside) :=
  controller.rulesets[id.ruleset]?.bind (·.rules[id.rule]?)

def rule (controller : Controller Outside) (id : RuleId) : Except EngineError (Rule Outside) :=
  match controller.rule? id with
  | some rule => .ok rule
  | none => .error (.unknownRule id.display)

/-- The first instance of this name. -/
def ruleId? (controller : Controller Outside) (name : String) : Option RuleId :=
  controller.rulesets.zipIdx.findSome? fun (ruleset, position) =>
    (ruleset.rules.findIdx? (·.name = name)).map fun rule => ⟨position, rule⟩

def activeRules (controller : Controller Outside) : List RuleId :=
  controller.rulesets.zipIdx.flatMap fun (ruleset, position) =>
    (ruleset.rules.zipIdx.filter (·.1.isActive)).map fun (_, rule) => ⟨position, rule⟩

def sleepRule (controller : Controller Outside) (id : RuleId) (readset : NameSet) :
    Controller Outside :=
  { controller with
    rulesets := controller.rulesets.modify id.ruleset fun ruleset =>
      { ruleset with rules := ruleset.rules.modify id.rule (·.sleep readset) } }

/-- One notice to each view, with the history as it is now. -/
def viewNotices (controller : Controller Outside) : List Notice :=
  controller.views.map (.viewUpdated · controller.history)

end Controller

end TransitionEngine
