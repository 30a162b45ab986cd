import TransitionEngine.Error
import TransitionEngine.Monitor.Event
import TransitionEngine.Text.Literal

/-!
# Log records

What the engine has to say to a log is a diagnostic; its record is the level, the message and the
fields that are written.
-/

namespace TransitionEngine

inductive LogLevel where
  | debug
  | info
  | warn
  deriving DecidableEq

structure LogRecord where
  level : LogLevel
  message : String
  fields : List (String × String)
  deriving DecidableEq

inductive Diagnostic where
  | modelLoaded (entries rules invariants : Nat)
  | controllerReady (rulesets invariants : Nat)
  | ruleIneffective (rule : String)
  | stepTaken (rule : String) (changed : Bool)
  | runFinished (steps transitions distinctStates : Nat)
  | runSawFailure (error : EngineError)
  /-- After a mutator failed, the current state could not be restored. -/
  | mutatorRollbackFailed (error : ValueError)
  /-- After a probe, the current state could not be restored. -/
  | probeRollbackFailed (error : EngineError)
  deriving DecidableEq

namespace Diagnostic

def record : Diagnostic → LogRecord
  | .modelLoaded entries rules invariants =>
      ⟨.debug, "module loaded", [("variables", toString entries), ("rules", toString rules),
        ("invariants", toString invariants)]⟩
  | .controllerReady rulesets invariants =>
      ⟨.debug, "controller ready", [("rulesets", toString rulesets),
        ("invariants", toString invariants)]⟩
  | .ruleIneffective rule => ⟨.debug, "no effect, deactivating", [("rule", rule)]⟩
  | .stepTaken rule changed => ⟨.debug, "step", [("rule", rule), ("changed", Text.truth changed)]⟩
  | .runFinished steps transitions distinctStates =>
      ⟨.debug, "run finished", [("steps", toString steps), ("transitions", toString transitions),
        ("distinct_states", toString distinctStates)]⟩
  | .runSawFailure error => ⟨.warn, "invariant failed", [("error", error.message)]⟩
  | .mutatorRollbackFailed error =>
      ⟨.warn, "rollback after failed mutator did not complete", [("error", error.message)]⟩
  | .probeRollbackFailed error =>
      ⟨.warn, "rollback after would_change_state did not complete", [("error", error.message)]⟩

end Diagnostic

def EventPayload.record : EventPayload → LogRecord
  | .committed index message changes =>
      ⟨.info, message, [("index", toString index),
        ("changes", Text.listOf (changes.map Text.literal))]⟩
  | .reset => ⟨.info, "reset", []⟩
  | .restored index => ⟨.info, "restore", [("index", toString index)]⟩
  | .invariantFailed invariant message => ⟨.warn, message, [("invariant", invariant)]⟩

end TransitionEngine
