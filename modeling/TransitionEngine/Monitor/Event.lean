import TransitionEngine.Changeset
import TransitionEngine.Timestamp

/-!
# Events

An event tells an observer that the history changed or that an invariant was found not to hold.
-/

namespace TransitionEngine

inductive EventPayload where
  | committed (index : Nat) (message : String) (changes : List String)
  | reset
  /-- The history was cut back to this entry. -/
  | restored (index : Nat)
  | invariantFailed (invariant message : String)
  deriving DecidableEq

/-- The event of a commit lists the names that changed, and none when everything may have. -/
def EventPayload.ofCommit (index : Nat) (message : String) (changes : Changeset) : EventPayload :=
  .committed index message ((changes.names?.map NameSet.names).getD [])

structure Event where
  timestamp : Timestamp
  payload : EventPayload
  deriving DecidableEq

end TransitionEngine
