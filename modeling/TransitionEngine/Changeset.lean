import TransitionEngine.NameSet
import TransitionEngine.SavedState

/-!
# Changesets

A changeset says which variables a change touched. Two states are compared variable by variable; a
name that only one of them has counts as changed.
-/

namespace TransitionEngine

inductive Changeset where
  /-- Exactly these variables changed. -/
  | vars (names : NameSet)
  /-- No comparison was made: anything may have changed. -/
  | everything
  deriving DecidableEq

namespace Changeset

def none : Changeset :=
  .vars ∅

def changedNames (old new : SavedState) : List String :=
  let differing := new.entries.filter fun (name, document) => old.get? name != some document
  let missing := old.entries.filter fun (name, _) => (new.get? name).isNone
  Fields.names differing ++ Fields.names missing

def between (old new : SavedState) : Changeset :=
  .vars (.ofList (changedNames old new))

def isEmpty : Changeset → Bool
  | .vars names => names.isEmpty
  | .everything => false

/-- Whether the change may matter to a computation that read these variables. -/
def affects (changes : Changeset) (readset : NameSet) : Bool :=
  match changes with
  | .vars names => names.meets readset
  | .everything => true

def names? : Changeset → Option NameSet
  | .vars names => some names
  | .everything => Option.none

def display : Changeset → String
  | .vars names => ", ".intercalate names.names
  | .everything => "everything"

end Changeset

end TransitionEngine
