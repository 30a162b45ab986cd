/-!
# Errors

An error is its cause, with the parts that its message shows. A violation is kept apart from the
other errors: it is how a check says that an invariant does not hold.
-/

namespace TransitionEngine

/-- What went beyond the bounds of a number, an index or a collection. -/
inductive BoundsCause where
  | notInRange (number : Int) (type : String)
  | noSuchIndex (index : Int) (collection : String)
  | setFull (set : String)
  | setEmpty (set : String)
  | stated (message : String)
  deriving DecidableEq

def BoundsCause.message : BoundsCause → String
  | .notInRange number type => s!"{number} is not in range {type}"
  | .noSuchIndex index collection => s!"Cannot access index {index} of {collection}"
  | .setFull set => s!"Cannot push onto {set}"
  | .setEmpty set => s!"Cannot pop from empty set {set}"
  | .stated message => message

/-- Which promise the caller of an operation did not keep. -/
inductive ContractCause where
  | rangeReversed (low high : Int)
  | indexTooWide (index : String)
  | indexNotRange (index : String)
  | noVariants (either : String)
  | notEither (type : String)
  | noSuchVariant (either tag : String)
  | undecodable (document type : String)
  | missingField (holder field document : String)
  | itemCount (type : String) (expected actual : Nat)
  | notAdmitted (kind value type : String)
  | notAnIndex (value : String)
  | noSuchField (value field : String)
  | constantWritten (name : String)
  | missingEntry (name : String)
  | stated (message : String)
  deriving DecidableEq

def ContractCause.message : ContractCause → String
  | .rangeReversed low high => s!"Range lower bound {low} exceeds upper bound {high}"
  | .indexTooWide index => s!"Index range {index} is too wide for a collection"
  | .indexNotRange index => s!"Collections must be indexed by a range type, not {index}"
  | .noVariants either => s!"Either type {either} has no variants"
  | .notEither type => s!"{type} is not an Either type"
  | .noSuchVariant either tag => s!"{either} has no variant {tag}"
  | .undecodable document type => s!"Cannot decode {document} as {type}"
  | .missingField holder field document => s!"{holder} is missing field {field} in {document}"
  | .itemCount type expected actual => s!"{type} expects {expected} items, got {actual}"
  | .notAdmitted kind value type =>
      s!"Cannot store {kind} value {value} in a variable of type {type}"
  | .notAnIndex value => s!"Trying to index with {value}"
  | .noSuchField value field => s!"{value} has no field {field}"
  | .constantWritten name => s!"Cannot assign to constant {name}"
  | .missingEntry name => s!"serialized state has no entry for {name}"
  | .stated message => message

/-- Why an operation on values or types failed. -/
inductive ValueError where
  | bounds (cause : BoundsCause)
  | internal (cause : ContractCause)
  deriving DecidableEq

def ValueError.message : ValueError → String
  | .bounds cause => "Bounds error: " ++ cause.message
  | .internal cause => "Internal error: " ++ cause.message

inductive ConfigCause where
  | blankDefaultMessage
  | noSteps
  | noCapacity
  | variableDeclaredTwice (name : String)
  | ruleDeclaredTwice (name : String)
  | invariantDeclaredTwice (name : String)
  | stated (reason : String)
  deriving DecidableEq

def ConfigCause.reason : ConfigCause → String
  | .blankDefaultMessage => "default_message must not be empty"
  | .noSteps => "max_steps must be > 0"
  | .noCapacity => "channel sink capacity must be > 0"
  | .variableDeclaredTwice name => s!"variable {name} declared twice"
  | .ruleDeclaredTwice name => s!"rule {name} declared twice"
  | .invariantDeclaredTwice name => s!"invariant {name} declared twice"
  | .stated reason => reason

/-- How a check describes why its invariant does not hold. -/
structure Violation where
  message : String
  deriving DecidableEq

inductive EngineError where
  | value (error : ValueError)
  | violation (violation : Violation)
  | invariantFailed (message : String) (violation : Violation)
  | unknownVariable (name : String)
  | unknownRule (name : String)
  | snapshotOutOfRange (index length : Nat)
  | config (cause : ConfigCause)
  deriving DecidableEq

namespace EngineError

def message : EngineError → String
  | .value error => error.message
  | .violation cause => "Invariant not satisfied: " ++ cause.message
  | .invariantFailed message _ => message
  | .unknownVariable name => "Unknown variable: " ++ name
  | .unknownRule name => "Unknown rule: " ++ name
  | .snapshotOutOfRange index length =>
      s!"Snapshot {index} is not in the execution history (length {length})"
  | .config cause => "Invalid configuration: " ++ cause.reason

def isBounds : EngineError → Bool
  | .value (.bounds _) => true
  | _ => false

def isInternal : EngineError → Bool
  | .value (.internal _) => true
  | _ => false

/-- Whether an invariant is at fault, as raised by its check or as reported by the error hook. -/
def isViolation : EngineError → Bool
  | .violation _ | .invariantFailed _ _ => true
  | _ => false

end EngineError

end TransitionEngine
