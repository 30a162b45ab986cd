import TransitionEngine.ModelType.Basic

/-!
# Relations between types

Numbers and ranges go together: whether a number is in a range is left to the check of the value. A
variant is a subtype of the either type that declares it.
-/

namespace TransitionEngine.ModelType

def isNumeric : ModelType → Bool
  | .number | .range _ _ => true
  | _ => false

/-- Whether a value of the first type may be used where the second is expected. -/
def isSubtype (left right : ModelType) : Bool :=
  left = right ||
    match left, right with
    | .number, .range _ _ => true
    | .range _ _, .range _ _ => true
    | .variant parent _, .either union => parent = union
    | _, _ => false

def haveEquality (left right : ModelType) : Bool :=
  isSubtype left right || isSubtype right left ||
    match left, right with
    | .variant parent _, .variant parent' _ => parent = parent'
    | _, _ => false

def haveOrdering (left right : ModelType) : Bool :=
  isNumeric left && isNumeric right

end TransitionEngine.ModelType
