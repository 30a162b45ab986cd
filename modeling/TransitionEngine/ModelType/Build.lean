import TransitionEngine.ModelType.Basic

/-!
# Building types

The number of slots between two bounds has to fit a 64-bit integer. The checked constructors refuse
reversed ranges, indices that are no ranges or too wide, and unions without variants.
-/

namespace TransitionEngine

/-- The number of indices from `low` to `high`, when that is a size. -/
def slotCount? (low high : Int64) : Option Nat :=
  let count := high.toInt - low.toInt + 1
  if 0 ≤ count ∧ count ≤ Int64.maxValue.toInt then some count.toNat else none

/-- The number of indices from `low` to `high`; zero when the range is empty or too wide. -/
def capacity (low high : Int64) : Nat :=
  (slotCount? low high).getD 0

theorem capacity_eq (low high : Int64) :
    capacity low high =
      if 0 ≤ high.toInt - low.toInt + 1 ∧ high.toInt - low.toInt + 1 ≤ Int64.maxValue.toInt then
        (high.toInt - low.toInt + 1).toNat
      else 0 := by
  simp only [capacity, slotCount?]
  split <;> rfl

namespace ModelType

def display : ModelType → String
  | .number => "Number"
  | .range low high => boundsText low high
  | .record name _ => name
  | .array element low high => "Array<" ++ display element ++ ">[" ++ boundsText low high ++ "]"
  | .either union => union.name
  | .variant _ tag => tag
  | .orderedSet element low high =>
      "OrderedSet<" ++ display element ++ ">[" ++ boundsText low high ++ "]"
where
  boundsText (low high : Int64) : String :=
    toString low.toInt ++ ".." ++ toString high.toInt

def rangeOf (low high : Int64) : Except ValueError ModelType :=
  if high < low then .error (.internal (.rangeReversed low.toInt high.toInt))
  else .ok (.range low high)

def indexBounds (index : ModelType) : Except ValueError (Int64 × Int64) :=
  match index with
  | .range low high =>
      if (slotCount? low high).isSome then .ok (low, high)
      else .error (.internal (.indexTooWide index.display))
  | _ => .error (.internal (.indexNotRange index.display))

def arrayOf (element index : ModelType) : Except ValueError ModelType := do
  let (low, high) ← indexBounds index
  return .array element low high

def orderedSetOf (element index : ModelType) : Except ValueError ModelType := do
  let (low, high) ← indexBounds index
  return .orderedSet element low high

def eitherOf (name : String) (variants : List Variant) : Except ValueError ModelType :=
  match variants with
  | [] => .error (.internal (.noVariants name))
  | first :: others => .ok (.either ⟨name, first, others⟩)

def variantOf (either : ModelType) (tag : String) : Except ValueError ModelType :=
  match either with
  | .either union =>
      if (union.variant? tag).isSome then .ok (.variant union tag)
      else .error (.internal (.noSuchVariant union.name tag))
  | other => .error (.internal (.notEither other.display))

end ModelType

end TransitionEngine
