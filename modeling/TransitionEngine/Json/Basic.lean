import TransitionEngine.Double.Basic
import TransitionEngine.Fields

/-!
# Documents

A document tells integers from doubles: `1` and `1.0` are different, and no double is ever taken for
an integer. The fields of an object are ascending, so that equal objects list them alike.
-/

namespace TransitionEngine

def int64? (value : Int) : Option Int64 :=
  if Int64.minValue.toInt ≤ value ∧ value ≤ Int64.maxValue.toInt then some (Int64.ofInt value)
  else none

theorem toInt_of_int64? {value : Int} {number : Int64} (hsome : int64? value = some number) :
    number.toInt = value := by
  unfold int64? at hsome
  split at hsome
  · rename_i hrange
    rw [← Option.some.inj hsome]
    rw [Int64.toInt_minValue, Int64.toInt_maxValue] at hrange
    exact Int64.toInt_ofInt_of_le hrange.1 (by omega)
  · simp at hsome

@[simp]
theorem int64?_toInt (number : Int64) : int64? number.toInt = some number := by
  rw [int64?, if_pos ⟨number.minValue_le_toInt, number.toInt_le⟩, Int64.ofInt_toInt]

inductive Json where
  | null
  | bool (value : Bool)
  | int (value : Int)
  | double (value : Double)
  | str (text : String)
  | arr (items : List Json)
  | obj (fields : List (String × Json))

namespace Json

mutual

/-- Equality of documents, in which the two zeros among the doubles are equal. -/
def same : Json → Json → Bool
  | .null, .null => true
  | .bool left, .bool right => left == right
  | .int left, .int right => left == right
  | .double left, .double right => left.same right
  | .str left, .str right => left == right
  | .arr left, .arr right => sameItems left right
  | .obj left, .obj right => sameFields left right
  | _, _ => false

def sameItems : List Json → List Json → Bool
  | [], [] => true
  | left :: lefts, right :: rights => same left right && sameItems lefts rights
  | _, _ => false

def sameFields : List (String × Json) → List (String × Json) → Bool
  | [], [] => true
  | (name, left) :: lefts, (other, right) :: rights =>
      name == other && same left right && sameFields lefts rights
  | _, _ => false

end

instance : BEq Json := ⟨same⟩

def ofInt64 (number : Int64) : Json :=
  .int number.toInt

def asInt64? : Json → Option Int64
  | .int value => int64? value
  | _ => none

/-- A size is an integer that fits 64 bits without a sign. -/
def asSize? : Json → Option Nat
  | .int value => if 0 ≤ value ∧ value < UInt64.size then some value.toNat else none
  | _ => none

def asBool? : Json → Option Bool
  | .bool value => some value
  | _ => none

def asString? : Json → Option String
  | .str text => some text
  | _ => none

def asArray? : Json → Option (List Json)
  | .arr items => some items
  | _ => none

def asObject? : Json → Option (Fields Json)
  | .obj fields => some fields
  | _ => none

def get? (document : Json) (name : String) : Option Json :=
  match document with
  | .obj fields => Fields.get? fields name
  | _ => none

/-- An object of the given entries; of two with one name the later counts. -/
def object (entries : List (String × Json)) : Json :=
  .obj (Fields.ofList entries)

end Json

end TransitionEngine
