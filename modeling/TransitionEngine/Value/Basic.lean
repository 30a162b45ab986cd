import TransitionEngine.ModelType.Basic

/-!
# Values of variables

Values are compared by what can be seen of them: two ordered sets are equal when they have the same
lower bound, capacity and members in the same order, whatever the type of their elements.
-/

namespace TransitionEngine

/-- Items addressed from `low` upwards. -/
structure ArrayOf (α : Type) where
  low : Int64
  items : List α

/-- Members in the order of their insertion, addressed from `low` upwards, and the slots that are
still free, each filled with the default of the element type. -/
structure OrderedSetOf (α : Type) where
  element : ModelType
  low : Int64
  values : List α
  spare : List α

inductive Value where
  | number (n : Int64)
  | record (fields : List (String × Value))
  | array (array : ArrayOf Value)
  | either (tag : String) (fields : List (String × Value))
  | orderedSet (set : OrderedSetOf Value)

abbrev ArrayValue := ArrayOf Value
abbrev OrderedSet := OrderedSetOf Value

namespace OrderedSetOf

variable {α : Type}

def used (set : OrderedSetOf α) : Nat :=
  set.values.length

def capacity (set : OrderedSetOf α) : Nat :=
  set.values.length + set.spare.length

def slots (set : OrderedSetOf α) : List α :=
  set.values ++ set.spare

def isEmpty (set : OrderedSetOf α) : Bool :=
  set.used = 0

def isFull (set : OrderedSetOf α) : Bool :=
  set.used = set.capacity

end OrderedSetOf

namespace Value

mutual

def same : Value → Value → Bool
  | .number left, .number right => left == right
  | .record left, .record right => sameFields left right
  | .array ⟨low, items⟩, .array ⟨low', items'⟩ => low == low' && sameItems items items'
  | .either tag fields, .either tag' fields' => tag == tag' && sameFields fields fields'
  | .orderedSet ⟨_, low, values, spare⟩, .orderedSet ⟨_, low', values', spare'⟩ =>
      low == low' && values.length + spare.length == values'.length + spare'.length &&
        sameItems values values'
  | _, _ => false

def sameItems : List Value → List Value → Bool
  | [], [] => true
  | left :: lefts, right :: rights => same left right && sameItems lefts rights
  | _, _ => false

def sameFields : List (String × Value) → List (String × Value) → Bool
  | [], [] => true
  | (name, left) :: lefts, (other, right) :: rights =>
      name == other && same left right && sameFields lefts rights
  | _, _ => false

end

instance : BEq Value := ⟨same⟩

def kind : Value → String
  | .number _ => "number"
  | .record _ => "record"
  | .array _ => "array"
  | .either _ _ => "either"
  | .orderedSet _ => "ordered set"

def asNumber? : Value → Option Int64
  | .number n => some n
  | _ => none

def asRecord? : Value → Option (Fields Value)
  | .record fields => some fields
  | _ => none

def asArray? : Value → Option ArrayValue
  | .array items => some items
  | _ => none

def asEither? : Value → Option (String × Fields Value)
  | .either tag fields => some (tag, fields)
  | _ => none

def asOrderedSet? : Value → Option OrderedSet
  | .orderedSet set => some set
  | _ => none

mutual

/-- The document in which a value is kept in snapshots. A union value without fields is its tag. -/
def toJson : Value → Json
  | .number n => .ofInt64 n
  | .record fields => .obj (toJsonFields fields)
  | .array ⟨_, items⟩ => .arr (toJsonItems items)
  | .either tag [] => .str tag
  | .either tag (field :: rest) =>
      .obj [("fields", .obj (toJsonFields (field :: rest))), ("tag", .str tag)]
  | .orderedSet ⟨_, _, values, _⟩ => .arr (toJsonItems values)

def toJsonItems : List Value → List Json
  | [] => []
  | item :: rest => toJson item :: toJsonItems rest

def toJsonFields : List (String × Value) → List (String × Json)
  | [] => []
  | (name, value) :: rest => (name, toJson value) :: toJsonFields rest

end

/-- The index of the member at this position; the last index there is stands for those beyond. -/
def indexAt (low : Int64) (position : Nat) : Int64 :=
  Int64.ofInt
    (min (low.toInt + min (position : Int) Int64.maxValue.toInt) Int64.maxValue.toInt)

def braced (parts : List String) : String :=
  "\x7b" ++ ", ".intercalate parts ++ "\x7d"

mutual

def display : Value → String
  | .number n => toString n.toInt
  | .record fields => braced (displayFields fields)
  | .array ⟨_, items⟩ => "[" ++ ", ".intercalate (displayItems items) ++ "]"
  | .either tag [] => tag
  | .either tag (field :: rest) => tag ++ " " ++ braced (displayFields (field :: rest))
  | .orderedSet ⟨_, low, values, _⟩ => braced (displayMembers low 0 values)

def displayItems : List Value → List String
  | [] => []
  | item :: rest => display item :: displayItems rest

def displayFields : List (String × Value) → List String
  | [] => []
  | (name, value) :: rest => (name ++ ": " ++ display value) :: displayFields rest

def displayMembers (low : Int64) (position : Nat) : List Value → List String
  | [] => []
  | member :: rest =>
      (toString (indexAt low position).toInt ++ ": " ++ display member) ::
        displayMembers low (position + 1) rest

end

def field (value : Value) (name : String) : Except ValueError Value :=
  match value.asRecord?.bind (Fields.get? · name) with
  | some content => .ok content
  | none => .error (.internal (.noSuchField value.display name))

/-- The number by which a collection is indexed. -/
def toIndex (value : Value) : Except ValueError Int64 :=
  match value with
  | .number n => .ok n
  | other => .error (.internal (.notAnIndex other.display))

/-- The position of an index among so many slots from `low` upwards. -/
def position? (low index : Int64) (count : Nat) : Option Nat :=
  let offset := index.toInt - low.toInt
  if 0 ≤ offset ∧ offset ≤ Int64.maxValue.toInt ∧ offset < count then some offset.toNat
  else none

end Value

end TransitionEngine
