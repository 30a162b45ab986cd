import TransitionEngine.ModelType.Build
import TransitionEngine.Value.Collection

/-!
# Default values

A variable starts with the default of its type: zero, the lower bound, the first variant, a full array
of defaults, an empty ordered set.
-/

namespace TransitionEngine

namespace ModelType

mutual

def defaultValue : ModelType → Value
  | .number => .number 0
  | .range low _ => .number low
  | .record _ fields => .record (Fields.ofList (defaultFields fields))
  | .array element low high =>
      .array ⟨low, List.replicate (capacity low high) (defaultValue element)⟩
  | .either ⟨_, first, _⟩ => defaultVariant first
  | .variant ⟨_, first, others⟩ tag =>
      if first.tag = tag then defaultVariant first
      else (defaultTagged tag others).getD (defaultVariant first)
  | .orderedSet element low high =>
      .orderedSet ⟨element, low, [], List.replicate (capacity low high) (defaultValue element)⟩

def defaultVariant : VariantOf ModelType → Value
  | ⟨tag, fields⟩ => .either tag (Fields.ofList (defaultFields fields))

def defaultTagged (tag : String) : List (VariantOf ModelType) → Option Value
  | [] => none
  | branch :: rest =>
      if branch.tag = tag then some (defaultVariant branch) else defaultTagged tag rest

def defaultFields : List (String × ModelType) → List (String × Value)
  | [] => []
  | (name, type) :: rest => (name, defaultValue type) :: defaultFields rest

end

end ModelType

namespace OrderedSetOf

def new (element : ModelType) (low high : Int64) : OrderedSet :=
  ⟨element, low, [], List.replicate (TransitionEngine.capacity low high) element.defaultValue⟩

def pop (set : OrderedSet) : Except ValueError (Value × OrderedSet) :=
  set.popWith set.element.defaultValue

/-- Takes out the member equal to the value, and says whether there was one. -/
def remove (set : OrderedSet) (value : Value) : Bool × OrderedSet :=
  set.removeWith set.element.defaultValue value

end OrderedSetOf

end TransitionEngine
