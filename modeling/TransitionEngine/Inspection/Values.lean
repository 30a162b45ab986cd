import TransitionEngine.Bank
import TransitionEngine.Text.Literal

/-!
# Inspecting types and values

The text in which a developer sees a type, a value or a bank with all of its parts, the free slots of
an ordered set included.
-/

namespace TransitionEngine

open Text

def inspectInt (number : Int64) : String :=
  toString number.toInt

namespace ModelType

mutual

def inspect : ModelType → String
  | .number => "Number"
  | .range low high =>
      structureOf "Range" [("low", inspectInt low), ("high", inspectInt high)]
  | .record name fields =>
      call "Record" (structureOf "RecordType"
        [("name", literal name), ("fields", listOf (inspectFields fields))])
  | .array element low high =>
      structureOf "Array"
        [("element", inspect element), ("low", inspectInt low), ("high", inspectInt high)]
  | .either union => call "Either" (inspectUnion union)
  | .variant parent tag =>
      structureOf "Variant" [("parent", inspectUnion parent), ("tag", literal tag)]
  | .orderedSet element low high =>
      structureOf "OrderedSet"
        [("element", inspect element), ("low", inspectInt low), ("high", inspectInt high)]

def inspectUnion : UnionOf ModelType → String
  | ⟨name, first, others⟩ =>
      structureOf "EitherType"
        [("name", literal name),
          ("variants", listOf (inspectVariant first :: inspectVariants others))]

def inspectVariants : List (VariantOf ModelType) → List String
  | [] => []
  | branch :: rest => inspectVariant branch :: inspectVariants rest

def inspectVariant : VariantOf ModelType → String
  | ⟨tag, fields⟩ =>
      structureOf "VariantDecl"
        [("tag", literal tag), ("fields", listOf (inspectFields fields))]

def inspectFields : List (String × ModelType) → List String
  | [] => []
  | (name, type) :: rest => call "" (literal name ++ ", " ++ inspect type) :: inspectFields rest

end

end ModelType

namespace Value

mutual

def inspect : Value → String
  | .number n => call "Number" (inspectInt n)
  | .record fields => call "Record" (setOf (inspectFields fields))
  | .array ⟨low, items⟩ =>
      call "Array" (structureOf "ArrayValue"
        [("low", inspectInt low), ("items", listOf (inspectItems items))])
  | .either tag fields =>
      call "Either" (structureOf "EitherValue"
        [("tag", literal tag), ("fields", setOf (inspectFields fields))])
  | .orderedSet ⟨element, low, values, spare⟩ =>
      call "OrderedSet" (structureOf "OrderedSetValue"
        [("element", element.inspect), ("low", inspectInt low),
          ("items", listOf (inspectItems values ++ inspectItems spare)),
          ("used", toString values.length)])

def inspectItems : List Value → List String
  | [] => []
  | item :: rest => inspect item :: inspectItems rest

def inspectFields : List (String × Value) → List String
  | [] => []
  | (name, value) :: rest => (literal name ++ ": " ++ inspect value) :: inspectFields rest

end

end Value

def Variable.inspect (entry : Variable) : String :=
  structureOf "ModelVariable"
    [("name", literal entry.name), ("ty", entry.type.inspect),
      ("constant", truth entry.isConstant), ("value", entry.value.inspect)]

def Bank.inspect (bank : Bank) : String :=
  let slots := bank.entries.mapIdx fun position entry =>
    literal entry.name ++ ": " ++ toString position
  structureOf "VariableBank"
    [("vars", listOf (bank.entries.map Variable.inspect)), ("by_name", setOf slots)]

end TransitionEngine
