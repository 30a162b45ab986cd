import TransitionEngine.Error
import TransitionEngine.Json.Basic

/-!
# Types of variables

A type names the values that a variable may hold. Numbers and ranges hold 64-bit integers; arrays
and ordered sets are addressed by the indices of a range; an either type is a union of tagged
variants, and each of its variants is a type on its own.
-/

namespace TransitionEngine

structure VariantOf (τ : Type) where
  tag : String
  fields : List (String × τ)

/-- A named union of variants, of which there is at least one. -/
structure UnionOf (τ : Type) where
  name : String
  first : VariantOf τ
  others : List (VariantOf τ)

inductive ModelType where
  | number
  | range (low high : Int64)
  | record (name : String) (fields : List (String × ModelType))
  | array (element : ModelType) (low high : Int64)
  | either (union : UnionOf ModelType)
  | variant (parent : UnionOf ModelType) (tag : String)
  | orderedSet (element : ModelType) (low high : Int64)

abbrev Variant := VariantOf ModelType
abbrev Union := UnionOf ModelType

namespace UnionOf

variable {τ : Type}

def variants (union : UnionOf τ) : List (VariantOf τ) :=
  union.first :: union.others

/-- The variant of this tag, the first if several are declared. -/
def variant? (union : UnionOf τ) (tag : String) : Option (VariantOf τ) :=
  union.variants.find? (·.tag = tag)

end UnionOf

namespace ModelType

mutual

def same : ModelType → ModelType → Bool
  | .number, .number => true
  | .range low high, .range low' high' => low == low' && high == high'
  | .record name fields, .record name' fields' => name == name' && sameFields fields fields'
  | .array element low high, .array element' low' high' =>
      same element element' && low == low' && high == high'
  | .either union, .either union' => sameUnion union union'
  | .variant parent tag, .variant parent' tag' => sameUnion parent parent' && tag == tag'
  | .orderedSet element low high, .orderedSet element' low' high' =>
      same element element' && low == low' && high == high'
  | _, _ => false

def sameUnion : UnionOf ModelType → UnionOf ModelType → Bool
  | ⟨name, first, others⟩, ⟨name', first', others'⟩ =>
      name == name' && sameVariant first first' && sameVariants others others'

def sameVariants : List (VariantOf ModelType) → List (VariantOf ModelType) → Bool
  | [], [] => true
  | branch :: rest, branch' :: rest' => sameVariant branch branch' && sameVariants rest rest'
  | _, _ => false

def sameVariant : VariantOf ModelType → VariantOf ModelType → Bool
  | ⟨tag, fields⟩, ⟨tag', fields'⟩ => tag == tag' && sameFields fields fields'

def sameFields : List (String × ModelType) → List (String × ModelType) → Bool
  | [], [] => true
  | (name, type) :: rest, (name', type') :: rest' =>
      name == name' && same type type' && sameFields rest rest'
  | _, _ => false

end

mutual

theorem same_iff : ∀ left right : ModelType, same left right = true ↔ left = right
  | .number, right => by cases right <;> simp [same]
  | .range _ _, right => by cases right <;> simp [same]
  | .record _ fields, right => by
      cases right <;> simp [same, sameFields_iff fields]
  | .array element _ _, right => by
      cases right <;> simp [same, same_iff element, and_assoc]
  | .either union, right => by cases right <;> simp [same, sameUnion_iff union]
  | .variant parent _, right => by cases right <;> simp [same, sameUnion_iff parent]
  | .orderedSet element _ _, right => by
      cases right <;> simp [same, same_iff element, and_assoc]

theorem sameUnion_iff : ∀ left right : UnionOf ModelType, sameUnion left right = true ↔ left = right
  | ⟨_, first, others⟩, ⟨_, first', others'⟩ => by
      simp [sameUnion, sameVariant_iff first, sameVariants_iff others, and_assoc]

theorem sameVariants_iff :
    ∀ left right : List (VariantOf ModelType), sameVariants left right = true ↔ left = right
  | [], right => by cases right <;> simp [sameVariants]
  | branch :: rest, right => by
      cases right <;> simp [sameVariants, sameVariant_iff branch, sameVariants_iff rest]

theorem sameVariant_iff :
    ∀ left right : VariantOf ModelType, sameVariant left right = true ↔ left = right
  | ⟨_, fields⟩, ⟨_, fields'⟩ => by simp [sameVariant, sameFields_iff fields]

theorem sameFields_iff :
    ∀ left right : List (String × ModelType), sameFields left right = true ↔ left = right
  | [], right => by cases right <;> simp [sameFields]
  | (_, type) :: rest, right => by
      cases right with
      | nil => simp [sameFields]
      | cons entry others =>
          obtain ⟨name', type'⟩ := entry
          simp [sameFields, same_iff type, sameFields_iff rest, and_assoc]

end

/-- Types are compared by their structure. -/
instance : DecidableEq ModelType := fun left right =>
  decidable_of_iff _ (same_iff left right)

instance : DecidableEq Union := fun left right =>
  decidable_of_iff _ (sameUnion_iff left right)

end ModelType

end TransitionEngine
