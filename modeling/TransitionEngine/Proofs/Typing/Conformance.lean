import TransitionEngine.Proofs.Fields
import TransitionEngine.Proofs.Value.Pushing
import TransitionEngine.Typing.Decode

/-!
# Conformance

A value conforms to a type when it has the shape of the type all the way down: numbers in range,
exactly the declared fields, as many items as there are slots, and pairwise different members. What
the spare slots of an ordered set hold is of no importance.
-/

namespace TransitionEngine

namespace ModelType

/-- Induction over types, with a hypothesis for each declared field at once. -/
@[elab_as_elim]
theorem inductionOn {motive : ModelType → Prop} (type : ModelType)
    (number : motive .number)
    (range : ∀ low high, motive (.range low high))
    (record : ∀ name fields, (∀ field ∈ fields, motive field.2) → motive (.record name fields))
    (array : ∀ element low high, motive element → motive (.array element low high))
    (either : ∀ union : Union,
      (∀ branch ∈ union.variants, ∀ field ∈ branch.fields, motive field.2) →
        motive (.either union))
    (variant : ∀ (parent : Union) tag,
      (∀ branch ∈ parent.variants, ∀ field ∈ branch.fields, motive field.2) →
        motive (.variant parent tag))
    (orderedSet : ∀ element low high, motive element → motive (.orderedSet element low high)) :
    motive type := by
  refine @ModelType.rec motive
    (fun fields => ∀ field ∈ fields, motive field.2)
    (fun union => ∀ branch ∈ union.variants, ∀ field ∈ branch.fields, motive field.2)
    (fun field => motive field.2)
    (fun branch => ∀ field ∈ branch.fields, motive field.2)
    (fun variants => ∀ branch ∈ variants, ∀ field ∈ branch.fields, motive field.2)
    number range record array either variant orderedSet ?_ ?_ ?_ ?_ ?_ ?_ ?_ type
  · exact fun field hfield => absurd hfield List.not_mem_nil
  · exact fun _ _ hfirst hrest => List.forall_mem_cons.2 ⟨hfirst, hrest⟩
  · exact fun _ _ _ hfirst hothers => List.forall_mem_cons.2 ⟨hfirst, hothers⟩
  · exact fun _ _ htype => htype
  · exact fun _ _ hfields => hfields
  · exact fun branch hbranch => absurd hbranch List.not_mem_nil
  · exact fun _ _ hfirst hrest => List.forall_mem_cons.2 ⟨hfirst, hrest⟩

/-- Every record and every variant in the type declares its fields under different names. -/
inductive DistinctFields : ModelType → Prop
  | number : DistinctFields .number
  | range (low high : Int64) : DistinctFields (.range low high)
  | record {name : String} {fields : List (String × ModelType)}
      (hdistinct : (Fields.names fields).Nodup)
      (hfields : ∀ field ∈ fields, DistinctFields field.2) : DistinctFields (.record name fields)
  | array {element : ModelType} {low high : Int64} (helement : DistinctFields element) :
      DistinctFields (.array element low high)
  | either {union : Union}
      (hdistinct : ∀ branch ∈ union.variants, (Fields.names branch.fields).Nodup)
      (hfields : ∀ branch ∈ union.variants, ∀ field ∈ branch.fields, DistinctFields field.2) :
      DistinctFields (.either union)
  | variant {parent : Union} {tag : String}
      (hdistinct : ∀ branch ∈ parent.variants, (Fields.names branch.fields).Nodup)
      (hfields : ∀ branch ∈ parent.variants, ∀ field ∈ branch.fields, DistinctFields field.2) :
      DistinctFields (.variant parent tag)
  | orderedSet {element : ModelType} {low high : Int64} (helement : DistinctFields element) :
      DistinctFields (.orderedSet element low high)

end ModelType

mutual

/-- The value has the shape of the type. -/
inductive Conforms : ModelType → Value → Prop
  | number (n : Int64) : Conforms .number (.number n)
  | range {low high n : Int64} (hlow : low ≤ n) (hhigh : n ≤ high) :
      Conforms (.range low high) (.number n)
  | record {name : String} {declared : List (String × ModelType)} {fields : Fields Value}
      (hfields : FieldsConform declared fields) :
      Conforms (.record name declared) (.record fields)
  | array {element : ModelType} {low high : Int64} {items : List Value}
      (hlength : items.length = capacity low high)
      (hitems : ∀ item ∈ items, Conforms element item) :
      Conforms (.array element low high) (.array ⟨low, items⟩)
  | either {union : Union} {tag : String} {branch : Variant} {fields : Fields Value}
      (hbranch : union.variant? tag = some branch)
      (hfields : FieldsConform branch.fields fields) :
      Conforms (.either union) (.either tag fields)
  | variant {parent : Union} {tag : String} {branch : Variant} {fields : Fields Value}
      (hbranch : parent.variant? tag = some branch)
      (hfields : FieldsConform branch.fields fields) :
      Conforms (.variant parent tag) (.either tag fields)
  | orderedSet {element : ModelType} {low high : Int64} {set : OrderedSet}
      (hlow : set.low = low) (hcapacity : set.capacity = capacity low high)
      (hdifferent : Value.PairwiseDifferent set.values)
      (hvalues : ∀ value ∈ set.values, Conforms element value) :
      Conforms (.orderedSet element low high) (.orderedSet set)

/-- There is exactly one field of each declared name, and its content conforms. -/
inductive FieldsConform : List (String × ModelType) → Fields Value → Prop
  | intro {declared : List (String × ModelType)} {fields : Fields Value}
      (hascending : Fields.Ascending fields)
      (hnames : ∀ name, name ∈ Fields.names fields ↔ name ∈ Fields.names declared)
      (hcontent : ∀ field ∈ declared, ∀ value, Fields.get? fields field.1 = some value →
        Conforms field.2 value) : FieldsConform declared fields

end

theorem fieldsConform_singleton {name : String} {type : ModelType} {value : Value}
    (hvalue : Conforms type value) : FieldsConform [(name, type)] [(name, value)] := by
  refine .intro (List.pairwise_singleton ..) (fun _ => Iff.rfl) ?_
  simp only [List.forall_mem_singleton]
  intro content hcontent
  rw [Fields.get?_cons, if_pos rfl] at hcontent
  rwa [← Option.some.inj hcontent]

namespace UnionOf

theorem mem_variants_of_variant? {τ : Type} {union : UnionOf τ} {tag : String}
    {branch : VariantOf τ} (hbranch : union.variant? tag = some branch) :
    branch ∈ union.variants :=
  List.mem_of_find?_eq_some hbranch

end UnionOf

end TransitionEngine
