import TransitionEngine.Proofs.Typing.Conformance

/-!
# Types from the checked constructors

The checked constructors refuse reversed ranges, index ranges that are too long to count, unions without
variants and tags that a union does not have. What they make has a default that conforms to it, as long as
the fields of one name within a record or a variant are of one type: of several fields with one name the
default keeps the value of the last, which has to suit all of them.
-/

namespace TransitionEngine

/-! ### What the constructors make -/

/-- The indices from `low` to `high` are as many as a size can tell. There may be none at all, if the
upper bound is next below the lower one. -/
def IsCountable (low high : Int64) : Prop :=
  0 ≤ high.toInt - low.toInt + 1 ∧ high.toInt - low.toInt + 1 ≤ Int64.maxValue.toInt

theorem isSome_slotCount?_iff {low high : Int64} :
    (slotCount? low high).isSome = true ↔ IsCountable low high := by
  unfold slotCount?
  dsimp only
  split
  · rename_i hcountable
    exact iff_of_true rfl hcountable
  · rename_i hcountable
    exact iff_of_false nofun hcountable

namespace ModelType

theorem rangeOf_eq_ok_iff {low high : Int64} {type : ModelType} :
    rangeOf low high = .ok type ↔ low ≤ high ∧ type = .range low high := by
  unfold rangeOf
  by_cases hreversed : high < low
  · simp [if_pos hreversed, Int64.not_le.2 hreversed]
  · simp [if_neg hreversed, Int64.not_lt.1 hreversed, eq_comm]

theorem indexBounds_eq_ok_iff {index : ModelType} {low high : Int64} :
    indexBounds index = .ok (low, high) ↔ index = .range low high ∧ IsCountable low high := by
  cases index with
  | range lower upper =>
      rw [indexBounds, ← isSome_slotCount?_iff]
      by_cases hsome : (slotCount? lower upper).isSome = true
      · rw [if_pos hsome, Except.ok.injEq, Prod.mk.injEq, ModelType.range.injEq]
        refine ⟨fun hbounds => ⟨hbounds, ?_⟩, And.left⟩
        rwa [← hbounds.1, ← hbounds.2]
      · rw [if_neg hsome, ModelType.range.injEq]
        simp only [reduceCtorEq, false_iff]
        rintro ⟨⟨rfl, rfl⟩, hcountable⟩
        exact hsome hcountable
  | _ => simp [indexBounds]

/-- A collection type is made by its index range alone. -/
theorem bind_indexBounds_eq_ok_iff {index type : ModelType} (make : Int64 → Int64 → ModelType) :
    (indexBounds index >>= fun bounds => .ok (make bounds.1 bounds.2)) = .ok type ↔
      ∃ low high, index = .range low high ∧ IsCountable low high ∧ type = make low high := by
  simp only [Success.bind_eq_ok_iff, Prod.exists, indexBounds_eq_ok_iff, and_assoc, Except.ok.injEq]
  simp only [eq_comm (a := type)]

theorem arrayOf_eq_ok_iff {element index type : ModelType} :
    arrayOf element index = .ok type ↔
      ∃ low high, index = .range low high ∧ IsCountable low high ∧ type = .array element low high :=
  bind_indexBounds_eq_ok_iff (.array element)

theorem orderedSetOf_eq_ok_iff {element index type : ModelType} :
    orderedSetOf element index = .ok type ↔
      ∃ low high, index = .range low high ∧ IsCountable low high ∧
        type = .orderedSet element low high :=
  bind_indexBounds_eq_ok_iff (.orderedSet element)

theorem exists_of_eitherOf {name : String} {variants : List Variant} {type : ModelType}
    (heither : eitherOf name variants = .ok type) :
    ∃ union : Union, union.variants = variants ∧ type = .either union := by
  cases variants with
  | nil => cases heither
  | cons first others => exact ⟨⟨name, first, others⟩, rfl, (Except.ok.inj heither).symm⟩

theorem exists_of_variantOf {either type : ModelType} {tag : String}
    (hvariant : variantOf either tag = .ok type) :
    ∃ (union : Union) (branch : Variant), either = .either union ∧ union.variant? tag = some branch ∧
      type = .variant union tag := by
  cases either with
  | either union =>
      unfold variantOf at hvariant
      dsimp only at hvariant
      split at hvariant
      · rename_i hsome
        obtain ⟨branch, hbranch⟩ := Option.isSome_iff_exists.1 hsome
        exact ⟨union, branch, rfl, hbranch, (Except.ok.inj hvariant).symm⟩
      · cases hvariant
  | _ => cases hvariant

/-- The types that calls of the checked constructors make. -/
inductive Constructible : ModelType → Prop
  | number : Constructible .number
  | range {low high : Int64} {type : ModelType} (hrange : rangeOf low high = .ok type) :
      Constructible type
  | record {name : String} {fields : List (String × ModelType)}
      (hfields : ∀ field ∈ fields, Constructible field.2) : Constructible (.record name fields)
  | array {element index type : ModelType} (helement : Constructible element)
      (hindex : Constructible index) (harray : arrayOf element index = .ok type) : Constructible type
  | either {name : String} {variants : List Variant} {type : ModelType}
      (hvariants : ∀ branch ∈ variants, ∀ field ∈ branch.fields, Constructible field.2)
      (heither : eitherOf name variants = .ok type) : Constructible type
  | variant {either type : ModelType} {tag : String} (heither : Constructible either)
      (hvariant : variantOf either tag = .ok type) : Constructible type
  | orderedSet {element index type : ModelType} (helement : Constructible element)
      (hindex : Constructible index) (hset : orderedSetOf element index = .ok type) :
      Constructible type

/-! ### Names that are declared repeatedly -/

/-- The type declares these fields for a record or a variant, itself or in one of its parts. -/
inductive Declares : ModelType → List (String × ModelType) → Prop
  | record {name : String} {fields : List (String × ModelType)} : Declares (.record name fields) fields
  | inRecord {name : String} {declared fields : List (String × ModelType)} {field : String × ModelType}
      (hfield : field ∈ declared) (hinner : Declares field.2 fields) :
      Declares (.record name declared) fields
  | inArray {element : ModelType} {low high : Int64} {fields : List (String × ModelType)}
      (hinner : Declares element fields) : Declares (.array element low high) fields
  | either {union : Union} {branch : Variant} (hbranch : branch ∈ union.variants) :
      Declares (.either union) branch.fields
  | inEither {union : Union} {branch : Variant} {fields : List (String × ModelType)}
      {field : String × ModelType} (hbranch : branch ∈ union.variants) (hfield : field ∈ branch.fields)
      (hinner : Declares field.2 fields) : Declares (.either union) fields
  | variant {parent : Union} {tag : String} {fields : List (String × ModelType)}
      (hparent : Declares (.either parent) fields) : Declares (.variant parent tag) fields
  | inOrderedSet {element : ModelType} {low high : Int64} {fields : List (String × ModelType)}
      (hinner : Declares element fields) : Declares (.orderedSet element low high) fields

/-- Wherever the type declares two fields of one name together, they are of one type. -/
def HasOneTypePerName (type : ModelType) : Prop :=
  ∀ fields, Declares type fields →
    ∀ field ∈ fields, ∀ other ∈ fields, field.1 = other.1 → field.2 = other.2

theorem DistinctFields.nodup_of_declares {type : ModelType} {fields : List (String × ModelType)}
    (hdistinct : type.DistinctFields) (hdeclares : type.Declares fields) :
    (Fields.names fields).Nodup := by
  induction hdeclares with
  | record =>
      cases hdistinct with
      | record hnodup _ => exact hnodup
  | inRecord hfield _ ih =>
      cases hdistinct with
      | record _ hfields => exact ih (hfields _ hfield)
  | inArray _ ih =>
      cases hdistinct with
      | array helement => exact ih helement
  | either hbranch =>
      cases hdistinct with
      | either hnodup _ => exact hnodup _ hbranch
  | inEither hbranch hfield _ ih =>
      cases hdistinct with
      | either _ hfields => exact ih (hfields _ hbranch _ hfield)
  | variant _ ih =>
      cases hdistinct with
      | variant hnodup hfields => exact ih (.either hnodup hfields)
  | inOrderedSet _ ih =>
      cases hdistinct with
      | orderedSet helement => exact ih helement

/-- Without repeated names there is nothing to agree on. -/
theorem DistinctFields.hasOneTypePerName {type : ModelType} (hdistinct : type.DistinctFields) :
    type.HasOneTypePerName := by
  intro fields hdeclares field hfield other hother hname
  have hnodup := hdistinct.nodup_of_declares hdeclares
  have hfound : Fields.get? fields field.1 = some field.2 := Fields.get?_of_mem hnodup hfield
  have hagain : Fields.get? fields field.1 = some other.2 := by
    rw [hname]
    exact Fields.get?_of_mem hnodup hother
  exact Option.some.inj (hfound.symm.trans hagain)

/-! ### Defaults -/

theorem defaultFields_eq_map (fields : List (String × ModelType)) :
    defaultFields fields = fields.map fun field => (field.1, field.2.defaultValue) := by
  induction fields with
  | nil => rfl
  | cons field rest ih => rw [defaultFields, ih, List.map_cons]

theorem names_defaultFields (fields : List (String × ModelType)) :
    Fields.names (defaultFields fields) = Fields.names fields := by
  simp [defaultFields_eq_map, Fields.names]

theorem defaultTagged_eq (tag : String) (variants : List Variant) :
    defaultTagged tag variants = (variants.find? (·.tag = tag)).map defaultVariant := by
  induction variants with
  | nil => rfl
  | cons branch rest ih =>
      rw [defaultTagged]
      by_cases htag : branch.tag = tag
      · rw [if_pos htag, List.find?_cons_of_pos (by simpa using htag), Option.map_some]
      · rw [if_neg htag, List.find?_cons_of_neg (by simpa using htag), ih]

/-- A variant starts as the branch that its tag names. -/
theorem defaultValue_variant {parent : Union} {tag : String} {branch : Variant}
    (hbranch : parent.variant? tag = some branch) :
    defaultValue (.variant parent tag) = .either tag (Fields.ofList (defaultFields branch.fields)) := by
  have htag : branch.tag = tag := by simpa using List.find?_some hbranch
  obtain ⟨name, first, others⟩ := parent
  have hfound := defaultTagged_eq tag (first :: others)
  rw [show (first :: others).find? (·.tag = tag) = some branch from hbranch, Option.map_some,
    defaultTagged] at hfound
  have hvariant : defaultValue (.variant ⟨name, first, others⟩ tag) = defaultVariant branch := by
    rw [defaultValue]
    split at hfound
    · rename_i hfirst
      rw [if_pos hfirst, Option.some.inj hfound]
    · rename_i hfirst
      rw [if_neg hfirst, hfound, Option.getD_some]
  rw [hvariant]
  obtain ⟨own, fields⟩ := branch
  obtain rfl : own = tag := htag
  rw [defaultVariant]

/-- Of the fields with one name the last gives the default, which suits them all. -/
theorem fieldsConform_defaultFields {declared : List (String × ModelType)}
    (hnames : ∀ field ∈ declared, ∀ other ∈ declared, field.1 = other.1 → field.2 = other.2)
    (hdefaults : ∀ field ∈ declared, Conforms field.2 field.2.defaultValue) :
    FieldsConform declared (Fields.ofList (defaultFields declared)) := by
  refine .intro (Fields.ascending_ofList _) (fun name => ?_) fun field hfield value hget => ?_
  · rw [Fields.mem_names_ofList, names_defaultFields]
  · have hmem := Fields.mem_of_mem_ofList (Fields.mem_of_get? hget)
    rw [defaultFields_eq_map] at hmem
    obtain ⟨other, hother, hentry⟩ := List.mem_map.1 hmem
    obtain ⟨hname, hvalue⟩ := Prod.mk.inj hentry
    have htype := hnames field hfield other hother hname.symm
    rw [← hvalue, ← htype]
    exact hdefaults field hfield

/-- The default conforms, and so would the default of any branch that the type has. -/
def StartsConforming (type : ModelType) : Prop :=
  Conforms type type.defaultValue ∧
    ∀ union, type = .either union → ∀ branch ∈ union.variants,
      FieldsConform branch.fields (Fields.ofList (defaultFields branch.fields))

theorem startsConforming_of_constructible {type : ModelType} (htype : Constructible type)
    (hnames : type.HasOneTypePerName) : type.StartsConforming := by
  -- A variant starts as the branch of its tag, so the induction has to carry every branch of a union.
  induction htype with
  | number => exact ⟨.number 0, nofun⟩
  | range hrange =>
      obtain ⟨hlow, rfl⟩ := rangeOf_eq_ok_iff.1 hrange
      exact ⟨.range (Int64.le_refl _) hlow, nofun⟩
  | @record name fields hfields ih =>
      refine ⟨.record (fieldsConform_defaultFields (hnames fields .record) fun field hfield => ?_), nofun⟩
      exact (ih field hfield fun inner hinner => hnames inner (.inRecord hfield hinner)).1
  | array helement hindex harray ih _ =>
      obtain ⟨low, high, -, -, rfl⟩ := arrayOf_eq_ok_iff.1 harray
      have hdefault := (ih fun inner hinner => hnames inner (.inArray hinner)).1
      refine ⟨.array (List.length_replicate ..) fun item hitem => ?_, nofun⟩
      rw [List.eq_of_mem_replicate hitem]
      exact hdefault
  | either hvariants heither ih =>
      obtain ⟨union, rfl, rfl⟩ := exists_of_eitherOf heither
      have hbranches : ∀ branch ∈ union.variants,
          FieldsConform branch.fields (Fields.ofList (defaultFields branch.fields)) := by
        intro branch hbranch
        refine fieldsConform_defaultFields (hnames _ (.either hbranch)) fun field hfield => ?_
        exact (ih branch hbranch field hfield
          fun inner hinner => hnames inner (.inEither hbranch hfield hinner)).1
      refine ⟨?_, fun other hsame => by cases hsame; exact hbranches⟩
      obtain ⟨name, ⟨tag, fields⟩, others⟩ := union
      have hfirst : (⟨name, ⟨tag, fields⟩, others⟩ : Union).variant? tag = some ⟨tag, fields⟩ :=
        List.find?_cons_of_pos (by simp)
      exact .either hfirst (hbranches ⟨tag, fields⟩ (List.mem_cons_self ..))
  | variant heither hvariant ih =>
      obtain ⟨union, branch, rfl, hbranch, rfl⟩ := exists_of_variantOf hvariant
      have hbranches := (ih fun inner hinner => hnames inner (.variant hinner)).2 union rfl
      refine ⟨?_, nofun⟩
      rw [defaultValue_variant hbranch]
      exact .variant hbranch (hbranches branch (UnionOf.mem_variants_of_variant? hbranch))
  | orderedSet helement hindex hset ih _ =>
      obtain ⟨low, high, -, -, rfl⟩ := orderedSetOf_eq_ok_iff.1 hset
      refine ⟨.orderedSet rfl ?_ .nil (List.forall_mem_nil _), nofun⟩
      simp [OrderedSetOf.capacity]

end ModelType

end TransitionEngine
