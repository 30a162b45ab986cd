import TransitionEngine.Proofs.Typing.Conformance

/-!
# Decoding what was encoded

A value that conforms to a type is decoded from its document, and what a type decodes from any
document conforms to it.
-/

namespace TransitionEngine.ModelType

open Success

/-! ### Successful decoding -/

theorem decodeFields_eq_ok_iff {declared : List (String × ModelType)}
    {lookup : String → Option Json} {holder shown : String} {decoded : List (String × Value)} :
    decodeFields declared lookup holder shown = .ok decoded ↔
      List.Forall₂ (fun field entry => field.1 = entry.1 ∧ ∃ document,
        lookup field.1 = some document ∧ field.2.decode document = .ok entry.2) declared decoded := by
  induction declared generalizing decoded with
  | nil => cases decoded <;> simp [decodeFields]
  | cons field rest ih =>
      obtain ⟨name, type⟩ := field
      rw [decodeFields]
      cases hlookup : lookup name with
      | none =>
          refine iff_of_false (by simp) fun hall => ?_
          cases hall with
          | cons hhead _ => simp [hlookup] at hhead
      | some document =>
          simp only [bind_eq_ok_iff, ih, pure, Except.pure, Except.ok.injEq]
          constructor
          · rintro ⟨value, hvalue, others, hothers, rfl⟩
            exact .cons ⟨rfl, document, hlookup, hvalue⟩ hothers
          · intro hall
            cases hall with
            | @cons _ entry _ others hhead hothers =>
                obtain ⟨hname, found, hfound, hvalue⟩ := hhead
                rw [hlookup] at hfound
                cases hfound
                exact ⟨entry.2, hvalue, others, hothers, by rw [show name = entry.1 from hname]⟩

theorem decodeOthers_eq (name tag : String) (fields? : Option Json) (document : Json)
    (variants : List Variant) :
    decodeOthers name tag fields? document variants =
      match variants.find? (·.tag = tag) with
      | some branch => decodeVariant tag fields? document branch
      | none => .error (.internal (.noSuchVariant name tag)) := by
  induction variants with
  | nil => rfl
  | cons branch rest ih =>
      rw [decodeOthers]
      by_cases htag : branch.tag = tag
      · rw [if_pos htag, List.find?_cons_of_pos (by simpa using htag)]
      · rw [if_neg htag, List.find?_cons_of_neg (by simpa using htag), ih]

/-- A union value is decoded by the first variant that has its tag. -/
theorem decodeUnion_eq (tag : String) (fields? : Option Json) (document : Json) (union : Union) :
    decodeUnion tag fields? document union =
      match union.variant? tag with
      | some branch => decodeVariant tag fields? document branch
      | none => .error (.internal (.noSuchVariant union.name tag)) := by
  obtain ⟨name, first, others⟩ := union
  have hothers := decodeOthers_eq name tag fields? document (first :: others)
  rw [decodeOthers] at hothers
  rw [decodeUnion]
  exact hothers

theorem decodeUnion_eq_ok {tag : String} {fields? : Option Json} {document : Json}
    {union : Union} {value : Value} (hdecode : decodeUnion tag fields? document union = .ok value) :
    ∃ branch decoded, union.variant? tag = some branch ∧
      decodeFields branch.fields (fun name => fields?.bind (·.get? name)) tag document.compact =
        .ok decoded ∧
      value = .either tag (Fields.ofList decoded) := by
  rw [decodeUnion_eq] at hdecode
  cases hbranch : union.variant? tag with
  | none => simp [hbranch] at hdecode
  | some branch =>
      obtain ⟨_, declared⟩ := branch
      rw [hbranch] at hdecode
      dsimp only at hdecode
      rw [decodeVariant] at hdecode
      obtain ⟨decoded, hfields, hvalue⟩ := bind_eq_ok_iff.1 hdecode
      exact ⟨_, decoded, rfl, hfields, (Except.ok.inj hvalue).symm⟩

theorem names_eq_of_forall₂ {declared : List (String × ModelType)}
    {decoded : List (String × Value)}
    (hnames : List.Forall₂ (fun field entry => field.1 = entry.1) declared decoded) :
    Fields.names declared = Fields.names decoded := by
  induction hnames with
  | nil => rfl
  | cons hhead _ ih => exact congrArg₂ List.cons hhead ih

/-! ### What is decoded conforms -/

theorem fieldsConform_of_decodeFields {declared : List (String × ModelType)}
    (hdistinct : (Fields.names declared).Nodup)
    (hdecoded : ∀ field ∈ declared, ∀ document value, field.2.decode document = .ok value →
      Conforms field.2 value)
    {lookup : String → Option Json} {holder shown : String} {decoded : List (String × Value)}
    (hfields : decodeFields declared lookup holder shown = .ok decoded) :
    FieldsConform declared (Fields.ofList decoded) := by
  rw [decodeFields_eq_ok_iff] at hfields
  have hnames := names_eq_of_forall₂ (hfields.imp fun _ _ hentry => hentry.1)
  have hentries : (Fields.names decoded).Nodup := hnames ▸ hdistinct
  refine .intro (Fields.ascending_ofList decoded) (fun name => ?_) fun field hfield value hget => ?_
  · rw [Fields.mem_names_ofList, hnames]
  · rw [Fields.get?_ofList hentries] at hget
    obtain ⟨entry, hentry, hname, document, -, hdecode⟩ := exists_of_mem_left hfields hfield
    have hvalue : Fields.get? decoded field.1 = some entry.2 :=
      Fields.get?_of_mem hentries (hname ▸ hentry)
    rw [hget] at hvalue
    cases hvalue
    exact hdecoded field hfield document entry.2 hdecode

theorem conforms_of_checkRange {number low high : Int64}
    (hcheck : checkRange number low high = .ok ()) : Conforms (.range low high) (.number number) := by
  unfold checkRange at hcheck
  split at hcheck
  · simp at hcheck
  · rename_i hrange
    obtain ⟨hlow, hhigh⟩ := not_or.1 hrange
    exact .range (Int64.not_lt.1 hlow) (Int64.not_lt.1 hhigh)

theorem conforms_of_foldlM_push {element : ModelType} {low high : Int64} {members : List Value}
    {set : OrderedSet}
    (hpush : members.foldlM OrderedSetOf.push (OrderedSetOf.new element low high) = .ok set)
    (hmembers : ∀ member ∈ members, Conforms element member) :
    Conforms (.orderedSet element low high) (.orderedSet set) := by
  have hempty : Value.PairwiseDifferent (OrderedSetOf.new element low high).values :=
    List.Pairwise.nil
  have hdifferent := OrderedSetOf.pairwiseDifferent_foldlM_push hempty hpush
  have hcapacity : set.capacity = capacity low high := by
    rw [OrderedSetOf.capacity_foldlM_push hpush]
    simp [OrderedSetOf.new, OrderedSetOf.capacity]
  refine .orderedSet (OrderedSetOf.low_foldlM_push hpush) hcapacity hdifferent ?_
  intro member hmember
  rcases OrderedSetOf.mem_or_mem_of_foldlM_push hpush member hmember with hold | hnew
  · simp [OrderedSetOf.new] at hold
  · exact hmembers member hnew

/-- What a type decodes from a document conforms to it. -/
theorem conforms_of_decode {type : ModelType} (hdistinct : type.DistinctFields)
    {document : Json} {value : Value} (hdecode : type.decode document = .ok value) :
    Conforms type value := by
  induction type using inductionOn generalizing document value with
  | number =>
      rw [decode] at hdecode
      obtain ⟨number, -, hvalue⟩ := bind_eq_ok_iff.1 hdecode
      rw [← Except.ok.inj hvalue]
      exact .number number
  | range low high =>
      rw [decode] at hdecode
      obtain ⟨number, -, hrest⟩ := bind_eq_ok_iff.1 hdecode
      obtain ⟨⟨⟩, hcheck, hvalue⟩ := bind_eq_ok_iff.1 hrest
      rw [← Except.ok.inj hvalue]
      exact conforms_of_checkRange hcheck
  | record name declared ih =>
      cases hdistinct with
      | record hnames htypes =>
          rw [decode] at hdecode
          split at hdecode
          · simp at hdecode
          · obtain ⟨decoded, hfields, hvalue⟩ := bind_eq_ok_iff.1 hdecode
            rw [← Except.ok.inj hvalue]
            exact .record (fieldsConform_of_decodeFields hnames
              (fun field hfield _ _ => ih field hfield (htypes field hfield)) hfields)
  | array element low high ih =>
      cases hdistinct with
      | array helement =>
          rw [decode] at hdecode
          obtain ⟨items, -, hrest⟩ := bind_eq_ok_iff.1 hdecode
          split at hrest
          · rename_i hlength
            obtain ⟨decoded, hdecoded, hvalue⟩ := bind_eq_ok_iff.1 hrest
            rw [mapM_eq_ok_iff] at hdecoded
            rw [← Except.ok.inj hvalue]
            refine .array (hdecoded.length_eq ▸ hlength) fun item hitem => ?_
            obtain ⟨source, -, hsource⟩ := exists_of_mem_right hdecoded hitem
            exact ih helement hsource
          · simp at hrest
  | either union ih =>
      cases hdistinct with
      | either hnames htypes =>
          rw [decode] at hdecode
          obtain ⟨⟨tag, fields?⟩, -, hunion⟩ := bind_eq_ok_iff.1 hdecode
          obtain ⟨branch, decoded, hbranch, hfields, rfl⟩ := decodeUnion_eq_ok hunion
          have hmem := UnionOf.mem_variants_of_variant? hbranch
          exact .either hbranch (fieldsConform_of_decodeFields (hnames branch hmem)
            (fun field hfield _ _ => ih branch hmem field hfield (htypes branch hmem field hfield))
            hfields)
  | variant parent expected ih =>
      cases hdistinct with
      | variant hnames htypes =>
          rw [decode] at hdecode
          obtain ⟨⟨tag, fields?⟩, -, hrest⟩ := bind_eq_ok_iff.1 hdecode
          obtain ⟨whole, hunion, hvalue⟩ := bind_eq_ok_iff.1 hrest
          obtain ⟨branch, decoded, hbranch, hfields, rfl⟩ := decodeUnion_eq_ok hunion
          have hmem := UnionOf.mem_variants_of_variant? hbranch
          split at hvalue
          · rename_i htag
            subst htag
            rw [← Except.ok.inj hvalue]
            exact .variant hbranch (fieldsConform_of_decodeFields (hnames branch hmem)
              (fun field hfield _ _ =>
                ih branch hmem field hfield (htypes branch hmem field hfield)) hfields)
          · simp at hvalue
  | orderedSet element low high ih =>
      cases hdistinct with
      | orderedSet helement =>
          rw [decode] at hdecode
          obtain ⟨items, -, hrest⟩ := bind_eq_ok_iff.1 hdecode
          obtain ⟨set, hfold, hvalue⟩ := bind_eq_ok_iff.1 hrest
          rw [← Except.ok.inj hvalue]
          obtain ⟨decoded, hdecoded, hpush⟩ := foldlM_bind_eq_ok_iff.1 hfold
          rw [mapM_eq_ok_iff] at hdecoded
          refine conforms_of_foldlM_push hpush fun member hmember => ?_
          obtain ⟨source, -, hsource⟩ := exists_of_mem_right hdecoded hmember
          exact ih helement hsource

/-! ### What conforms is decoded -/

/-- The type decodes an equal value from the document of the value. -/
def Recovers (type : ModelType) (value : Value) : Prop :=
  ∃ decoded, type.decode value.toJson = .ok decoded ∧ (decoded == value) = true

theorem decodeFields_of_recovers {declared : List (String × ModelType)} {fields : Fields Value}
    (hfields : FieldsConform declared fields)
    (hrecovers : ∀ field ∈ declared, ∀ value, Conforms field.2 value → field.2.Recovers value)
    {lookup : String → Option Json}
    (hlookup : ∀ name, lookup name = (Fields.get? fields name).map Value.toJson)
    (holder shown : String) :
    ∃ decoded, decodeFields declared lookup holder shown = .ok decoded ∧
      Value.sameFields (Fields.ofList decoded) fields = true := by
  obtain ⟨hascending, hnames, hcontent⟩ := hfields
  have hentries : ∀ field ∈ declared, ∃ entry : String × Value, field.1 = entry.1 ∧
      (∃ document, lookup field.1 = some document ∧ field.2.decode document = .ok entry.2) ∧
      ∃ value, Fields.get? fields field.1 = some value ∧ (entry.2 == value) = true := by
    intro field hfield
    obtain ⟨value, hvalue⟩ :=
      Fields.mem_names_iff.1 ((hnames field.1).2 (List.mem_map_of_mem hfield))
    obtain ⟨decoded, hdecode, hsame⟩ :=
      hrecovers field hfield value (hcontent field hfield value hvalue)
    refine ⟨(field.1, decoded), rfl, ⟨value.toJson, ?_, hdecode⟩, value, hvalue, hsame⟩
    rw [hlookup, hvalue, Option.map_some]
  obtain ⟨decoded, hall⟩ := exists_forall₂ hentries
  have hsame := names_eq_of_forall₂ (hall.imp fun _ _ hentry => hentry.1)
  refine ⟨decoded, decodeFields_eq_ok_iff.2 (hall.imp fun _ _ hentry => ⟨hentry.1, hentry.2.1⟩),
    Value.sameFields_iff.2
      (Fields.forall₂_of_get? (R := fun l r => (l == r) = true)
        (Fields.ascending_ofList decoded) hascending fun name => ?_)⟩
  by_cases hname : name ∈ Fields.names declared
  · -- Whichever of the entries of one name counts, it is equal to the field of this name.
    obtain ⟨held, hheld⟩ := Fields.mem_names_iff.1 <|
      (Fields.mem_names_ofList decoded name).2 (hsame ▸ hname)
    obtain ⟨field, -, heq, -, value, hvalue, hequal⟩ := exists_of_mem_right hall <|
      Fields.mem_of_mem_ofList (Fields.mem_of_get? hheld)
    rw [heq] at hvalue
    rw [hheld, hvalue]
    exact .some hequal
  · rw [Fields.get?_eq_none_iff.2 (mt (Fields.mem_names_ofList decoded name).1 (hsame ▸ hname)),
      Fields.get?_eq_none_iff.2 (mt (hnames name).1 hname)]
    exact .none

theorem mapM_decode_of_recovers {element : ModelType} {values : List Value}
    (hrecovers : ∀ value ∈ values, element.Recovers value) :
    ∃ decoded, (Value.toJsonItems values).mapM element.decode = .ok decoded ∧
      List.Forall₂ (fun l r => (l == r) = true) decoded values := by
  obtain ⟨decoded, hall⟩ := exists_forall₂ hrecovers
  refine ⟨decoded, ?_, (hall.imp fun _ _ hvalue => hvalue.2).flip⟩
  rw [mapM_eq_ok_iff, Value.toJsonItems_eq_map, List.forall₂_map_left_iff]
  exact hall.imp fun _ _ hvalue => hvalue.1

theorem checkRange_of_mem {number low high : Int64} (hlow : low ≤ number) (hhigh : number ≤ high) :
    checkRange number low high = .ok () := by
  refine if_neg (not_or.2 ⟨?_, ?_⟩)
  · exact Int64.not_lt.2 hlow
  · exact Int64.not_lt.2 hhigh

theorem decodeInteger_ofInt64 (number : Int64) (shown : String) :
    decodeInteger (.ofInt64 number) shown = .ok number := by
  simp [decodeInteger, Json.ofInt64, Json.asInt64?]

/-- The tag of a union value is read back from either of its two forms, with the document of its
fields when there are any. -/
theorem decodeTag_toJson (tag : String) (fields : Fields Value) (shown : String) :
    ∃ fields?, decodeTag (Value.either tag fields).toJson shown = .ok (tag, fields?) ∧
      ∀ name, fields?.bind (·.get? name) = (Fields.get? fields name).map Value.toJson := by
  rw [Value.toJson_either]
  split
  · rename_i hempty
    exact ⟨none, rfl, fun name => by simp [hempty]⟩
  · refine ⟨some (.obj (Value.toJsonFields fields)), ?_, fun name => ?_⟩
    · simp [decodeTag, Fields.get?, Json.asString?]
    · rw [Value.toJsonFields_eq_map]
      exact Fields.get?_map Value.toJson fields name

theorem decodeUnion_of_recovers {union : Union} {tag : String} {branch : Variant}
    (hbranch : union.variant? tag = some branch) {fields : Fields Value}
    (hfields : FieldsConform branch.fields fields)
    (hrecovers : ∀ field ∈ branch.fields, ∀ value, Conforms field.2 value →
      field.2.Recovers value)
    {fields? : Option Json}
    (hlookup : ∀ name, fields?.bind (·.get? name) = (Fields.get? fields name).map Value.toJson)
    (document : Json) :
    ∃ decoded, decodeUnion tag fields? document union = .ok decoded ∧
      (decoded == .either tag fields) = true := by
  obtain ⟨_, declared⟩ := branch
  obtain ⟨decoded, hdecode, hsame⟩ :=
    decodeFields_of_recovers hfields hrecovers hlookup tag document.compact
  refine ⟨.either tag (Fields.ofList decoded), ?_, ?_⟩
  · rw [decodeUnion_eq, hbranch]
    dsimp only
    rw [decodeVariant]
    exact bind_eq_ok_iff.2 ⟨decoded, hdecode, rfl⟩
  · simp [Value.beq_def, Value.same, hsame]

theorem recovers_range {low high number : Int64} (hlow : low ≤ number) (hhigh : number ≤ high) :
    Recovers (.range low high) (.number number) := by
  have hcheck := checkRange_of_mem hlow hhigh
  refine ⟨.number number, ?_, BEq.rfl⟩
  rw [decode, Value.toJson, decodeInteger_ofInt64]
  exact bind_eq_ok_iff.2 ⟨number, rfl, bind_eq_ok_iff.2 ⟨(), hcheck, rfl⟩⟩

theorem recovers_record {name : String} {declared : List (String × ModelType)}
    {fields : Fields Value} (hfields : FieldsConform declared fields)
    (hrecovers : ∀ field ∈ declared, ∀ value, Conforms field.2 value → field.2.Recovers value) :
    Recovers (.record name declared) (.record fields) := by
  have hlookup (other : String) : Fields.get? (Value.toJsonFields fields) other =
      (Fields.get? fields other).map Value.toJson := by
    rw [Value.toJsonFields_eq_map]
    exact Fields.get?_map Value.toJson fields other
  obtain ⟨decoded, hdecode, hsame⟩ := decodeFields_of_recovers hfields hrecovers hlookup
    name (Value.record fields).toJson.compact
  refine ⟨.record (Fields.ofList decoded), ?_, hsame⟩
  rw [decode]
  exact bind_eq_ok_iff.2 ⟨decoded, hdecode, rfl⟩

theorem recovers_array {element : ModelType} {low high : Int64} {items : List Value}
    (hlength : items.length = capacity low high) (hrecovers : ∀ item ∈ items, element.Recovers item) :
    Recovers (.array element low high) (.array ⟨low, items⟩) := by
  obtain ⟨decoded, hdecode, hequal⟩ := mapM_decode_of_recovers hrecovers
  refine ⟨.array ⟨low, decoded⟩, ?_, ?_⟩
  · rw [decode, Value.toJson]
    refine bind_eq_ok_iff.2 ⟨_, rfl, ?_⟩
    rw [if_pos (by rw [Value.toJsonItems_eq_map, List.length_map, hlength])]
    exact bind_eq_ok_iff.2 ⟨decoded, hdecode, rfl⟩
  · exact Bool.and_eq_true_iff.2 ⟨BEq.rfl, Value.sameItems_iff.2 hequal⟩

theorem recovers_orderedSet {element : ModelType} {low high : Int64} {set : OrderedSet}
    (hlow : set.low = low) (hcapacity : set.capacity = capacity low high)
    (hdifferent : Value.PairwiseDifferent set.values)
    (hrecovers : ∀ member ∈ set.values, element.Recovers member) :
    Recovers (.orderedSet element low high) (.orderedSet set) := by
  obtain ⟨decoded, hdecode, hequal⟩ := mapM_decode_of_recovers hrecovers
  have hcount : decoded.length = set.values.length := hequal.length_eq
  rw [OrderedSetOf.capacity] at hcapacity
  have hspare : (OrderedSetOf.new element low high).spare.length = capacity low high :=
    List.length_replicate ..
  have hroom : decoded.length ≤ (OrderedSetOf.new element low high).spare.length := by omega
  have hpush : decoded.foldlM OrderedSetOf.push (OrderedSetOf.new element low high) =
      .ok ⟨element, low, decoded,
        (OrderedSetOf.new element low high).spare.drop decoded.length⟩ :=
    OrderedSetOf.foldlM_push_of_different (hdifferent.of_forall₂ hequal) hroom
  refine ⟨.orderedSet ⟨element, low, decoded,
    (OrderedSetOf.new element low high).spare.drop decoded.length⟩, ?_, ?_⟩
  · rw [decode, Value.toJson]
    have hfold := foldlM_bind_eq_ok_iff.2 ⟨decoded, hdecode, hpush⟩
    exact bind_eq_ok_iff.2 ⟨_, rfl, bind_eq_ok_iff.2 ⟨_, hfold, rfl⟩⟩
  · refine Bool.and_eq_true_iff.2 ⟨Bool.and_eq_true_iff.2 ⟨?_, ?_⟩, Value.sameItems_iff.2 hequal⟩
    · exact beq_iff_eq.2 hlow.symm
    · rw [beq_iff_eq, List.length_drop]
      omega

theorem recovers_of_conforms {type : ModelType} {value : Value} (hconforms : Conforms type value) :
    type.Recovers value := by
  induction type using inductionOn generalizing value with
  | number =>
      obtain ⟨number⟩ := hconforms
      refine ⟨.number number, ?_, BEq.rfl⟩
      rw [decode, Value.toJson, decodeInteger_ofInt64]
      rfl
  | range low high =>
      obtain ⟨⟩ | ⟨hlow, hhigh⟩ := hconforms
      exact recovers_range hlow hhigh
  | record name declared ih =>
      cases hconforms with
      | record hfields => exact recovers_record hfields fun field hfield _ => ih field hfield
  | array element low high ih =>
      cases hconforms with
      | array hlength hitems =>
          exact recovers_array hlength fun item hitem => ih (hitems item hitem)
  | either union ih =>
      cases hconforms with
      | @either _ tag branch fields hbranch hfields =>
          have hmem := UnionOf.mem_variants_of_variant? hbranch
          obtain ⟨fields?, htag, hlookup⟩ := decodeTag_toJson tag fields union.name
          obtain ⟨decoded, hdecode, hequal⟩ :=
            decodeUnion_of_recovers hbranch hfields (fun field hfield _ => ih branch hmem field hfield)
              hlookup (Value.either tag fields).toJson
          refine ⟨decoded, ?_, hequal⟩
          rw [decode]
          exact bind_eq_ok_iff.2 ⟨(tag, fields?), htag, hdecode⟩
  | variant parent tag ih =>
      cases hconforms with
      | @variant _ _ branch fields hbranch hfields =>
          have hmem := UnionOf.mem_variants_of_variant? hbranch
          obtain ⟨fields?, htag, hlookup⟩ := decodeTag_toJson tag fields tag
          obtain ⟨decoded, hdecode, hequal⟩ :=
            decodeUnion_of_recovers hbranch hfields (fun field hfield _ => ih branch hmem field hfield)
              hlookup (Value.either tag fields).toJson
          refine ⟨decoded, ?_, hequal⟩
          rw [decode]
          exact bind_eq_ok_iff.2 ⟨(tag, fields?), htag,
            bind_eq_ok_iff.2 ⟨decoded, hdecode, if_pos rfl⟩⟩
  | orderedSet element low high ih =>
      cases hconforms with
      | orderedSet hlow hcapacity hdifferent hvalues =>
          apply recovers_orderedSet hlow hcapacity hdifferent
          exact fun member hmember => ih (hvalues member hmember)

/-- Decoding undoes encoding: exactly the values that conform to a type are kept by their documents,
and nothing else comes out of any document. -/
theorem decode_inverts_toJson {type : ModelType} (hdistinct : type.DistinctFields) :
    (∀ value, Conforms type value →
      ∃ decoded, type.decode value.toJson = .ok decoded ∧ (decoded == value) = true) ∧
    ∀ document value, type.decode document = .ok value →
      Conforms type value ∧
        ∃ decoded, type.decode value.toJson = .ok decoded ∧ (decoded == value) = true := by
  refine ⟨fun value hconforms => recovers_of_conforms hconforms, ?_⟩
  intro document value hdecode
  have hconforms := conforms_of_decode hdistinct hdecode
  exact ⟨hconforms, recovers_of_conforms hconforms⟩

/-- A pile of at most two cards, some of which have a rank. -/
def pileType : ModelType :=
  .record "Pile" [("top", .range (-1) 1), ("cards", .orderedSet (.either ⟨"Card", ⟨"Joker", []⟩,
    [⟨"Ranked", [("rank", .range 1 13)]⟩]⟩) 0 1)]

def pile : Value :=
  .record [("cards", .orderedSet ⟨.number, 0, [.either "Ranked" [("rank", .number 13)]],
    [.number 0]⟩), ("top", .number (-1))]

theorem distinctFields_pileType : pileType.DistinctFields := by
  refine .record (by decide) ?_
  simp only [List.forall_mem_cons]
  refine ⟨.range _ _, .orderedSet (.either (by decide) ?_), by simp⟩
  simp [UnionOf.variants]
  exact .range 1 13

theorem decode_inverts_toJson_pile :
    pileType.DistinctFields ∧ Conforms pileType pile ∧
      ∃ decoded, pileType.decode pile.toJson = .ok decoded ∧ (decoded == pile) = true ∧
        Conforms pileType decoded := by
  have hrank : FieldsConform [("rank", .range 1 13)] [("rank", .number 13)] := by
    refine .intro (List.pairwise_singleton ..) (fun _ => Iff.rfl) ?_
    simp only [List.forall_mem_singleton]
    intro value hvalue
    cases hvalue
    exact .range (by decide) (by decide)
  have hcards : Conforms (.orderedSet (.either ⟨"Card", ⟨"Joker", []⟩,
      [⟨"Ranked", [("rank", .range 1 13)]⟩]⟩) 0 1)
      (.orderedSet ⟨.number, 0, [.either "Ranked" [("rank", .number 13)]], [.number 0]⟩) := by
    refine .orderedSet rfl (by decide) (List.pairwise_singleton ..) ?_
    simp only [List.forall_mem_singleton]
    apply Conforms.either
    · rfl
    · exact hrank
  have hconforms : Conforms pileType pile := by
    refine .record (.intro ?_ ?_ ?_)
    · exact List.pairwise_cons.2 ⟨by decide, List.pairwise_singleton ..⟩
    · simp [Fields.names, or_comm]
    · simp only [List.forall_mem_cons]
      refine ⟨?_, ?_, by simp⟩
      · intro value hvalue
        cases hvalue
        exact .range (by decide) (by decide)
      · intro value hvalue
        cases hvalue
        exact hcards
  obtain ⟨decoded, hdecode, hequal⟩ :=
    (decode_inverts_toJson distinctFields_pileType).1 pile hconforms
  obtain ⟨hkept, -⟩ := (decode_inverts_toJson distinctFields_pileType).2 _ _ hdecode
  exact ⟨distinctFields_pileType, hconforms, decoded, hdecode, hequal, hkept⟩

end TransitionEngine.ModelType
