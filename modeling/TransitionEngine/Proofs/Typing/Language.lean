import TransitionEngine.Proofs.Typing.RoundTrip

/-!
# The language of a type

Which documents a type decodes is said here by a grammar: a rule for every kind of type, with two forms for
the members of a union. Decoding succeeds for exactly the documents of this language. Where it fails because
something is beyond bounds, there is a number beyond its range, or an array with more different members
than its set has places.
-/

namespace TransitionEngine.ModelType

/-- Among the values that are decoded from the documents there are at most so many different ones. -/
def DecodesAtMost (element : ModelType) (count : Nat) (items : List Json) : Prop :=
  ∀ values : List Value, Value.PairwiseDifferent values →
    (∀ value ∈ values, ∃ item ∈ items, element.decode item = .ok value) → values.length ≤ count

mutual

/-- The document is one of the language of the type. -/
inductive Reads : ModelType → Json → Prop
  | number {n : Int} (hlow : Int64.minValue.toInt ≤ n) (hhigh : n ≤ Int64.maxValue.toInt) :
      Reads .number (.int n)
  | range {low high : Int64} {n : Int} (hlow : low.toInt ≤ n) (hhigh : n ≤ high.toInt) :
      Reads (.range low high) (.int n)
  | record {name : String} {declared : List (String × ModelType)} {object : Fields Json}
      (hfields : FieldsRead declared (Fields.get? object)) : Reads (.record name declared) (.obj object)
  | array {element : ModelType} {low high : Int64} {items : List Json}
      (hlength : items.length = capacity low high) (hitems : ∀ item ∈ items, Reads element item) :
      Reads (.array element low high) (.arr items)
  | either {union : Union} {tag : String} {document : Json} (hunion : UnionReads union tag document) :
      Reads (.either union) document
  | variant {parent : Union} {tag : String} {document : Json}
      (hunion : UnionReads parent tag document) : Reads (.variant parent tag) document
  | orderedSet {element : ModelType} {low high : Int64} {items : List Json}
      (hitems : ∀ item ∈ items, Reads element item)
      (hroom : element.DecodesAtMost (capacity low high) items) :
      Reads (.orderedSet element low high) (.arr items)

/-- Every declared field is found, with a document of its type. -/
inductive FieldsRead : List (String × ModelType) → (String → Option Json) → Prop
  | intro {declared : List (String × ModelType)} {lookup : String → Option Json}
      (hfound : ∀ field ∈ declared, ∃ content, lookup field.1 = some content)
      (hcontent : ∀ field ∈ declared, ∀ content, lookup field.1 = some content →
        Reads field.2 content) : FieldsRead declared lookup

/-- The document names a branch of the union by its tag: alone when the branch has no fields, or in an
object that has its fields beside it. -/
inductive UnionReads : Union → String → Json → Prop
  | bare {union : Union} {tag : String} {branch : Variant} (hbranch : union.variant? tag = some branch)
      (hunit : branch.fields = []) : UnionReads union tag (.str tag)
  | tagged {union : Union} {tag : String} {branch : Variant} {object : Fields Json}
      (htag : Fields.get? object "tag" = some (.str tag)) (hbranch : union.variant? tag = some branch)
      (hfields : FieldsRead branch.fields fun name => (Fields.get? object "fields").bind (·.get? name)) :
      UnionReads union tag (.obj object)

end

mutual

/-- At a place that the type looks at there is a number beyond its range, or an array with more different
members than its set has places. -/
inductive Exceeds : ModelType → Json → Prop
  | range {low high : Int64} {n : Int} (hbeyond : n < low.toInt ∨ high.toInt < n) :
      Exceeds (.range low high) (.int n)
  | record {name : String} {declared : List (String × ModelType)} {object : Fields Json}
      (hfield : FieldExceeds declared (Fields.get? object)) : Exceeds (.record name declared) (.obj object)
  | array {element : ModelType} {low high : Int64} {items : List Json} {item : Json}
      (hitem : item ∈ items) (hexceeds : Exceeds element item) :
      Exceeds (.array element low high) (.arr items)
  | either {union : Union} {document : Json} (hunion : UnionExceeds union document) :
      Exceeds (.either union) document
  | variant {parent : Union} {tag : String} {document : Json} (hunion : UnionExceeds parent document) :
      Exceeds (.variant parent tag) document
  | member {element : ModelType} {low high : Int64} {items : List Json} {item : Json}
      (hitem : item ∈ items) (hexceeds : Exceeds element item) :
      Exceeds (.orderedSet element low high) (.arr items)
  | orderedSet {element : ModelType} {low high : Int64} {items : List Json}
      (hmore : ¬ element.DecodesAtMost (capacity low high) items) :
      Exceeds (.orderedSet element low high) (.arr items)

inductive FieldExceeds : List (String × ModelType) → (String → Option Json) → Prop
  | intro {declared : List (String × ModelType)} {lookup : String → Option Json}
      {field : String × ModelType} {content : Json} (hfield : field ∈ declared)
      (hlookup : lookup field.1 = some content) (hexceeds : Exceeds field.2 content) :
      FieldExceeds declared lookup

inductive UnionExceeds : Union → Json → Prop
  | intro {union : Union} {tag : String} {branch : Variant} {object : Fields Json}
      (htag : Fields.get? object "tag" = some (.str tag)) (hbranch : union.variant? tag = some branch)
      (hfield : FieldExceeds branch.fields fun name => (Fields.get? object "fields").bind (·.get? name)) :
      UnionExceeds union (.obj object)

end

mutual

/-- What exceeds a type is not of its language. -/
theorem Exceeds.not_reads : ∀ {type : ModelType} {document : Json}, type.Exceeds document →
    ¬ type.Reads document
  | _, _, .range hbeyond, .range hlow hhigh => by omega
  | _, _, .record hfield, .record hfields => hfield.not_fieldsRead hfields
  | _, _, .array hitem hinner, .array _ hitems => hinner.not_reads (hitems _ hitem)
  | _, _, .either hbranch, .either hunion => hbranch.not_unionReads hunion
  | _, _, .variant hbranch, .variant hunion => hbranch.not_unionReads hunion
  | _, _, .member hitem hinner, .orderedSet hitems _ => hinner.not_reads (hitems _ hitem)
  | _, _, .orderedSet hmore, .orderedSet _ hroom => hmore hroom

theorem FieldExceeds.not_fieldsRead : ∀ {declared : List (String × ModelType)}
    {lookup : String → Option Json}, FieldExceeds declared lookup → ¬ FieldsRead declared lookup
  | _, _, .intro hfield hlookup hinner, .intro _ hcontent =>
      hinner.not_reads (hcontent _ hfield _ hlookup)

theorem UnionExceeds.not_unionReads : ∀ {union : Union} {tag : String} {document : Json},
    UnionExceeds union document → ¬ UnionReads union tag document
  | _, _, _, .intro htag hbranch hfield, .tagged hother hnamed hfields => by
      obtain rfl := Json.str.inj (Option.some.inj (htag.symm.trans hother))
      obtain rfl := Option.some.inj (hbranch.symm.trans hnamed)
      exact hfield.not_fieldsRead hfields

end

/-! ### The parts of a document -/

theorem decodeInteger_eq_ok_iff {document : Json} {shown : String} {n : Int64} :
    decodeInteger document shown = .ok n ↔ document = .ofInt64 n := by
  constructor
  · intro hdecode
    unfold decodeInteger at hdecode
    split at hdecode
    · rename_i integer hinteger
      obtain rfl := Except.ok.inj hdecode
      cases document with
      | int value => rw [Json.ofInt64, toInt_of_int64? hinteger]
      | _ => cases hinteger
    · cases hdecode
  · rintro rfl
    exact decodeInteger_ofInt64 n shown

theorem decodeArray_eq_ok_iff {document : Json} {shown : String} {items : List Json} :
    decodeArray document shown = .ok items ↔ document = .arr items := by
  cases document <;> simp [decodeArray, Json.asArray?]

/-- The tag is found in both forms of a union document, the fields in one of them. -/
theorem decodeTag_eq_ok_iff {document : Json} {shown tag : String} {fields? : Option Json} :
    decodeTag document shown = .ok (tag, fields?) ↔
      document = .str tag ∧ fields? = none ∨
        ∃ object, document = .obj object ∧ Fields.get? object "tag" = some (.str tag) ∧
          fields? = Fields.get? object "fields" := by
  cases document with
  | str text => simp [decodeTag, eq_comm]
  | obj object =>
      simp only [decodeTag, reduceCtorEq, false_and, Json.obj.injEq, exists_eq_left', false_or]
      cases htag : Fields.get? object "tag" with
      | none => simp
      | some content => cases content <;> simp [Json.asString?, eq_comm]
  | _ => simp [decodeTag]

theorem exists_toInt_eq {n : Int} (hlow : Int64.minValue.toInt ≤ n)
    (hhigh : n ≤ Int64.maxValue.toInt) : ∃ number : Int64, number.toInt = n := by
  have hsome : int64? n = some (Int64.ofInt n) := if_pos ⟨hlow, hhigh⟩
  exact ⟨Int64.ofInt n, toInt_of_int64? hsome⟩

/-! ### What is decoded -/

section Fields

variable {declared : List (String × ModelType)}
  (hreads : ∀ field ∈ declared, ∀ document,
    (∃ value, field.2.decode document = .ok value) ↔ field.2.Reads document)

include hreads

theorem exists_decodeFields_iff {lookup : String → Option Json} {holder shown : String} :
    (∃ decoded, decodeFields declared lookup holder shown = .ok decoded) ↔
      FieldsRead declared lookup := by
  constructor
  · rintro ⟨decoded, hdecoded⟩
    rw [decodeFields_eq_ok_iff] at hdecoded
    have hfields : ∀ field ∈ declared, ∃ content value, lookup field.1 = some content ∧
        field.2.decode content = .ok value := by
      intro field hfield
      obtain ⟨entry, -, -, content, hcontent, hvalue⟩ := Success.exists_of_mem_left hdecoded hfield
      exact ⟨content, entry.2, hcontent, hvalue⟩
    refine .intro (fun field hfield => ?_) fun field hfield content hcontent => ?_
    · obtain ⟨content, -, hcontent, -⟩ := hfields field hfield
      exact ⟨content, hcontent⟩
    · obtain ⟨found, value, hfound, hvalue⟩ := hfields field hfield
      obtain rfl : found = content := by simpa [hfound] using hcontent
      exact (hreads field hfield found).1 ⟨value, hvalue⟩
  · rintro ⟨hfound, hcontent⟩
    have hentries : ∀ field ∈ declared, ∃ entry : String × Value, field.1 = entry.1 ∧ ∃ document,
        lookup field.1 = some document ∧ field.2.decode document = .ok entry.2 := by
      intro field hfield
      obtain ⟨content, hlookup⟩ := hfound field hfield
      obtain ⟨value, hvalue⟩ := (hreads field hfield content).2 (hcontent field hfield content hlookup)
      exact ⟨(field.1, value), rfl, content, hlookup, hvalue⟩
    obtain ⟨decoded, hdecoded⟩ := Success.exists_forall₂ hentries
    exact ⟨decoded, decodeFields_eq_ok_iff.2 hdecoded⟩

end Fields

theorem fieldsRead_none_iff {declared : List (String × ModelType)} :
    FieldsRead declared (fun _ => none) ↔ declared = [] := by
  constructor
  · rintro ⟨hfound, -⟩
    rw [List.eq_nil_iff_forall_not_mem]
    intro field hfield
    obtain ⟨content, hcontent⟩ := hfound field hfield
    cases hcontent
  · rintro rfl
    exact .intro (List.forall_mem_nil _) (List.forall_mem_nil _)

section Unions

variable {union : Union}
  (hreads : ∀ branch ∈ union.variants, ∀ field ∈ branch.fields, ∀ document,
    (∃ value, field.2.decode document = .ok value) ↔ field.2.Reads document)

include hreads

theorem exists_decodeUnion_iff {tag : String} {fields? : Option Json} {document : Json} :
    (∃ value, decodeUnion tag fields? document union = .ok value) ↔
      ∃ branch, union.variant? tag = some branch ∧
        FieldsRead branch.fields fun name => fields?.bind (·.get? name) := by
  constructor
  · rintro ⟨value, hvalue⟩
    obtain ⟨branch, decoded, hbranch, hdecoded, -⟩ := decodeUnion_eq_ok hvalue
    have hfields := hreads branch (UnionOf.mem_variants_of_variant? hbranch)
    exact ⟨branch, hbranch, (exists_decodeFields_iff hfields).1 ⟨decoded, hdecoded⟩⟩
  · rintro ⟨branch, hbranch, hread⟩
    have hfields := hreads branch (UnionOf.mem_variants_of_variant? hbranch)
    obtain ⟨decoded, hdecoded⟩ := (exists_decodeFields_iff hfields).2 hread
    obtain ⟨own, declared⟩ := branch
    refine ⟨.either tag (Fields.ofList decoded), ?_⟩
    rw [decodeUnion_eq, hbranch]
    dsimp only
    rw [decodeVariant]
    exact Success.bind_eq_ok_iff.2 ⟨decoded, hdecoded, rfl⟩

/-- A tag with what is found beside it is decoded when the document names this branch. -/
theorem exists_decodeTag_iff {tag shown : String} {document : Json} :
    (∃ fields?, decodeTag document shown = .ok (tag, fields?) ∧
        ∃ value, decodeUnion tag fields? document union = .ok value) ↔ UnionReads union tag document := by
  simp only [decodeTag_eq_ok_iff, exists_decodeUnion_iff hreads]
  constructor
  · rintro ⟨fields?, ⟨rfl, rfl⟩ | ⟨object, rfl, htag, rfl⟩, branch, hbranch, hfields⟩
    · exact .bare hbranch (fieldsRead_none_iff.1 hfields)
    · exact .tagged htag hbranch hfields
  · intro hread
    cases hread with
    | bare hbranch hunit =>
        exact ⟨none, .inl ⟨rfl, rfl⟩, _, hbranch, fieldsRead_none_iff.2 hunit⟩
    | tagged htag hbranch hfields => exact ⟨_, .inr ⟨_, rfl, htag, rfl⟩, _, hbranch, hfields⟩

end Unions

section Sets

variable {element : ModelType} {low high : Int64} {items : List Json}

theorem decodesAtMost_of_foldlM {set : OrderedSet}
    (hfold : items.foldlM (fun set item => element.decode item >>= set.push)
      (OrderedSetOf.new element low high) = .ok set) :
    element.DecodesAtMost (capacity low high) items := by
  obtain ⟨decoded, hdecoded, hpush⟩ := Success.foldlM_bind_eq_ok_iff.1 hfold
  rw [Success.mapM_eq_ok_iff] at hdecoded
  obtain ⟨-, hmembers⟩ := OrderedSetOf.contains_of_foldlM_push hpush
  intro values hdifferent hvalues
  have hoccur : ∀ value ∈ values, ∃ member ∈ set.values, (value == member) = true := by
    intro value hvalue
    obtain ⟨item, hitem, hdecode⟩ := hvalues value hvalue
    obtain ⟨result, hresult, hsame⟩ := Success.exists_of_mem_left hdecoded hitem
    obtain rfl : value = result := Except.ok.inj (hdecode.symm.trans hsame)
    obtain ⟨member, hmember, hequal⟩ := List.any_eq_true.1 (hmembers value hresult)
    exact ⟨member, hmember, BEq.symm hequal⟩
  calc values.length ≤ set.values.length := hdifferent.length_le hoccur
    _ ≤ set.capacity := Nat.le_add_right ..
    _ = (OrderedSetOf.new element low high).capacity := OrderedSetOf.capacity_foldlM_push hpush
    _ = capacity low high := by simp [OrderedSetOf.new, OrderedSetOf.capacity]

/-- A value that the set has no place for makes one more different value than there are places. -/
theorem not_decodesAtMost_of_push {earlier later : List Json} {item : Json} {values : List Value}
    {set : OrderedSet} {value : Value} {error : ValueError}
    (hvalues : earlier.mapM element.decode = .ok values)
    (hfold : values.foldlM OrderedSetOf.push (OrderedSetOf.new element low high) = .ok set)
    (hvalue : element.decode item = .ok value) (hpush : set.push value = .error error) :
    ¬ element.DecodesAtMost (capacity low high) (earlier ++ item :: later) := by
  obtain ⟨hnew, hfull⟩ := OrderedSetOf.full_of_push_eq_error hpush
  have hcapacity : set.values.length = capacity low high := by
    have hset := OrderedSetOf.capacity_foldlM_push hfold
    simpa [OrderedSetOf.new, OrderedSetOf.capacity, hfull] using hset
  have hdifferent : Value.PairwiseDifferent (set.values ++ [value]) := by
    have hempty : Value.PairwiseDifferent (OrderedSetOf.new element low high).values := .nil
    exact OrderedSetOf.pairwiseDifferent_append_singleton
      (OrderedSetOf.pairwiseDifferent_foldlM_push hempty hfold)
      (OrderedSetOf.contains_eq_false_iff.1 hnew)
  intro hroom
  have hcount : (set.values ++ [value]).length ≤ capacity low high := by
    refine hroom _ hdifferent fun member hmember => ?_
    rcases List.mem_append.1 hmember with hold | hlast
    · have hpushed : member ∈ values := by
        rcases OrderedSetOf.mem_or_mem_of_foldlM_push hfold member hold with hstart | hpushed
        · cases hstart
        · exact hpushed
      obtain ⟨source, hsource, hdecode⟩ :=
        Success.exists_of_mem_right (Success.mapM_eq_ok_iff.1 hvalues) hpushed
      exact ⟨source, List.mem_append_left _ hsource, hdecode⟩
    · rw [List.mem_singleton.1 hlast]
      exact ⟨item, List.mem_append_right _ (List.mem_cons_self ..), hvalue⟩
  rw [List.length_append, List.length_singleton] at hcount
  omega

end Sets

/-- A document is decoded exactly when it is one of the language. -/
theorem exists_decode_iff (type : ModelType) (document : Json) :
    (∃ value, type.decode document = .ok value) ↔ type.Reads document := by
  induction type using inductionOn generalizing document with
  | number =>
      simp only [decode, Success.bind_eq_ok_iff, decodeInteger_eq_ok_iff]
      constructor
      · rintro ⟨-, n, rfl, -⟩
        exact .number n.minValue_le_toInt n.toInt_le
      · intro hread
        cases hread with
        | number hlow hhigh =>
            obtain ⟨n, rfl⟩ := exists_toInt_eq hlow hhigh
            exact ⟨.number n, n, rfl, rfl⟩
  | range low high =>
      simp only [decode, Success.bind_eq_ok_iff, decodeInteger_eq_ok_iff]
      constructor
      · rintro ⟨-, n, rfl, ⟨⟩, hcheck, -⟩
        obtain ⟨⟩ | ⟨hlow, hhigh⟩ := conforms_of_checkRange hcheck
        exact .range (Int64.le_iff_toInt_le.1 hlow) (Int64.le_iff_toInt_le.1 hhigh)
      · intro hread
        cases hread with
        | range hlow hhigh =>
            obtain ⟨n, rfl⟩ := exists_toInt_eq (Int.le_trans low.minValue_le_toInt hlow)
              (Int.le_trans hhigh high.toInt_le)
            have hcheck := checkRange_of_mem (Int64.le_iff_toInt_le.2 hlow)
              (Int64.le_iff_toInt_le.2 hhigh)
            exact ⟨.number n, n, rfl, (), hcheck, rfl⟩
  | record name declared ih =>
      constructor
      · rintro ⟨value, hvalue⟩
        cases document with
        | obj object =>
            obtain ⟨decoded, hdecoded, -⟩ := Success.bind_eq_ok_iff.1 hvalue
            exact .record ((exists_decodeFields_iff ih).1 ⟨decoded, hdecoded⟩)
        | _ => cases hvalue
      · intro hread
        cases hread with
        | record hfields =>
            obtain ⟨decoded, hdecoded⟩ := (exists_decodeFields_iff ih).2 hfields
            exact ⟨_, Success.bind_eq_ok_iff.2 ⟨decoded, hdecoded, rfl⟩⟩
  | array element low high ih =>
      simp only [decode, Success.bind_eq_ok_iff, decodeArray_eq_ok_iff]
      constructor
      · rintro ⟨value, items, rfl, hrest⟩
        split at hrest
        · rename_i hlength
          obtain ⟨decoded, hdecoded, -⟩ := Success.bind_eq_ok_iff.1 hrest
          rw [Success.mapM_eq_ok_iff] at hdecoded
          refine .array hlength fun item hitem => (ih item).1 ?_
          obtain ⟨result, -, hresult⟩ := Success.exists_of_mem_left hdecoded hitem
          exact ⟨result, hresult⟩
        · cases hrest
      · intro hread
        cases hread with
        | @array _ _ _ items hlength hitems =>
            obtain ⟨decoded, hdecoded⟩ :=
              Success.exists_forall₂ fun item hitem => (ih item).2 (hitems item hitem)
            refine ⟨.array ⟨low, decoded⟩, items, rfl, ?_⟩
            rw [if_pos hlength]
            exact Success.bind_eq_ok_iff.2 ⟨decoded, Success.mapM_eq_ok_iff.2 hdecoded, rfl⟩
  | either union ih =>
      simp only [decode, Success.bind_eq_ok_iff, Prod.exists]
      constructor
      · rintro ⟨value, tag, fields?, htag, hvalue⟩
        exact .either ((exists_decodeTag_iff ih).1 ⟨fields?, htag, value, hvalue⟩)
      · intro hread
        cases hread with
        | either hunion =>
            obtain ⟨fields?, htag, value, hvalue⟩ := (exists_decodeTag_iff ih).2 hunion
            exact ⟨value, _, fields?, htag, hvalue⟩
  | variant parent expected ih =>
      simp only [decode, Success.bind_eq_ok_iff, Prod.exists]
      constructor
      · rintro ⟨value, tag, fields?, htag, whole, hwhole, hvalue⟩
        split at hvalue
        · rename_i hexpected
          subst hexpected
          exact .variant ((exists_decodeTag_iff ih).1 ⟨fields?, htag, whole, hwhole⟩)
        · cases hvalue
      · intro hread
        cases hread with
        | variant hunion =>
            obtain ⟨fields?, htag, value, hvalue⟩ := (exists_decodeTag_iff ih).2 hunion
            exact ⟨value, expected, fields?, htag, value, hvalue, if_pos rfl⟩
  | orderedSet element low high ih =>
      simp only [decode, Success.bind_eq_ok_iff, decodeArray_eq_ok_iff]
      constructor
      · rintro ⟨-, items, rfl, set, hfold, -⟩
        refine .orderedSet (fun item hitem => (ih item).1 ?_) (decodesAtMost_of_foldlM hfold)
        obtain ⟨decoded, hdecoded, -⟩ := Success.foldlM_bind_eq_ok_iff.1 hfold
        obtain ⟨result, -, hresult⟩ :=
          Success.exists_of_mem_left (Success.mapM_eq_ok_iff.1 hdecoded) hitem
        exact ⟨result, hresult⟩
      · intro hread
        cases hread with
        | @orderedSet _ _ _ items hitems hroom =>
            cases hfold : items.foldlM (fun set item => element.decode item >>= set.push)
                (OrderedSetOf.new element low high) with
            | ok set => exact ⟨.orderedSet set, items, rfl, set, hfold, rfl⟩
            | error error =>
                -- The push that fails finds one different member more than there are places.
                exfalso
                rcases Success.exists_of_foldlM_bind_eq_error hfold with ⟨item, hitem, hfails⟩ |
                  ⟨earlier, item, later, values, set, value, rfl, hvalues, hpushed, hvalue, hpush⟩
                · obtain ⟨value, hvalue⟩ := (ih item).2 (hitems item hitem)
                  rw [hfails] at hvalue
                  cases hvalue
                · exact not_decodesAtMost_of_push hvalues hpushed hvalue hpush hroom

/-! ### What is refused by bounds -/

theorem decodeInteger_ne_bounds {document : Json} {shown : String} {cause : BoundsCause} :
    decodeInteger document shown ≠ .error (.bounds cause) := by
  unfold decodeInteger
  split <;> simp [undecodable]

theorem decodeArray_ne_bounds {document : Json} {shown : String} {cause : BoundsCause} :
    decodeArray document shown ≠ .error (.bounds cause) := by
  unfold decodeArray
  split <;> simp [undecodable]

theorem decodeTag_ne_bounds {document : Json} {shown : String} {cause : BoundsCause} :
    decodeTag document shown ≠ .error (.bounds cause) := by
  unfold decodeTag
  repeat' split
  all_goals simp [undecodable]

theorem fieldExceeds_of_decodeFields {declared : List (String × ModelType)}
    {lookup : String → Option Json} {holder shown : String} {cause : BoundsCause}
    (hexceeds : ∀ field ∈ declared, ∀ document,
      field.2.decode document = .error (.bounds cause) → field.2.Exceeds document)
    (hfailed : decodeFields declared lookup holder shown = .error (.bounds cause)) :
    FieldExceeds declared lookup := by
  induction declared with
  | nil => cases hfailed
  | cons field rest ih =>
      obtain ⟨hfirst, hothers⟩ := List.forall_mem_cons.1 hexceeds
      rw [decodeFields] at hfailed
      split at hfailed
      · cases hfailed
      · rename_i content hcontent
        rcases Success.bind_eq_error_iff.1 hfailed with hvalue | ⟨value, -, hrest⟩
        · exact .intro (List.mem_cons_self ..) hcontent (hfirst content hvalue)
        · rcases Success.bind_eq_error_iff.1 hrest with hfields | ⟨decoded, -, hdone⟩
          · obtain ⟨hfield, hlookup, hinner⟩ := ih hothers hfields
            exact .intro (List.mem_cons_of_mem _ hfield) hlookup hinner
          · cases hdone

theorem unionExceeds_of_decode {union : Union} {cause : BoundsCause}
    (hexceeds : ∀ branch ∈ union.variants, ∀ field ∈ branch.fields, ∀ document,
      field.2.decode document = .error (.bounds cause) → field.2.Exceeds document)
    {document : Json} {shown tag : String} {fields? : Option Json}
    (htag : decodeTag document shown = .ok (tag, fields?))
    (hfailed : decodeUnion tag fields? document union = .error (.bounds cause)) :
    UnionExceeds union document := by
  rw [decodeUnion_eq] at hfailed
  cases hbranch : union.variant? tag with
  | none =>
      rw [hbranch] at hfailed
      cases hfailed
  | some branch =>
      have hfields := hexceeds branch (UnionOf.mem_variants_of_variant? hbranch)
      obtain ⟨own, declared⟩ := branch
      rw [hbranch] at hfailed
      dsimp only at hfailed
      rw [decodeVariant] at hfailed
      rcases Success.bind_eq_error_iff.1 hfailed with hdecoded | ⟨decoded, -, hdone⟩
      · have hfield := fieldExceeds_of_decodeFields hfields hdecoded
        rcases decodeTag_eq_ok_iff.1 htag with ⟨rfl, rfl⟩ | ⟨object, rfl, hfound, rfl⟩
        · obtain ⟨-, hlookup, -⟩ := hfield
          cases hlookup
        · exact .intro hfound hbranch hfield
      · cases hdone

/-- Where decoding fails because something is beyond bounds, the document exceeds what the type holds. -/
theorem exceeds_of_decode {type : ModelType} {document : Json} {cause : BoundsCause}
    (hfailed : type.decode document = .error (.bounds cause)) : type.Exceeds document := by
  induction type using inductionOn generalizing document with
  | number =>
      rw [decode] at hfailed
      rcases Success.bind_eq_error_iff.1 hfailed with hnumber | ⟨n, -, hdone⟩
      · exact absurd hnumber decodeInteger_ne_bounds
      · cases hdone
  | range low high =>
      rw [decode] at hfailed
      rcases Success.bind_eq_error_iff.1 hfailed with hnumber | ⟨n, hn, hrest⟩
      · exact absurd hnumber decodeInteger_ne_bounds
      · obtain rfl := decodeInteger_eq_ok_iff.1 hn
        rcases Success.bind_eq_error_iff.1 hrest with hcheck | ⟨⟨⟩, -, hdone⟩
        · unfold checkRange at hcheck
          split at hcheck
          · rename_i hbeyond
            exact .range (hbeyond.imp Int64.lt_iff_toInt_lt.1 Int64.lt_iff_toInt_lt.1)
          · cases hcheck
        · cases hdone
  | record name declared ih =>
      cases document with
      | obj object =>
          rcases Success.bind_eq_error_iff.1 hfailed with hfields | ⟨decoded, -, hdone⟩
          · exact .record (fieldExceeds_of_decodeFields (fun field hfield _ => ih field hfield) hfields)
          · cases hdone
      | _ => cases hfailed
  | array element low high ih =>
      rw [decode] at hfailed
      rcases Success.bind_eq_error_iff.1 hfailed with hitems | ⟨items, hitems, hrest⟩
      · exact absurd hitems decodeArray_ne_bounds
      · obtain rfl := decodeArray_eq_ok_iff.1 hitems
        split at hrest
        · rcases Success.bind_eq_error_iff.1 hrest with hdecoded | ⟨decoded, -, hdone⟩
          · obtain ⟨item, hitem, hfails⟩ := Success.exists_of_mapM_eq_error hdecoded
            exact .array hitem (ih hfails)
          · cases hdone
        · cases hrest
  | either union ih =>
      rw [decode] at hfailed
      rcases Success.bind_eq_error_iff.1 hfailed with htag | ⟨⟨tag, fields?⟩, htag, hunion⟩
      · exact absurd htag decodeTag_ne_bounds
      · refine .either (unionExceeds_of_decode (fun branch hbranch field hfield _ => ?_) htag hunion)
        exact ih branch hbranch field hfield
  | variant parent expected ih =>
      rw [decode] at hfailed
      rcases Success.bind_eq_error_iff.1 hfailed with htag | ⟨⟨tag, fields?⟩, htag, hrest⟩
      · exact absurd htag decodeTag_ne_bounds
      · rcases Success.bind_eq_error_iff.1 hrest with hunion | ⟨value, -, hdone⟩
        · refine .variant (unionExceeds_of_decode (fun branch hbranch field hfield _ => ?_) htag hunion)
          exact ih branch hbranch field hfield
        · split at hdone <;> cases hdone
  | orderedSet element low high ih =>
      rw [decode] at hfailed
      rcases Success.bind_eq_error_iff.1 hfailed with hitems | ⟨items, hitems, hrest⟩
      · exact absurd hitems decodeArray_ne_bounds
      · obtain rfl := decodeArray_eq_ok_iff.1 hitems
        rcases Success.bind_eq_error_iff.1 hrest with hfold | ⟨set, -, hdone⟩
        · rcases Success.exists_of_foldlM_bind_eq_error hfold with ⟨item, hitem, hfails⟩ |
            ⟨earlier, item, later, values, set, value, rfl, hvalues, hpushed, hvalue, hpush⟩
          · exact .member hitem (ih hfails)
          · exact .orderedSet (not_decodesAtMost_of_push hvalues hpushed hvalue hpush)
        · cases hdone

/-- A type decodes exactly the documents of its language. Of the others it refuses by bounds none but those
that hold a number beyond its range, or more different members than their set has places; all else is an
internal error. -/
theorem decode_accepts_language (type : ModelType) (document : Json) :
    ((∃ value, type.decode document = .ok value) ↔ type.Reads document) ∧
      ∀ error, type.decode document = .error error →
        (∃ cause, error = .internal cause) ∨
          (∃ cause, error = .bounds cause) ∧ type.Exceeds document := by
  refine ⟨exists_decode_iff type document, fun error hfailed => ?_⟩
  cases error with
  | bounds cause => exact .inr ⟨⟨cause, rfl⟩, exceeds_of_decode hfailed⟩
  | internal cause => exact .inl ⟨cause, rfl⟩

/-- A row of two different pips takes one of them again, but no third. -/
theorem decode_accepts_language_pips :
    Reads (.orderedSet (.range 1 6) 0 1) (.arr [.int 3, .int 5, .int 3]) ∧
      Exceeds (.orderedSet (.range 1 6) 0 1) (.arr [.int 3, .int 5, .int 4]) := by
  obtain ⟨hreads, -⟩ := decode_accepts_language (.orderedSet (.range 1 6) 0 1)
    (.arr [.int 3, .int 5, .int 3])
  obtain ⟨-, hrefused⟩ := decode_accepts_language (.orderedSet (.range 1 6) 0 1)
    (.arr [.int 3, .int 5, .int 4])
  refine ⟨hreads.1 ⟨_, rfl⟩, ?_⟩
  obtain ⟨cause, hcause⟩ | ⟨-, hexceeds⟩ := hrefused _ rfl
  · cases hcause
  · exact hexceeds

end TransitionEngine.ModelType
