import TransitionEngine.Proofs.Fields
import TransitionEngine.Proofs.Json.Integral
import TransitionEngine.Wire.Forms

/-!
# Reading what was written

Every wire form is read back as the value it was written for. Entries that a form does not know do not matter,
so that a form may be read from a document with more in it than was written.
-/

namespace TransitionEngine

theorem NameSet.ofList_names (set : NameSet) : ofList set.names = set := by
  ext name
  rw [mem_ofList, mem_def]

namespace Json

/-- The document with entries added to it, if it is an object. -/
def withEntries (document : Json) (entries : Fields Json) : Json :=
  match document with
  | .obj fields => .obj (entries.foldl (fun fields entry => Fields.put entry.1 entry.2 fields) fields)
  | other => other

@[simp]
theorem withEntries_nil (document : Json) : document.withEntries [] = document := by
  cases document <;> rfl

/-- What is added leaves what stands under other names. -/
theorem exists_withEntries {entries : Fields Json} (hdistinct : (Fields.names entries).Nodup)
    (extra : Fields Json) :
    ∃ fields, (object entries).withEntries extra = .obj fields ∧
      ∀ name ∉ Fields.names extra, Fields.get? fields name = Fields.get? entries name := by
  refine ⟨_, rfl, fun name hname => ?_⟩
  rw [Fields.get?_foldl_put_of_not_mem hname, Fields.get?_ofList hdistinct]

theorem isIntegral_object {entries : Fields Json}
    (hentries : ∀ entry ∈ entries, entry.2.isIntegral = true) : (object entries).isIntegral = true :=
  fieldsAreIntegral_iff.2 fun entry hmem => hentries entry (Fields.mem_of_mem_ofList hmem)

end Json

/-- The text of the moment is read as this moment. -/
def Timestamp.IsLegible (timestamp : Timestamp) : Prop :=
  read? timestamp.write = some timestamp

theorem Timestamp.IsLegible.ofJson?_toJson {timestamp : Timestamp} (hlegible : timestamp.IsLegible) :
    ofJson? timestamp.toJson = some timestamp := by
  rw [toJson, ofJson?, Json.asString?, Option.bind_some]
  exact hlegible

theorem SavedState.ofJson?_toJson (state : SavedState) : ofJson? state.toJson = some state := by
  obtain ⟨entries, hascending⟩ := state
  have hentries : Fields.ofList entries = entries := Fields.ofList_eq_self hascending
  simp [ofJson?, toJson, Json.asObject?, ofEntries, hentries]

namespace Wire

/-! ### Reading the parts of a form -/

theorem asSize?_sizeJson {size : Nat} (hsize : size < UInt64.size) :
    (sizeJson size).asSize? = some size := by
  have hfits : 0 ≤ (size : Int) ∧ (size : Int) < UInt64.size := by omega
  rw [sizeJson, Json.asSize?, if_pos hfits, Int.toNat_natCast]

theorem listOf?_stringsJson (texts : List String) :
    listOf? Json.asString? (stringsJson texts) = some texts := by
  rw [stringsJson, listOf?, Json.asArray?, Option.bind_eq_bind, Option.bind_some]
  induction texts with
  | nil => rfl
  | cons text rest ih => rw [List.map_cons, List.mapM_cons, ih, Json.asString?]; rfl

section Field

variable {α : Type} {read? : Json → Option α} {fields : Fields Json} {name : String} {content : Json}
  {value : α}

theorem required_of_get? (hget : Fields.get? fields name = some content)
    (hread : read? content = some value) : required read? fields name = some value := by
  rw [required, hget, Option.bind_some, hread]

/-- What is there is not replaced by the default. -/
theorem defaulted_of_required {fallback : α} (hrequired : required read? fields name = some value) :
    defaulted read? fallback fields name = some value := by
  obtain ⟨content, hget, hread⟩ := Option.bind_eq_some_iff.1 hrequired
  rw [defaulted, hget]
  exact hread

theorem required_size {size : Nat} (hsize : size < UInt64.size)
    (hget : Fields.get? fields name = some (sizeJson size)) :
    required Json.asSize? fields name = some size :=
  required_of_get? hget (asSize?_sizeJson hsize)

theorem required_text {text : String} (hget : Fields.get? fields name = some (.str text)) :
    required Json.asString? fields name = some text :=
  required_of_get? hget rfl

theorem required_truth {truth : Bool} (hget : Fields.get? fields name = some (.bool truth)) :
    required Json.asBool? fields name = some truth :=
  required_of_get? hget rfl

theorem required_timestamp {timestamp : Timestamp} (hlegible : timestamp.IsLegible)
    (hget : Fields.get? fields name = some timestamp.toJson) :
    required Timestamp.ofJson? fields name = some timestamp :=
  required_of_get? hget hlegible.ofJson?_toJson

theorem required_texts {texts : List String}
    (hget : Fields.get? fields name = some (stringsJson texts)) :
    required (listOf? Json.asString?) fields name = some texts :=
  required_of_get? hget (listOf?_stringsJson texts)

end Field

/-! ### Forms -/

/-- How the values of a type go over the wire. -/
structure Form (α : Type) where
  write : α → Json
  read? : Json → Option α
  /-- Whether a value can go over the wire. -/
  fits : α → Prop
  /-- Names of entries that matter even where they are not written. -/
  reserved : List String

namespace Form

variable {α : Type} {form : Form α} {value : α}

/-- The names of the entries mean nothing to what is written for the value. -/
def IsUnknown (form : Form α) (value : α) (extra : Fields Json) : Prop :=
  ∀ name ∈ Fields.names extra, name ∉ form.reserved ∧ (form.write value).get? name = none

/-- What is written for a value is read as this value, whatever unknown entries are added. -/
def IsFaithful (form : Form α) : Prop :=
  ∀ value, form.fits value → ∀ extra, form.IsUnknown value extra →
    form.read? ((form.write value).withEntries extra) = some value

theorem IsUnknown.not_mem_names {extra entries : Fields Json} (hextra : form.IsUnknown value extra)
    (hwrite : form.write value = .object entries) (hdistinct : (Fields.names entries).Nodup)
    {name : String} (hname : name ∈ Fields.names entries) : name ∉ Fields.names extra := by
  intro hmem
  obtain ⟨-, hnone⟩ := hextra name hmem
  rw [hwrite, Json.object, Json.get?, Fields.get?_ofList hdistinct] at hnone
  exact Fields.get?_eq_none_iff.1 hnone hname

/-- Unknown entries hide none of those that were written, nor do they stand under a reserved name. -/
theorem IsUnknown.exists_fields {extra entries : Fields Json} (hextra : form.IsUnknown value extra)
    (hwrite : form.write value = .object entries) (hdistinct : (Fields.names entries).Nodup) :
    ∃ fields, (form.write value).withEntries extra = .obj fields ∧
      (∀ entry ∈ entries, Fields.get? fields entry.1 = some entry.2) ∧
      ∀ name ∈ form.reserved, name ∉ Fields.names entries → Fields.get? fields name = none := by
  obtain ⟨fields, hfields, hkept⟩ := Json.exists_withEntries hdistinct extra
  refine ⟨fields, hwrite ▸ hfields, fun entry hmem => ?_, fun name hreserved hmissing => ?_⟩
  · rw [hkept _ (hextra.not_mem_names hwrite hdistinct (List.mem_map_of_mem hmem))]
    exact Fields.get?_of_mem hdistinct hmem
  · rw [hkept name fun hname => (hextra name hname).1 hreserved]
    exact Fields.get?_eq_none_iff.2 hmissing

theorem IsFaithful.read?_write (hfaithful : form.IsFaithful) (hfits : form.fits value) :
    form.read? (form.write value) = some value := by
  have hread := hfaithful value hfits [] (by simp [IsUnknown, Fields.names])
  rwa [Json.withEntries_nil] at hread

def changeset : Form Changeset where
  write := Changeset.toJson
  read? := Changeset.ofJson?
  fits _ := True
  reserved := ["names"]

theorem isFaithful_changeset : changeset.IsFaithful := by
  rintro changes - extra hextra
  cases changes with
  | vars names =>
      obtain ⟨fields, hfields, hheld, -⟩ := hextra.exists_fields rfl (by simp [Fields.names])
      simp only [List.forall_mem_cons] at hheld
      obtain ⟨hkind, hnames, -⟩ := hheld
      have hkind : required alternative? fields "type" = some "vars" := required_of_get? hkind rfl
      rw [hfields]
      simp [changeset, Changeset.ofJson?, Json.asObject?, hkind, required_texts hnames,
        NameSet.ofList_names]
  | everything =>
      obtain ⟨fields, hfields, hheld, hreserved⟩ :=
        hextra.exists_fields rfl (by simp [Fields.names])
      simp only [List.forall_mem_cons] at hheld
      obtain ⟨hkind, -⟩ := hheld
      have hkind : required alternative? fields "type" = some "everything" := required_of_get? hkind rfl
      have hnames := hreserved "names" (by simp [changeset]) (by simp [Fields.names])
      rw [hfields]
      simp [changeset, Changeset.ofJson?, Json.asObject?, hkind, hnames]

/-- That everything changed is not read where names are listed, so this name is reserved. -/
example : Changeset.ofJson? (Changeset.everything.toJson.withEntries [("names", stringsJson ["x"])]) = none :=
  rfl

def payload : Form EventPayload where
  write := EventPayload.toJson
  read? := EventPayload.ofJson?
  fits
    | .committed index _ _ | .restored index => index < UInt64.size
    | .reset | .invariantFailed _ _ => True
  reserved := []

theorem isFaithful_payload : payload.IsFaithful := by
  rintro told hfits extra hextra
  cases told with
  | committed index message changes =>
      obtain ⟨fields, hfields, hheld, -⟩ := hextra.exists_fields rfl (by simp [Fields.names])
      simp only [List.forall_mem_cons] at hheld
      obtain ⟨hkind, hindex, hmessage, hchanges, -⟩ := hheld
      rw [hfields]
      simp [payload, EventPayload.ofJson?, Json.asObject?, required_text hkind,
        required_size hfits hindex, required_text hmessage, required_texts hchanges]
  | reset =>
      obtain ⟨fields, hfields, hheld, -⟩ := hextra.exists_fields rfl (by simp [Fields.names])
      simp only [List.forall_mem_cons] at hheld
      obtain ⟨hkind, -⟩ := hheld
      rw [hfields]
      simp [payload, EventPayload.ofJson?, Json.asObject?, required_text hkind]
  | restored index =>
      obtain ⟨fields, hfields, hheld, -⟩ := hextra.exists_fields rfl (by simp [Fields.names])
      simp only [List.forall_mem_cons] at hheld
      obtain ⟨hkind, hindex, -⟩ := hheld
      rw [hfields]
      simp [payload, EventPayload.ofJson?, Json.asObject?, required_text hkind,
        required_size hfits hindex]
  | invariantFailed invariant message =>
      obtain ⟨fields, hfields, hheld, -⟩ := hextra.exists_fields rfl (by simp [Fields.names])
      simp only [List.forall_mem_cons] at hheld
      obtain ⟨hkind, hinvariant, hmessage, -⟩ := hheld
      rw [hfields]
      simp [payload, EventPayload.ofJson?, Json.asObject?, required_text hkind,
        required_text hinvariant, required_text hmessage]

def event : Form Event where
  write := Event.toJson
  read? := Event.ofJson?
  fits told := payload.fits told.payload ∧ told.timestamp.IsLegible
  reserved := []

/-- An event is read whatever is added to it or to its payload. -/
theorem read?_event {told : Event} (hfits : event.fits told) {outer inner : Fields Json}
    (houter : event.IsUnknown told outer) (hinner : payload.IsUnknown told.payload inner) :
    Event.ofJson? ((Json.object [("timestamp", told.timestamp.toJson),
      ("payload", told.payload.toJson.withEntries inner)]).withEntries outer) = some told := by
  have hdistinct : (Fields.names [("timestamp", told.timestamp.toJson),
      ("payload", told.payload.toJson.withEntries inner)]).Nodup := by simp [Fields.names]
  obtain ⟨fields, hfields, hkept⟩ := Json.exists_withEntries hdistinct outer
  have htimestamp := hkept "timestamp"
    (houter.not_mem_names rfl (by simp [Fields.names]) (by simp [Fields.names]))
  have hpayload := hkept "payload"
    (houter.not_mem_names rfl (by simp [Fields.names]) (by simp [Fields.names]))
  have hpayload : required EventPayload.ofJson? fields "payload" = some told.payload :=
    required_of_get? hpayload (isFaithful_payload told.payload hfits.1 inner hinner)
  rw [hfields]
  simp [Event.ofJson?, Json.asObject?, required_timestamp hfits.2 htimestamp, hpayload]

theorem isFaithful_event : event.IsFaithful := by
  intro told hfits extra hextra
  have hnothing : payload.IsUnknown told.payload [] := by simp [IsUnknown, Fields.names]
  have hread := read?_event hfits hextra hnothing
  rwa [Json.withEntries_nil] at hread

def snapshot : Form RecordedSnapshot where
  write := RecordedSnapshot.toJson
  read? := RecordedSnapshot.ofJson?
  fits recorded := recorded.snapshot.index < UInt64.size ∧ recorded.recordedAt.IsLegible
  reserved := []

theorem isFaithful_snapshot : snapshot.IsFaithful := by
  intro recorded hfits extra hextra
  obtain ⟨fields, hfields, hheld, -⟩ := hextra.exists_fields rfl (by simp [Fields.names])
  simp only [List.forall_mem_cons] at hheld
  obtain ⟨hindex, hmessage, hstate, hrecorded, -⟩ := hheld
  have hstate : required SavedState.ofJson? fields "state" = some recorded.snapshot.state :=
    required_of_get? hstate (SavedState.ofJson?_toJson _)
  rw [hfields]
  simp [snapshot, RecordedSnapshot.ofJson?, Json.asObject?, required_size hfits.1 hindex,
    required_text hmessage, hstate, required_timestamp hfits.2 hrecorded]

def ruleId : Form RuleId where
  write := RuleId.toJson
  read? := RuleId.ofJson?
  fits id := id.ruleset < UInt64.size ∧ id.rule < UInt64.size
  reserved := []

theorem isFaithful_ruleId : ruleId.IsFaithful := by
  intro id hfits extra hextra
  obtain ⟨fields, hfields, hheld, -⟩ := hextra.exists_fields rfl (by simp [Fields.names])
  simp only [List.forall_mem_cons] at hheld
  obtain ⟨hruleset, hrule, -⟩ := hheld
  rw [hfields]
  simp [ruleId, RuleId.ofJson?, Json.asObject?, required_size hfits.1 hruleset,
    required_size hfits.2 hrule]

def report : Form RunReport where
  write := RunReport.toJson
  read? := RunReport.ofJson?
  fits counted := counted.steps < UInt64.size ∧ counted.transitions < UInt64.size ∧
    counted.distinctStates < UInt64.size
  reserved := []

theorem isFaithful_report : report.IsFaithful := by
  intro counted hfits extra hextra
  obtain ⟨fields, hfields, hheld, -⟩ := hextra.exists_fields rfl (by simp [Fields.names])
  simp only [List.forall_mem_cons] at hheld
  obtain ⟨hsteps, htransitions, hidle, hdistinct, hviolated, -⟩ := hheld
  rw [hfields]
  simp [report, RunReport.ofJson?, Json.asObject?, required_size hfits.1 hsteps,
    required_size hfits.2.1 htransitions, required_truth hidle, required_size hfits.2.2 hdistinct,
    required_truth hviolated]

def controllerConfig : Form ControllerConfig where
  write := ControllerConfig.toJson
  read? := ControllerConfig.ofJson?
  fits _ := True
  reserved := []

theorem isFaithful_controllerConfig : controllerConfig.IsFaithful := by
  intro config _ extra hextra
  obtain ⟨fields, hfields, hheld, -⟩ := hextra.exists_fields rfl (by simp [Fields.names])
  simp only [List.forall_mem_cons] at hheld
  obtain ⟨hchecks, hmessage, -⟩ := hheld
  rw [hfields]
  simp [controllerConfig, ControllerConfig.ofJson?, Json.asObject?,
    defaulted_of_required (required_truth hchecks), defaulted_of_required (required_text hmessage)]

def runConfig : Form RunConfig where
  write := RunConfig.toJson
  read? := RunConfig.ofJson?
  fits config := config.maxSteps < UInt64.size
  reserved := []

theorem isFaithful_runConfig : runConfig.IsFaithful := by
  intro config hfits extra hextra
  obtain ⟨fields, hfields, hheld, -⟩ := hextra.exists_fields rfl (by simp [Fields.names])
  simp only [List.forall_mem_cons] at hheld
  obtain ⟨hsteps, hstops, -⟩ := hheld
  rw [hfields]
  simp [runConfig, RunConfig.ofJson?, Json.asObject?,
    defaulted_of_required (required_size hfits hsteps), defaulted_of_required (required_truth hstops)]

def channelConfig : Form ChannelConfig where
  write := ChannelConfig.toJson
  read? := ChannelConfig.ofJson?
  fits config := config.capacity < UInt64.size
  reserved := []

theorem isFaithful_channelConfig : channelConfig.IsFaithful := by
  intro config hfits extra hextra
  obtain ⟨fields, hfields, hheld, -⟩ := hextra.exists_fields rfl (by simp [Fields.names])
  simp only [List.forall_mem_cons] at hheld
  obtain ⟨hcapacity, -⟩ := hheld
  rw [hfields]
  simp [channelConfig, ChannelConfig.ofJson?, Json.asObject?, required_size hfits hcapacity]

/-! ### Forms tell their values -/

theorem isIntegral_stringsJson (texts : List String) : (stringsJson texts).isIntegral = true :=
  Json.areIntegral_iff.2 (List.forall_mem_map.2 fun _ _ => rfl)

theorem isIntegral_changeset (changes : Changeset) : changes.toJson.isIntegral = true := by
  cases changes with
  | vars names =>
      exact Json.isIntegral_object (by simp [Json.isIntegral, isIntegral_stringsJson])
  | everything => exact Json.isIntegral_object (by simp [Json.isIntegral])

theorem isIntegral_payload (told : EventPayload) : told.toJson.isIntegral = true := by
  cases told with
  | committed index message changes =>
      exact Json.isIntegral_object (by simp [Json.isIntegral, sizeJson, isIntegral_stringsJson])
  | reset => exact Json.isIntegral_object (by simp [Json.isIntegral])
  | restored index => exact Json.isIntegral_object (by simp [Json.isIntegral, sizeJson])
  | invariantFailed invariant message => exact Json.isIntegral_object (by simp [Json.isIntegral])

/-- Of a faithful form without doubles, equal documents come from the same value. -/
theorem IsFaithful.eq_of_beq (hfaithful : form.IsFaithful) {left right : α}
    (hintegral : (form.write left).isIntegral = true) (hleft : form.fits left) (hright : form.fits right)
    (hequal : (form.write left == form.write right) = true) : left = right := by
  have hsame := (Json.beq_iff_eq_of_isIntegral hintegral).1 hequal
  refine Option.some.inj ?_
  rw [← hfaithful.read?_write hleft, hsame, hfaithful.read?_write hright]

/-- Every wire form is read as the value that it was written for, if sizes have 64 bits and the texts of
moments are read as these moments, and entries that a form does not know make no difference, in an event also
those of the payload. A state is a plain object, of which every entry matters. So different changesets, and
different payloads of events, have different documents. -/
theorem wire_forms_round_trip :
    (changeset.IsFaithful ∧ payload.IsFaithful ∧ event.IsFaithful ∧ snapshot.IsFaithful ∧
        ruleId.IsFaithful ∧ report.IsFaithful ∧ controllerConfig.IsFaithful ∧ runConfig.IsFaithful ∧
        channelConfig.IsFaithful) ∧
      (∀ told outer inner, event.fits told → event.IsUnknown told outer →
        payload.IsUnknown told.payload inner →
          Event.ofJson? ((Json.object [("timestamp", told.timestamp.toJson),
            ("payload", told.payload.toJson.withEntries inner)]).withEntries outer) = some told) ∧
      (∀ state : SavedState, SavedState.ofJson? state.toJson = some state) ∧
      (∀ left right : Changeset, (left.toJson == right.toJson) = true → left = right) ∧
      ∀ left right : EventPayload, payload.fits left → payload.fits right →
        (left.toJson == right.toJson) = true → left = right := by
  refine ⟨⟨isFaithful_changeset, isFaithful_payload, isFaithful_event, isFaithful_snapshot,
    isFaithful_ruleId, isFaithful_report, isFaithful_controllerConfig, isFaithful_runConfig,
    isFaithful_channelConfig⟩, ?_, SavedState.ofJson?_toJson, ?_, ?_⟩
  · exact fun told outer inner hfits houter hinner => read?_event hfits houter hinner
  · intro left right hequal
    exact isFaithful_changeset.eq_of_beq (isIntegral_changeset left) trivial trivial hequal
  · intro left right hleft hright hequal
    exact isFaithful_payload.eq_of_beq (isIntegral_payload left) hleft hright hequal

def noon : Timestamp :=
  ⟨1700049600, 250000000⟩

/-- An event with a note beside and one inside is still read as the event. -/
theorem wire_forms_round_trip_noted :
    Event.ofJson? ((Json.object [("timestamp", noon.toJson),
        ("payload", (EventPayload.restored 3).toJson.withEntries [("note", .str "back")])]).withEntries
          [("note", .null)]) = some ⟨noon, .restored 3⟩ ∧
      RuleId.ofJson? (RuleId.toJson ⟨2, 7⟩) = some ⟨2, 7⟩ ∧
      ((EventPayload.restored 3).toJson == EventPayload.reset.toJson) = false := by
  obtain ⟨⟨-, -, -, -, hruleId, -⟩, hevent, -, -, hpayloads⟩ := wire_forms_round_trip
  have hrestored : payload.fits (.restored 3) := (by decide : 3 < UInt64.size)
  have hlegible : noon.IsLegible := by rfl
  refine ⟨hevent ⟨noon, .restored 3⟩ _ _ ⟨hrestored, hlegible⟩ ?_ ?_, ?_, ?_⟩
  · rintro name hname
    obtain rfl := List.mem_singleton.1 hname
    exact ⟨List.not_mem_nil, rfl⟩
  · rintro name hname
    obtain rfl := List.mem_singleton.1 hname
    exact ⟨List.not_mem_nil, rfl⟩
  · exact hruleId.read?_write ⟨by decide, by decide⟩
  · refine Bool.eq_false_iff.2 fun hequal => ?_
    have hsame := hpayloads (.restored 3) .reset hrestored trivial hequal
    cases hsame

end Form

end Wire

end TransitionEngine
