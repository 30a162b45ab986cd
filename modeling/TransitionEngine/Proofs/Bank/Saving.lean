import TransitionEngine.Proofs.Bank.Declarations
import TransitionEngine.Proofs.Typing.RoundTrip

/-!
# Saving and restoring

The saved state of a bank gives the document of every variable that may be written. A bank whose
values conform to their types gets its documents back from its saved state, and whatever a bank is
restored from, its values conform afterwards.
-/

namespace TransitionEngine

/-- Conforming values are told apart by their documents. -/
theorem Conforms.beq_of_toJson_eq {type : ModelType} {left right : Value}
    (hleft : Conforms type left) (hright : Conforms type right)
    (hsame : left.toJson = right.toJson) : (left == right) = true := by
  obtain ⟨decoded, hdecode, hequal⟩ := ModelType.recovers_of_conforms hleft
  obtain ⟨decoded', hdecode', hequal'⟩ := ModelType.recovers_of_conforms hright
  rw [hsame, hdecode'] at hdecode
  rw [Except.ok.inj hdecode] at hequal'
  exact BEq.trans (BEq.symm hequal) hequal'

namespace SavedState

@[ext]
theorem ext_get? {left right : SavedState} (hget : ∀ name, left.get? name = right.get? name) :
    left = right := by
  cases left with
  | mk entries hentries =>
      cases right with
      | mk others hothers =>
          have heq := Fields.ext_get? hentries hothers hget
          subst heq
          rfl

theorem get?_ofEntries {entries : Fields Json} (hdistinct : (Fields.names entries).Nodup)
    (name : String) : (ofEntries entries).get? name = Fields.get? entries name :=
  Fields.get?_ofList hdistinct name

end SavedState

namespace Variable

def Conforms (entry : Variable) : Prop :=
  entry.isConstant = false → TransitionEngine.Conforms entry.type entry.value

/-- What a saved state holds under the name of the variable. -/
def saved? (entry : Variable) : Option Json :=
  if entry.isConstant then none else some entry.toJson

theorem saved?_eq_iff {entry other : Variable}
    (hdeclared : entry.declaration = other.declaration) :
    entry.saved? = other.saved? ↔ entry.toJson = other.toJson := by
  obtain ⟨hother, hconstant⟩ := eq_of_declaration hdeclared
  cases hcase : entry.isConstant with
  | true => simp [hconstant hcase]
  | false =>
      have hcase' : other.isConstant = false := by
        rw [hother]
        exact hcase
      simp [saved?, hcase, hcase']

theorem restore_eq_ok_iff {entry restored : Variable} {state : SavedState} :
    entry.restore state = .ok restored ↔
      entry.isConstant = true ∧ restored = entry ∨
        entry.isConstant = false ∧ ∃ document value, state.get? entry.name = some document ∧
          entry.type.decode document = .ok value ∧ restored = { entry with value } := by
  rw [restore]
  cases hcase : entry.isConstant with
  | true => simp [eq_comm (a := restored)]
  | false =>
      cases state.get? entry.name with
      | none => simp
      | some document =>
          simp [assignJson, hcase, Success.bind_eq_ok_iff, pure, Except.pure,
            eq_comm (a := restored)]

theorem restore_eq_error_iff {entry : Variable} {state : SavedState} {error : ValueError} :
    entry.restore state = .error error ↔
      entry.isConstant = false ∧
        (state.get? entry.name = none ∧ error = .internal (.missingEntry entry.name) ∨
          ∃ document, state.get? entry.name = some document ∧
            entry.type.decode document = .error error) := by
  rw [restore]
  cases hcase : entry.isConstant with
  | true => simp
  | false =>
      cases state.get? entry.name with
      | none => simp [eq_comm (a := error)]
      | some document =>
          cases hdecode : entry.type.decode document <;>
            simp [assignJson, hdecode, bind, Except.bind, pure, Except.pure]

theorem conforms_of_restore {entry restored : Variable} {state : SavedState}
    (hdistinct : entry.type.DistinctFields) (hrestore : entry.restore state = .ok restored) :
    restored.Conforms := by
  intro hwritable
  rcases restore_eq_ok_iff.1 hrestore with ⟨hconstant, rfl⟩ | ⟨-, document, value, -, hdecode, rfl⟩
  · simp [hconstant] at hwritable
  · exact ModelType.conforms_of_decode hdistinct hdecode

/-- A conforming variable gets its document back. -/
theorem exists_restore_of_conforms {entry : Variable} {state : SavedState}
    (hconforms : entry.Conforms)
    (hstate : entry.isConstant = false → state.get? entry.name = some entry.toJson) :
    ∃ restored, entry.restore state = .ok restored ∧ restored.toJson = entry.toJson := by
  cases hcase : entry.isConstant with
  | true => exact ⟨entry, restore_eq_ok_iff.2 (.inl ⟨hcase, rfl⟩), rfl⟩
  | false =>
      obtain ⟨decoded, hdecode, hequal⟩ := ModelType.recovers_of_conforms (hconforms hcase)
      refine ⟨{ entry with value := decoded }, ?_, Value.toJson_eq_of_beq hequal⟩
      exact restore_eq_ok_iff.2 (.inr ⟨hcase, _, decoded, hstate hcase, hdecode, rfl⟩)

end Variable

namespace Bank

/-- Every value that may be written conforms to its type. -/
def Conforms (bank : Bank) : Prop :=
  ∀ entry ∈ bank.entries, entry.Conforms

/-- A bank with one variable, the number of which is within its range. -/
theorem conforms_of_range {bank : Bank} {name : String} {low high number : Int64}
    (hlow : low ≤ number) (hhigh : number ≤ high)
    (hentries : bank.entries = [⟨name, .range low high, false, .number number⟩]) :
    bank.Conforms := by
  intro entry hmem _
  rw [hentries] at hmem
  rw [List.mem_singleton.1 hmem]
  exact .range hlow hhigh

/-- The bank has these declarations, and its values conform to them. -/
structure Fits (declarations : List VariableDeclaration) (bank : Bank) : Prop where
  declared : bank.declarations = declarations
  conforms : bank.Conforms

/-- Every record and every variant in the types of the variables has different field names. -/
def HasDistinctFields (bank : Bank) : Prop :=
  ∀ declared ∈ bank.declarations, declared.type.DistinctFields

theorem HasDistinctFields.of_mem {bank : Bank} (hdistinct : bank.HasDistinctFields)
    {entry : Variable} (hmem : entry ∈ bank.entries) : entry.type.DistinctFields :=
  hdistinct entry.declaration (List.mem_map.2 ⟨entry, hmem, rfl⟩)

theorem hasDistinctFields_of_range {bank : Bank} {name : String} {low high : Int64}
    (hdeclared : bank.declarations = [⟨name, .range low high, none⟩]) :
    bank.HasDistinctFields := by
  intro declared hmem
  rw [hdeclared] at hmem
  rw [List.mem_singleton.1 hmem]
  exact .range low high

def document? (bank : Bank) (name : String) : Option Json :=
  (bank.get? name).map Variable.toJson

theorem get?_save (bank : Bank) (name : String) :
    bank.save.get? name = (bank.get? name).bind Variable.saved? := by
  have hdistinct : (Fields.names ((bank.entries.filter (!·.isConstant)).map fun entry =>
      (entry.name, entry.toJson))).Nodup := by
    rw [Fields.names, List.map_map]
    exact bank.distinct.sublist (List.filter_sublist.map _)
  have hmem (document : Json) : (name, document) ∈ ((bank.entries.filter (!·.isConstant)).map
      fun entry => (entry.name, entry.toJson)) ↔
        ∃ entry ∈ bank.entries, entry.name = name ∧ entry.saved? = some document := by
    simp only [List.mem_map, List.mem_filter, Prod.mk.injEq, Variable.saved?]
    grind
  rw [save, SavedState.get?_ofEntries hdistinct]
  ext document
  rw [Fields.get?_eq_some_iff hdistinct, hmem, Option.bind_eq_some_iff]
  simp only [get?_eq_some_iff, and_assoc]

theorem get?_save_eq_iff {left right : Bank} (hdeclared : left.declarations = right.declarations)
    (name : String) :
    left.save.get? name = right.save.get? name ↔ left.document? name = right.document? name := by
  rw [get?_save, get?_save, document?, document?]
  have hrel := rel_get? hdeclared name
  generalize left.get? name = entry?, right.get? name = other? at hrel ⊢
  cases hrel with
  | none => simp
  | some hentry =>
      rw [Option.bind_some, Option.bind_some, Variable.saved?_eq_iff hentry]
      simp

theorem save_eq_iff {left right : Bank} (hdeclared : left.declarations = right.declarations) :
    left.save = right.save ↔ ∀ name, left.document? name = right.document? name := by
  rw [SavedState.ext_get?_iff]
  exact forall_congr' (get?_save_eq_iff hdeclared)

/-! ### Restoring what was saved -/

section Restoring

variable {bank restored : Bank} {state : SavedState}

/-- A state can be restored when it has an entry that decodes for every variable that is no
constant. -/
def Decodes (bank : Bank) (state : SavedState) : Prop :=
  ∀ entry ∈ bank.entries, entry.isConstant = false → ∃ document value,
    state.get? entry.name = some document ∧ entry.type.decode document = .ok value

theorem exists_restore_iff :
    (∃ restored, bank.restore state = .ok restored) ↔ bank.Decodes state := by
  constructor
  · rintro ⟨restored, hrestore⟩ entry hmem hwritable
    obtain ⟨other, -, hentry⟩ := Success.exists_of_mem_left (restore_eq_ok_iff.1 hrestore) hmem
    rcases Variable.restore_eq_ok_iff.1 hentry with ⟨hconstant, -⟩ | ⟨-, document, value, hget,
      hdecode, -⟩
    · rw [hwritable] at hconstant
      cases hconstant
    · exact ⟨document, value, hget, hdecode⟩
  · intro hdecodes
    have hentries : ∀ entry ∈ bank.entries, ∃ other, entry.restore state = .ok other := by
      intro entry hmem
      cases hcase : entry.isConstant with
      | true => exact ⟨entry, Variable.restore_eq_ok_iff.2 (.inl ⟨hcase, rfl⟩)⟩
      | false =>
          obtain ⟨document, value, hget, hdecode⟩ := hdecodes entry hmem hcase
          exact ⟨_, Variable.restore_eq_ok_iff.2
            (.inr ⟨hcase, document, value, hget, hdecode, rfl⟩)⟩
    obtain ⟨others, hothers⟩ := Success.exists_forall₂ hentries
    have hmapM := Success.mapM_eq_ok_iff.2 hothers
    rw [← map_entries_restore] at hmapM
    obtain ⟨restored, hrestore, -⟩ := Success.map_eq_ok_iff.1 hmapM
    exact ⟨restored, hrestore⟩

theorem exists_mem_of_restore_eq_error {error : ValueError}
    (hfails : bank.restore state = .error error) :
    ∃ entry ∈ bank.entries, entry.restore state = .error error := by
  have hmapM := map_entries_restore bank state
  rw [hfails] at hmapM
  exact Success.exists_of_mapM_eq_error hmapM.symm

theorem conforms_of_restore (hdistinct : bank.HasDistinctFields)
    (hrestore : bank.restore state = .ok restored) : restored.Conforms := by
  intro other hother
  obtain ⟨entry, hentry, hentries⟩ :=
    Success.exists_of_mem_right (restore_eq_ok_iff.1 hrestore) hother
  exact Variable.conforms_of_restore (hdistinct.of_mem hentry) hentries

theorem save_mem_get? {entry : Variable} (hmem : entry ∈ bank.entries)
    (hwritable : entry.isConstant = false) :
    bank.save.get? entry.name = some entry.toJson := by
  rw [get?_save, get?_eq_some_iff.2 ⟨hmem, rfl⟩]
  simp [Variable.saved?, hwritable]

/-- A conforming bank is restored from its saved state, by any bank of its declarations. -/
theorem exists_restore_save (hconforms : bank.Conforms)
    {other : Bank} (hdeclared : other.declarations = bank.declarations) :
    ∃ restored, other.restore bank.save = .ok restored ∧ restored.save = bank.save := by
  have hentries : ∀ entry ∈ bank.entries, ∃ restored,
      entry.restore bank.save = .ok restored ∧ restored.toJson = entry.toJson := by
    intro entry hmem
    exact Variable.exists_restore_of_conforms (hconforms entry hmem) (save_mem_get? hmem)
  obtain ⟨others, hothers⟩ := Success.exists_forall₂ hentries
  have hmapM : bank.entries.mapM (Variable.restore bank.save) = .ok others :=
    Success.mapM_eq_ok_iff.2 (hothers.imp fun _ _ hentry => hentry.1)
  rw [← map_entries_restore] at hmapM
  obtain ⟨restored, hrestore, rfl⟩ := Success.map_eq_ok_iff.1 hmapM
  refine ⟨restored, (restore_congr hdeclared _).trans hrestore, ?_⟩
  refine (save_eq_iff (declarations_restore hrestore)).2 fun name => ?_
  have hrel := rel_get?_of_forall₂ hothers
    (fun entry other hentry => (Variable.name_restore hentry.1).symm) name
  rw [document?, document?]
  generalize restored.get? name = other?, bank.get? name = entry? at hrel ⊢
  cases hrel with
  | none => rfl
  | some hentry => rw [Option.map_some, Option.map_some, hentry.2]

end Restoring

end Bank

end TransitionEngine
