import TransitionEngine.Model
import TransitionEngine.Proofs.Success

/-!
# What a bank declares

The name, the type and, for a constant, the value of a variable never change. Together they are what
the bank declares; restoring and resetting depend on nothing else of it.
-/

namespace TransitionEngine

namespace Variable

def declaration (entry : Variable) : VariableDeclaration :=
  ⟨entry.name, entry.type, if entry.isConstant then some entry.value else none⟩

@[simp]
theorem name_declaration (entry : Variable) : entry.declaration.name = entry.name := rfl

theorem isSome_constant?_declaration (entry : Variable) :
    entry.declaration.constant?.isSome = entry.isConstant := by
  cases hconstant : entry.isConstant <;> simp [declaration, hconstant]

/-- Variables of one declaration differ in nothing but their values, and constants not at all. -/
theorem eq_of_declaration {entry other : Variable}
    (hdeclared : entry.declaration = other.declaration) :
    other = { entry with value := other.value } ∧
      (entry.isConstant = true → other = entry) := by
  have hconstant := congrArg (fun declared => declared.constant?.isSome) hdeclared
  simp only [isSome_constant?_declaration] at hconstant
  cases entry with
  | mk name type isConstant value =>
      cases other with
      | mk name' type' isConstant' value' =>
          simp only [declaration, VariableDeclaration.mk.injEq] at hdeclared hconstant ⊢
          obtain ⟨rfl, rfl, hvalue⟩ := hdeclared
          subst hconstant
          refine ⟨rfl, fun htrue => ?_⟩
          simp only [htrue, ↓reduceIte, Option.some.injEq] at hvalue
          rw [hvalue]

theorem declaration_withValue {entry : Variable} (hwritable : entry.isConstant = false)
    (value : Value) : { entry with value : Variable }.declaration = entry.declaration := by
  simp [declaration, hwritable]

theorem declaration_assignJson {entry assigned : Variable} {document : Json}
    (hwritable : entry.isConstant = false) (hassign : entry.assignJson document = .ok assigned) :
    assigned.declaration = entry.declaration := by
  obtain ⟨value, -, hvalue⟩ := Success.bind_eq_ok_iff.1 hassign
  rw [← Except.ok.inj hvalue]
  exact declaration_withValue hwritable value

theorem declaration_restore {state : SavedState} {entry restored : Variable}
    (hrestore : entry.restore state = .ok restored) :
    restored.declaration = entry.declaration := by
  unfold restore at hrestore
  split at hrestore
  · rw [Except.ok.inj hrestore]
  · rename_i hwritable
    split at hrestore
    · exact declaration_assignJson (by simpa using hwritable) hrestore
    · cases hrestore

@[simp]
theorem declaration_reset (entry : Variable) : entry.reset.declaration = entry.declaration := by
  unfold reset
  split
  · rfl
  · rename_i hwritable
    exact declaration_withValue (by simpa using hwritable) _

theorem declaration_setIf {name : String} {value : Value} {entry : Variable}
    (hwritable : entry.name = name → entry.isConstant = false) :
    (entry.setIf name value).declaration = entry.declaration := by
  unfold setIf
  split
  · rename_i hname
    exact declaration_withValue (hwritable hname) value
  · rfl

theorem restore_congr {entry other : Variable} (hdeclared : entry.declaration = other.declaration)
    (state : SavedState) : entry.restore state = other.restore state := by
  obtain ⟨hother, hconstant⟩ := eq_of_declaration hdeclared
  cases hcase : entry.isConstant with
  | true => rw [hconstant hcase]
  | false =>
      rw [hother]
      simp [restore, hcase, assignJson]

theorem reset_congr {entry other : Variable} (hdeclared : entry.declaration = other.declaration) :
    entry.reset = other.reset := by
  obtain ⟨hother, hconstant⟩ := eq_of_declaration hdeclared
  cases hcase : entry.isConstant with
  | true => rw [hconstant hcase]
  | false =>
      rw [hother]
      simp [reset, hcase]

end Variable

namespace Bank

@[ext]
theorem ext {left right : Bank} (hentries : left.entries = right.entries) : left = right := by
  cases left
  cases right
  simpa using hentries

def declarations (bank : Bank) : List VariableDeclaration :=
  bank.entries.map Variable.declaration

theorem get?_eq_some_iff {bank : Bank} {name : String} {entry : Variable} :
    bank.get? name = some entry ↔ entry ∈ bank.entries ∧ entry.name = name := by
  constructor
  · intro hget
    exact ⟨List.mem_of_find?_eq_some hget, by simpa using List.find?_some hget⟩
  · rintro ⟨hmem, rfl⟩
    cases bank with
    | mk entries hdistinct =>
        rw [get?]
        dsimp only at hmem ⊢
        induction entries with
        | nil => cases hmem
        | cons first rest ih =>
            obtain ⟨hfirst, hrest⟩ := List.nodup_cons.1 hdistinct
            rcases List.mem_cons.1 hmem with rfl | hmem
            · simp
            · have hne : first.name ≠ entry.name := fun heq =>
                hfirst (List.mem_map.2 ⟨entry, hmem, heq.symm⟩)
              rw [List.find?_cons_of_neg (by simpa using hne), ih hrest hmem]

/-- Banks that are related entry by entry, under the same names, are related name by name. -/
theorem rel_get?_of_forall₂ {R : Variable → Variable → Prop} {left right : Bank}
    (hentries : List.Forall₂ R left.entries right.entries)
    (hname : ∀ entry other, R entry other → entry.name = other.name) (name : String) :
    Option.Rel R (left.get? name) (right.get? name) := by
  rw [get?, get?]
  generalize left.entries = lefts, right.entries = rights at hentries ⊢
  induction hentries with
  | nil => exact .none
  | @cons entry other _ _ hhead _ ih =>
      rw [List.find?_cons, List.find?_cons, ← hname entry other hhead]
      by_cases heq : entry.name = name
      · simpa [heq] using hhead
      · simpa [heq] using ih

theorem get?_setValue_self {bank : Bank} {name : String} {entry : Variable}
    (hget : bank.get? name = some entry) (value : Value) :
    (bank.setValue name value).get? name = some { entry with value } := by
  obtain ⟨hmem, rfl⟩ := get?_eq_some_iff.1 hget
  refine get?_eq_some_iff.2 ⟨List.mem_map.2 ⟨entry, hmem, ?_⟩, rfl⟩
  exact if_pos rfl

theorem get?_setValue_of_ne {bank : Bank} {name other : String} (hne : other ≠ name)
    (value : Value) : (bank.setValue name value).get? other = bank.get? other := by
  rw [get?, get?]
  dsimp only [setValue]
  induction bank.entries with
  | nil => rfl
  | cons entry rest ih =>
      rw [List.map_cons, List.find?_cons, List.find?_cons, ih, Variable.name_setIf]
      by_cases heq : entry.name = other
      · have hkept : entry.setIf name value = entry := if_neg (heq ▸ hne)
        simp [heq, hkept]
      · simp [heq]

/-! ### Restoring -/

theorem map_entries_restore (bank : Bank) (state : SavedState) :
    (bank.restore state).map Bank.entries = bank.entries.mapM (Variable.restore state) := by
  unfold restore
  split
  · rename_i herror
    exact herror.symm
  · rename_i hok
    exact hok.symm

theorem eq_of_map_entries_eq {left right : Except ValueError Bank}
    (hentries : left.map Bank.entries = right.map Bank.entries) : left = right := by
  cases left <;> cases right <;> simp_all [Except.map, Bank.ext_iff]

theorem restore_eq_ok_iff {bank restored : Bank} {state : SavedState} :
    bank.restore state = .ok restored ↔
      List.Forall₂ (fun entry other => entry.restore state = .ok other)
        bank.entries restored.entries := by
  rw [← Success.mapM_eq_ok_iff, ← map_entries_restore]
  cases bank.restore state with
  | error error => simp [Except.map]
  | ok other => simp [Except.map, Bank.ext_iff]

theorem declarations_restore {bank restored : Bank} {state : SavedState}
    (hrestore : bank.restore state = .ok restored) :
    restored.declarations = bank.declarations := by
  have hentries := restore_eq_ok_iff.1 hrestore
  rw [declarations, declarations, eq_comm, ← List.forall₂_eq_eq_eq, List.forall₂_map_left_iff,
    List.forall₂_map_right_iff]
  exact hentries.imp fun _ _ hentry => (Variable.declaration_restore hentry).symm

@[simp]
theorem declarations_reset (bank : Bank) : bank.reset.declarations = bank.declarations := by
  simp [declarations, reset, Function.comp_def]

/-! ### Banks of the same declarations -/

section SameDeclarations

variable {left right : Bank}

theorem forall₂_entries (hdeclared : left.declarations = right.declarations) :
    List.Forall₂ (fun entry other => entry.declaration = other.declaration)
      left.entries right.entries := by
  rwa [declarations, declarations, ← List.forall₂_eq_eq_eq, List.forall₂_map_left_iff,
    List.forall₂_map_right_iff] at hdeclared

theorem rel_get? (hdeclared : left.declarations = right.declarations) (name : String) :
    Option.Rel (fun entry other => entry.declaration = other.declaration)
      (left.get? name) (right.get? name) := by
  refine rel_get?_of_forall₂ (forall₂_entries hdeclared) (fun entry other hentry => ?_) name
  exact congrArg VariableDeclaration.name hentry

theorem restore_congr (hdeclared : left.declarations = right.declarations) (state : SavedState) :
    left.restore state = right.restore state := by
  refine eq_of_map_entries_eq ?_
  rw [map_entries_restore, map_entries_restore]
  exact Success.mapM_congr_of_forall₂ <|
    (forall₂_entries hdeclared).imp fun _ _ hentry => Variable.restore_congr hentry state

theorem reset_congr (hdeclared : left.declarations = right.declarations) :
    left.reset = right.reset := by
  apply Bank.ext
  rw [reset, reset, ← List.forall₂_eq_eq_eq, List.forall₂_map_left_iff,
    List.forall₂_map_right_iff]
  exact (forall₂_entries hdeclared).imp fun _ _ hentry => Variable.reset_congr hentry

end SameDeclarations

end Bank

end TransitionEngine
