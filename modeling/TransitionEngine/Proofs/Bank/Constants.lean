import TransitionEngine.Proofs.Bank.Saving

/-!
# Constants in a bank

What a bank declares fixes its constants, with their values, and the names that it saves. Constants are
not saved, and what a state has under the name of a constant, or of no variable at all, is not looked at.
-/

namespace TransitionEngine

variable {entries : List VariableDeclaration}

/-- A variable is declared under the name, and no constant. -/
def HasVariable (entries : List VariableDeclaration) (name : String) : Prop :=
  ∃ type, ⟨name, type, none⟩ ∈ entries

namespace Variable

theorem hasVariable {entry : Variable} (hmem : entry.declaration ∈ entries)
    (hwritable : entry.isConstant = false) : HasVariable entries entry.name := by
  refine ⟨entry.type, ?_⟩
  rwa [declaration, hwritable] at hmem

/-- A constant and a value for it are all that a constant can be. -/
theorem eq_of_declaration_eq_some {entry : Variable} {name : String} {type : ModelType}
    {value : Value} (hdeclared : entry.declaration = ⟨name, type, some value⟩) :
    entry = ⟨name, type, true, value⟩ := by
  cases entry with
  | mk name' type' isConstant value' =>
      cases isConstant with
      | false => cases hdeclared
      | true =>
          cases hdeclared
          rfl

theorem restore_of_get?_eq {entry : Variable} {state other : SavedState}
    (hsame : entry.isConstant = false → state.get? entry.name = other.get? entry.name) :
    entry.restore state = entry.restore other := by
  rw [restore, restore]
  cases hcase : entry.isConstant with
  | true => rfl
  | false => rw [hsame hcase]

end Variable

namespace Bank

/-- The constants have the values that they were declared with, and what is saved or restored are the
variables that are no constants. -/
structure HonoursConstants (entries : List VariableDeclaration) (bank : Bank) : Prop where
  constant {name : String} {type : ModelType} {value : Value}
    (hmem : ⟨name, type, some value⟩ ∈ entries) : bank.get? name = some ⟨name, type, true, value⟩
  saved (name : String) : name ∈ bank.save.names ↔ HasVariable entries name
  restored {state other : SavedState}
    (hsame : ∀ name, HasVariable entries name → state.get? name = other.get? name) :
    bank.restore state = bank.restore other

variable {bank : Bank}

theorem mem_names_save_iff {name : String} : name ∈ bank.save.names ↔
    ∃ entry ∈ bank.entries, entry.name = name ∧ entry.isConstant = false := by
  rw [SavedState.names, Fields.mem_names_iff]
  change (∃ document, bank.save.get? name = some document) ↔ _
  simp only [get?_save, Option.bind_eq_some_iff, get?_eq_some_iff, Variable.saved?]
  constructor
  · rintro ⟨document, entry, ⟨hmem, hname⟩, hsaved⟩
    cases hcase : entry.isConstant with
    | true => simp [hcase] at hsaved
    | false => exact ⟨entry, hmem, hname, hcase⟩
  · rintro ⟨entry, hmem, hname, hwritable⟩
    exact ⟨entry.toJson, entry, ⟨hmem, hname⟩, by simp [hwritable]⟩

theorem honoursConstants_of_declarations (hdeclared : bank.declarations = entries) :
    bank.HonoursConstants entries where
  constant hmem := by
    rw [← hdeclared] at hmem
    obtain ⟨entry, hentry, hdeclaration⟩ := List.mem_map.1 hmem
    obtain rfl := Variable.eq_of_declaration_eq_some hdeclaration
    exact get?_eq_some_iff.2 ⟨hentry, rfl⟩
  saved name := by
    rw [mem_names_save_iff]
    constructor
    · rintro ⟨entry, hentry, rfl, hwritable⟩
      exact Variable.hasVariable (hdeclared ▸ List.mem_map_of_mem hentry) hwritable
    · rintro ⟨type, hmem⟩
      rw [← hdeclared] at hmem
      obtain ⟨entry, hentry, hdeclaration⟩ := List.mem_map.1 hmem
      have hwritable := entry.isSome_constant?_declaration
      rw [hdeclaration] at hwritable
      exact ⟨entry, hentry, congrArg VariableDeclaration.name hdeclaration, hwritable.symm⟩
  restored {state other} hsame := by
    refine eq_of_map_entries_eq ?_
    rw [map_entries_restore, map_entries_restore]
    refine Success.mapM_congr_of_forall₂ (List.forall₂_same.2 fun entry hentry => ?_)
    refine Variable.restore_of_get?_eq fun hwritable => hsame entry.name ?_
    exact Variable.hasVariable (hdeclared ▸ List.mem_map_of_mem hentry) hwritable

end Bank

end TransitionEngine
