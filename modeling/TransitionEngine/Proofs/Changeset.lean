import TransitionEngine.Changeset
import TransitionEngine.Proofs.Bank.Saving
import TransitionEngine.Proofs.Json.Integral

/-!
# What a comparison of states finds

A comparison of two states names exactly the variables on which they differ. Saved banks hold no
doubles, so for them differing by the equality of documents is not being the same.
-/

namespace TransitionEngine

namespace Changeset

variable {old new : SavedState}

theorem mem_changedNames {name : String} :
    name ∈ changedNames old new ↔ (old.get? name == new.get? name) = false := by
  have hdiffering : name ∈ Fields.names (new.entries.filter fun entry =>
      old.get? entry.1 != some entry.2) ↔
        ∃ document, new.get? name = some document ∧ (old.get? name == some document) = false := by
    simp only [Fields.names, List.mem_map, List.mem_filter, Prod.exists, exists_and_right,
      exists_eq_right, SavedState.get?, Fields.get?_eq_some_iff new.ascending.nodup_names,
      bne, Bool.not_eq_true']
  have hmissing : name ∈ Fields.names (old.entries.filter fun entry =>
      (new.get? entry.1).isNone) ↔ ∃ document,
        old.get? name = some document ∧ new.get? name = Option.none := by
    simp only [Fields.names, List.mem_map, List.mem_filter, Prod.exists, exists_and_right,
      exists_eq_right, SavedState.get?, Fields.get?_eq_some_iff old.ascending.nodup_names,
      Option.isNone_iff_eq_none]
  refine List.mem_append.trans ?_
  rw [hdiffering, hmissing]
  cases old.get? name <;> cases new.get? name <;> simp

theorem isEmpty_between_iff :
    (between old new).isEmpty = true ↔ ∀ name, (old.get? name == new.get? name) = true := by
  simp only [between, isEmpty, NameSet.isEmpty_iff, NameSet.mem_ofList, mem_changedNames,
    Bool.not_eq_false]

private theorem beq_get?_of_sameFields : ∀ {left right : List (String × Json)},
    Json.sameFields left right = true →
      ∀ name, (Fields.get? left name == Fields.get? right name) = true
  | [], right, hsame, name => by cases right <;> simp [Json.sameFields] at hsame ⊢
  | (held, document) :: rest, right, hsame, name => by
      cases right with
      | nil => cases hsame
      | cons entry others =>
          simp only [Json.sameFields, Bool.and_eq_true, beq_iff_eq] at hsame
          obtain ⟨⟨rfl, hdocument⟩, hrest⟩ := hsame
          rw [Fields.get?_cons, Fields.get?_cons]
          split
          · exact hdocument
          · exact beq_get?_of_sameFields hrest name

/-- Nothing changes between states that are the same. -/
theorem isEmpty_between_of_beq (hsame : (old == new) = true) :
    (between old new).isEmpty = true :=
  isEmpty_between_iff.2 (beq_get?_of_sameFields hsame)

private theorem sameFields_of_forall₂ {left right : List (String × Json)}
    (hfields : List.Forall₂ (fun field other => field.1 = other.1 ∧ (field.2 == other.2) = true)
      left right) : Json.sameFields left right = true := by
  induction hfields with
  | nil => rfl
  | cons hfield _ ih =>
      obtain ⟨hname, hcontent⟩ := hfield
      exact Bool.and_eq_true_iff.2 ⟨Bool.and_eq_true_iff.2 ⟨beq_iff_eq.2 hname, hcontent⟩, ih⟩

/-- Comparing finds nothing exactly when the states are equal. -/
theorem isEmpty_between_iff_beq : (between old new).isEmpty = true ↔ (old == new) = true := by
  refine ⟨fun hempty => ?_, isEmpty_between_of_beq⟩
  have hrel : ∀ name, Option.Rel (fun document other : Json => (document == other) = true)
      (old.get? name) (new.get? name) := by
    intro name
    have hequal := isEmpty_between_iff.1 hempty name
    cases hold : old.get? name <;> cases hnew : new.get? name <;> rw [hold, hnew] at hequal
    · exact .none
    · cases hequal
    · cases hequal
    · exact .some hequal
  exact sameFields_of_forall₂ (Fields.forall₂_of_get? old.ascending new.ascending hrel)

theorem affects_between_eq_false_iff {readset : NameSet} :
    (between old new).affects readset = false ↔
      ∀ name, name ∈ readset → (old.get? name == new.get? name) = true := by
  rw [between, affects, Bool.eq_false_iff, Ne, NameSet.meets_iff]
  simp only [NameSet.mem_ofList, mem_changedNames]
  constructor
  · intro hmeets name hread
    by_contra hdiffers
    exact hmeets ⟨name, Bool.eq_false_iff.2 hdiffers, hread⟩
  · rintro hsame ⟨name, hdiffers, hread⟩
    rw [hsame name hread] at hdiffers
    cases hdiffers

/-- Some variables changed, the names of which are all such. -/
def NamesOnly (named : String → Prop) : Changeset → Prop
  | .vars names => ∀ name, name ∈ names → named name
  | .everything => False

/-- A comparison names nothing that neither of the states has. -/
theorem namesOnly_between {named : String → Prop} (hold : ∀ name ∈ old.names, named name)
    (hnew : ∀ name ∈ new.names, named name) : (between old new).NamesOnly named := by
  intro name hmem
  rw [NameSet.mem_ofList, mem_changedNames] at hmem
  by_contra hnot
  have hold : old.get? name = Option.none := Fields.get?_eq_none_iff.2 (mt (hold name) hnot)
  have hnew : new.get? name = Option.none := Fields.get?_eq_none_iff.2 (mt (hnew name) hnot)
  rw [hold, hnew] at hmem
  cases hmem

theorem eq_none_of_isEmpty {changes : Changeset} (hempty : changes.isEmpty = true) :
    changes = .none := by
  cases changes with
  | vars names =>
      have hnames : names = ∅ := by
        ext name
        simp [NameSet.isEmpty_iff.1 hempty name]
      rw [hnames, Changeset.none]
  | everything => cases hempty

end Changeset

namespace Bank

theorem isIntegral_of_get?_save {bank : Bank} {name : String} {document : Json}
    (hget : bank.save.get? name = some document) : document.isIntegral = true := by
  rw [get?_save] at hget
  obtain ⟨entry, -, hsaved⟩ := Option.bind_eq_some_iff.1 hget
  unfold Variable.saved? at hsaved
  split at hsaved
  · cases hsaved
  · rw [← Option.some.inj hsaved]
    exact entry.value.isIntegral_toJson

theorem beq_get?_save_iff {left right : Bank} {name : String} :
    (left.save.get? name == right.save.get? name) = true ↔
      left.save.get? name = right.save.get? name := by
  cases hleft : left.save.get? name with
  | none => cases right.save.get? name <;> simp
  | some document =>
      have hintegral := isIntegral_of_get?_save hleft
      cases right.save.get? name <;> simp [Json.beq_iff_eq_of_isIntegral hintegral]

/-- The names that a comparison of saved banks finds are those that are saved differently. -/
theorem mem_changedNames_save_iff {left right : Bank} {name : String} :
    name ∈ NameSet.ofList (Changeset.changedNames left.save right.save) ↔
      left.save.get? name ≠ right.save.get? name := by
  rw [NameSet.mem_ofList, Changeset.mem_changedNames, Bool.eq_false_iff, Ne, beq_get?_save_iff]

theorem isEmpty_between_save_iff {left right : Bank} :
    (Changeset.between left.save right.save).isEmpty = true ↔ left.save = right.save := by
  simp only [Changeset.isEmpty_between_iff, beq_get?_save_iff, SavedState.ext_get?_iff]

theorem affects_between_save_eq_false_iff {left right : Bank} {readset : NameSet} :
    (Changeset.between left.save right.save).affects readset = false ↔
      ∀ name, name ∈ readset → left.save.get? name = right.save.get? name := by
  simp only [Changeset.affects_between_eq_false_iff, beq_get?_save_iff]

end Bank

end TransitionEngine
