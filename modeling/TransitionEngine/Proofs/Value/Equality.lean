import Mathlib.Data.List.Forall2
import TransitionEngine.Value.Basic

/-!
# Equality of values

Equality of values is an equivalence. Equal values have the same document, are shown alike and are of
the same kind; only the element type and the spare slots of an ordered set may tell them apart.
-/

namespace TransitionEngine.Value

theorem beq_def (left right : Value) : (left == right) = same left right :=
  rfl

theorem sameItems_iff {left right : List Value} :
    sameItems left right = true ↔ List.Forall₂ (· == ·) left right := by
  induction left generalizing right with
  | nil => cases right <;> simp [sameItems]
  | cons item rest ih =>
      cases right with
      | nil => simp [sameItems]
      | cons other others => simp [sameItems, ih, beq_def]

theorem sameFields_iff {left right : Fields Value} :
    sameFields left right = true ↔
      List.Forall₂ (fun l r => l.1 = r.1 ∧ (l.2 == r.2) = true) left right := by
  induction left generalizing right with
  | nil => cases right <;> simp [sameFields]
  | cons entry rest ih =>
      cases right with
      | nil => simp [sameFields]
      | cons other others => simp [sameFields, ih, beq_def]

/-! ### An equivalence -/

mutual

theorem same_refl : ∀ value : Value, same value value = true
  | .number _ => by simp [same]
  | .record fields => by simp [same, sameFields_refl fields]
  | .array ⟨_, items⟩ => by simp [same, sameItems_refl items]
  | .either _ fields => by simp [same, sameFields_refl fields]
  | .orderedSet ⟨_, _, values, _⟩ => by simp [same, sameItems_refl values]

theorem sameItems_refl : ∀ items : List Value, sameItems items items = true
  | [] => rfl
  | item :: rest => by simp [sameItems, same_refl item, sameItems_refl rest]

theorem sameFields_refl : ∀ fields : List (String × Value), sameFields fields fields = true
  | [] => rfl
  | (_, value) :: rest => by simp [sameFields, same_refl value, sameFields_refl rest]

end

mutual

theorem same_comm : ∀ left right : Value, same left right = same right left
  | .number _, right => by cases right <;> simp [same, Bool.beq_comm]
  | .record fields, right => by cases right <;> simp [same, sameFields_comm fields]
  | .array ⟨_, items⟩, right => by
      cases right <;> simp [same, sameItems_comm items, BEq.comm]
  | .either _ fields, right => by
      cases right <;> simp [same, sameFields_comm fields, BEq.comm]
  | .orderedSet ⟨_, _, values, _⟩, right => by
      cases right <;> simp [same, sameItems_comm values, BEq.comm]

theorem sameItems_comm : ∀ left right : List Value, sameItems left right = sameItems right left
  | [], right => by cases right <;> rfl
  | item :: rest, right => by
      cases right with
      | nil => rfl
      | cons other others => simp [sameItems, same_comm item other, sameItems_comm rest others]

theorem sameFields_comm :
    ∀ left right : List (String × Value), sameFields left right = sameFields right left
  | [], right => by cases right <;> rfl
  | (name, value) :: rest, right => by
      cases right with
      | nil => rfl
      | cons other others =>
          simp [sameFields, same_comm value other.2, sameFields_comm rest others, BEq.comm]

end

mutual

theorem same_trans : ∀ {left middle right : Value},
    same left middle = true → same middle right = true → same left right = true
  | .number _, middle, right => by
      cases middle <;> cases right <;> simp_all [same]
  | .record fields, middle, right => by
      cases middle <;> cases right <;> simp only [same, Bool.false_eq_true, false_implies,
        implies_true]
      exact sameFields_trans
  | .array ⟨_, items⟩, middle, right => by
      cases middle <;> cases right <;> simp only [same, Bool.false_eq_true, false_implies,
        implies_true, Bool.and_eq_true, beq_iff_eq]
      exact fun hleft hright => ⟨hleft.1.trans hright.1, sameItems_trans hleft.2 hright.2⟩
  | .either _ fields, middle, right => by
      cases middle <;> cases right <;> simp only [same, Bool.false_eq_true, false_implies,
        implies_true, Bool.and_eq_true, beq_iff_eq]
      exact fun hleft hright => ⟨hleft.1.trans hright.1, sameFields_trans hleft.2 hright.2⟩
  | .orderedSet ⟨_, _, values, _⟩, middle, right => by
      cases middle <;> cases right <;> simp only [same, Bool.false_eq_true, false_implies,
        implies_true, Bool.and_eq_true, beq_iff_eq]
      exact fun hleft hright => ⟨⟨hleft.1.1.trans hright.1.1, hleft.1.2.trans hright.1.2⟩,
        sameItems_trans hleft.2 hright.2⟩

theorem sameItems_trans : ∀ {left middle right : List Value},
    sameItems left middle = true → sameItems middle right = true → sameItems left right = true
  | [], middle, right => by cases middle <;> cases right <;> simp [sameItems]
  | item :: rest, middle, right => by
      cases middle <;> cases right <;> simp only [sameItems, Bool.false_eq_true, false_implies,
        implies_true, Bool.and_eq_true]
      exact fun hleft hright =>
        ⟨same_trans hleft.1 hright.1, sameItems_trans hleft.2 hright.2⟩

theorem sameFields_trans : ∀ {left middle right : List (String × Value)},
    sameFields left middle = true → sameFields middle right = true → sameFields left right = true
  | [], middle, right => by cases middle <;> cases right <;> simp [sameFields]
  | (_, value) :: rest, middle, right => by
      cases middle <;> cases right <;> simp only [sameFields, Bool.false_eq_true, false_implies,
        implies_true, Bool.and_eq_true, beq_iff_eq]
      exact fun hleft hright => ⟨⟨hleft.1.1.trans hright.1.1, same_trans hleft.1.2 hright.1.2⟩,
        sameFields_trans hleft.2 hright.2⟩

end

instance : EquivBEq Value where
  rfl := same_refl _
  symm := fun hsame => (same_comm _ _).trans hsame
  trans := same_trans

/-! ### What equal values share -/

theorem toJsonItems_eq_map (items : List Value) : toJsonItems items = items.map toJson := by
  induction items with
  | nil => rfl
  | cons item rest ih => rw [toJsonItems, ih, List.map_cons]

theorem toJsonFields_eq_map (fields : Fields Value) :
    toJsonFields fields = fields.map fun entry => (entry.1, entry.2.toJson) := by
  induction fields with
  | nil => rfl
  | cons entry rest ih => rw [toJsonFields, ih, List.map_cons]

theorem toJson_either (tag : String) (fields : Fields Value) :
    (Value.either tag fields).toJson =
      if fields = [] then .str tag
      else .obj [("fields", .obj (toJsonFields fields)), ("tag", .str tag)] := by
  cases fields <;> simp [toJson]

theorem display_either (tag : String) (fields : Fields Value) :
    (Value.either tag fields).display =
      if fields = [] then tag else tag ++ " " ++ braced (displayFields fields) := by
  cases fields <;> simp [display]

theorem eq_nil_iff_of_sameFields {left right : Fields Value}
    (hsame : sameFields left right = true) : left = [] ↔ right = [] := by
  cases left <;> cases right <;> simp_all [sameFields]

mutual

theorem toJson_eq_of_same : ∀ {left right : Value}, same left right = true →
    left.toJson = right.toJson
  | .number _, right => by
      cases right <;> simp only [same, Bool.false_eq_true, false_implies, beq_iff_eq]
      rintro rfl
      rfl
  | .record fields, right => by
      cases right <;> simp only [same, Bool.false_eq_true, false_implies]
      intro hsame
      rw [toJson, toJson, toJsonFields_eq_of_same hsame]
  | .array ⟨_, items⟩, right => by
      cases right <;> simp only [same, Bool.false_eq_true, false_implies, Bool.and_eq_true]
      rintro ⟨-, hsame⟩
      rw [toJson, toJson, toJsonItems_eq_of_same hsame]
  | .either _ fields, right => by
      cases right <;> simp only [same, Bool.false_eq_true, false_implies, Bool.and_eq_true,
        beq_iff_eq]
      rintro ⟨rfl, hsame⟩
      rw [toJson_either, toJson_either, toJsonFields_eq_of_same hsame]
      simp only [eq_nil_iff_of_sameFields hsame]
  | .orderedSet ⟨_, _, values, _⟩, right => by
      cases right <;> simp only [same, Bool.false_eq_true, false_implies, Bool.and_eq_true]
      rintro ⟨-, hsame⟩
      rw [toJson, toJson, toJsonItems_eq_of_same hsame]

theorem toJsonItems_eq_of_same : ∀ {left right : List Value}, sameItems left right = true →
    toJsonItems left = toJsonItems right
  | [], right => by cases right <;> simp [sameItems]
  | item :: rest, right => by
      cases right <;> simp only [sameItems, Bool.false_eq_true, false_implies, Bool.and_eq_true]
      rintro ⟨hitem, hrest⟩
      rw [toJsonItems, toJsonItems, toJson_eq_of_same hitem, toJsonItems_eq_of_same hrest]

theorem toJsonFields_eq_of_same : ∀ {left right : List (String × Value)},
    sameFields left right = true → toJsonFields left = toJsonFields right
  | [], right => by cases right <;> simp [sameFields]
  | (_, value) :: rest, right => by
      cases right <;> simp only [sameFields, Bool.false_eq_true, false_implies,
        Bool.and_eq_true, beq_iff_eq]
      rintro ⟨⟨rfl, hvalue⟩, hrest⟩
      rw [toJsonFields, toJsonFields, toJson_eq_of_same hvalue, toJsonFields_eq_of_same hrest]

end

theorem toJson_eq_of_beq {left right : Value} (hsame : left == right) :
    left.toJson = right.toJson :=
  toJson_eq_of_same hsame

mutual

theorem display_eq_of_same : ∀ {left right : Value}, same left right = true →
    left.display = right.display
  | .number _, right => by
      cases right <;> simp only [same, Bool.false_eq_true, false_implies, beq_iff_eq]
      rintro rfl
      rfl
  | .record fields, right => by
      cases right <;> simp only [same, Bool.false_eq_true, false_implies]
      intro hsame
      rw [display, display, displayFields_eq_of_same hsame]
  | .array ⟨_, items⟩, right => by
      cases right <;> simp only [same, Bool.false_eq_true, false_implies, Bool.and_eq_true]
      rintro ⟨-, hsame⟩
      rw [display, display, displayItems_eq_of_same hsame]
  | .either _ fields, right => by
      cases right <;> simp only [same, Bool.false_eq_true, false_implies, Bool.and_eq_true,
        beq_iff_eq]
      rintro ⟨rfl, hsame⟩
      rw [display_either, display_either, displayFields_eq_of_same hsame]
      simp only [eq_nil_iff_of_sameFields hsame]
  | .orderedSet ⟨_, _, values, _⟩, right => by
      cases right <;> simp only [same, Bool.false_eq_true, false_implies, Bool.and_eq_true,
        beq_iff_eq]
      rintro ⟨⟨rfl, -⟩, hsame⟩
      rw [display, display, displayMembers_eq_of_same _ _ hsame]

theorem displayItems_eq_of_same : ∀ {left right : List Value}, sameItems left right = true →
    displayItems left = displayItems right
  | [], right => by cases right <;> simp [sameItems]
  | item :: rest, right => by
      cases right <;> simp only [sameItems, Bool.false_eq_true, false_implies, Bool.and_eq_true]
      rintro ⟨hitem, hrest⟩
      rw [displayItems, displayItems, display_eq_of_same hitem, displayItems_eq_of_same hrest]

theorem displayFields_eq_of_same : ∀ {left right : List (String × Value)},
    sameFields left right = true → displayFields left = displayFields right
  | [], right => by cases right <;> simp [sameFields]
  | (_, value) :: rest, right => by
      cases right <;> simp only [sameFields, Bool.false_eq_true, false_implies,
        Bool.and_eq_true, beq_iff_eq]
      rintro ⟨⟨rfl, hvalue⟩, hrest⟩
      rw [displayFields, displayFields, display_eq_of_same hvalue,
        displayFields_eq_of_same hrest]

theorem displayMembers_eq_of_same (low : Int64) (position : Nat) :
    ∀ {left right : List Value}, sameItems left right = true →
      displayMembers low position left = displayMembers low position right
  | [], right => by cases right <;> simp [sameItems]
  | member :: rest, right => by
      cases right <;> simp only [sameItems, Bool.false_eq_true, false_implies, Bool.and_eq_true]
      rintro ⟨hmember, hrest⟩
      rw [displayMembers, displayMembers, display_eq_of_same hmember,
        displayMembers_eq_of_same low (position + 1) hrest]

end

theorem display_eq_of_beq {left right : Value} (hsame : left == right) :
    left.display = right.display :=
  display_eq_of_same hsame

theorem kind_eq_of_beq {left right : Value} (hsame : left == right) : left.kind = right.kind := by
  cases left <;> cases right <;> first | rfl | exact absurd hsame (by simp [beq_def, same])

end TransitionEngine.Value
