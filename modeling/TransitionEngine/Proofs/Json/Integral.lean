import TransitionEngine.Proofs.Value.Equality

/-!
# Documents without doubles

Equality of documents takes the two zeros among the doubles for one, so it is coarser than being the
same document. Where no double occurs the two agree; this is so for the document of every value.
-/

namespace TransitionEngine

namespace Json

mutual

def isIntegral : Json → Bool
  | .double _ => false
  | .arr items => areIntegral items
  | .obj fields => fieldsAreIntegral fields
  | _ => true

def areIntegral : List Json → Bool
  | [] => true
  | item :: rest => isIntegral item && areIntegral rest

def fieldsAreIntegral : List (String × Json) → Bool
  | [] => true
  | (_, content) :: rest => isIntegral content && fieldsAreIntegral rest

end

theorem areIntegral_iff {items : List Json} :
    areIntegral items = true ↔ ∀ item ∈ items, item.isIntegral = true := by
  induction items with
  | nil => simp [areIntegral]
  | cons item rest ih => rw [areIntegral, Bool.and_eq_true, ih, List.forall_mem_cons]

theorem fieldsAreIntegral_iff {fields : List (String × Json)} :
    fieldsAreIntegral fields = true ↔ ∀ field ∈ fields, field.2.isIntegral = true := by
  induction fields with
  | nil => simp [fieldsAreIntegral]
  | cons field rest ih => rw [fieldsAreIntegral, Bool.and_eq_true, ih, List.forall_mem_cons]

mutual

theorem same_iff_of_isIntegral : ∀ {left right : Json}, isIntegral left = true →
    (same left right = true ↔ left = right)
  | .null, right | .bool _, right | .int _, right | .str _, right => by
      intro _
      cases right <;> simp [same]
  | .double _, _ => by
      intro hintegral
      simp [isIntegral] at hintegral
  | .arr items, right => by
      intro hintegral
      rw [isIntegral] at hintegral
      cases right <;> simp [same, sameItems_iff_of_areIntegral hintegral]
  | .obj fields, right => by
      intro hintegral
      rw [isIntegral] at hintegral
      cases right <;> simp [same, sameFields_iff_of_fieldsAreIntegral hintegral]

theorem sameItems_iff_of_areIntegral : ∀ {left right : List Json}, areIntegral left = true →
    (sameItems left right = true ↔ left = right)
  | [], right => by
      intro _
      cases right <;> simp [sameItems]
  | item :: rest, right => by
      intro hintegral
      obtain ⟨hitem, hrest⟩ := Bool.and_eq_true_iff.1 hintegral
      cases right <;>
        simp [sameItems, same_iff_of_isIntegral hitem, sameItems_iff_of_areIntegral hrest]

theorem sameFields_iff_of_fieldsAreIntegral : ∀ {left right : List (String × Json)},
    fieldsAreIntegral left = true → (sameFields left right = true ↔ left = right)
  | [], right => by
      intro _
      cases right <;> simp [sameFields]
  | (name, content) :: rest, right => by
      intro hintegral
      obtain ⟨hcontent, hrest⟩ := Bool.and_eq_true_iff.1 hintegral
      cases right <;>
        simp [sameFields, same_iff_of_isIntegral hcontent,
          sameFields_iff_of_fieldsAreIntegral hrest, Prod.ext_iff]

end

theorem beq_iff_eq_of_isIntegral {left right : Json} (hintegral : left.isIntegral = true) :
    (left == right) = true ↔ left = right :=
  same_iff_of_isIntegral hintegral

end Json

namespace Value

mutual

theorem isIntegral_toJson : ∀ value : Value, value.toJson.isIntegral = true
  | .number _ => by simp [toJson, Json.ofInt64, Json.isIntegral]
  | .record fields => by simp [toJson, Json.isIntegral, fieldsAreIntegral_toJsonFields fields]
  | .array ⟨_, items⟩ => by simp [toJson, Json.isIntegral, areIntegral_toJsonItems items]
  | .either _ fields => by
      rw [toJson_either]
      split
      · simp [Json.isIntegral]
      · simp [Json.isIntegral, Json.fieldsAreIntegral, fieldsAreIntegral_toJsonFields fields]
  | .orderedSet ⟨_, _, values, _⟩ => by
      simp [toJson, Json.isIntegral, areIntegral_toJsonItems values]

theorem areIntegral_toJsonItems :
    ∀ items : List Value, Json.areIntegral (toJsonItems items) = true
  | [] => rfl
  | item :: rest => by
      simp [toJsonItems, Json.areIntegral, isIntegral_toJson item, areIntegral_toJsonItems rest]

theorem fieldsAreIntegral_toJsonFields :
    ∀ fields : List (String × Value), Json.fieldsAreIntegral (toJsonFields fields) = true
  | [] => rfl
  | (_, content) :: rest => by
      simp [toJsonFields, Json.fieldsAreIntegral, isIntegral_toJson content,
        fieldsAreIntegral_toJsonFields rest]

end

end Value

end TransitionEngine
