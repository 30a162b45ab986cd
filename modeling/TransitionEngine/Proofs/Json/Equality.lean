import TransitionEngine.Proofs.Json.Zeros

/-!
# Equality of documents

Equality of documents is an equivalence, although it takes the two zeros for one: equal documents are
equal to the same documents. So are the answers of a look-up, where none is equal to none.
-/

namespace TransitionEngine

namespace Double

/-- To equal a zero is to be one, whatever its sign. -/
theorem same_of_isZero {left : Double} (hzero : left.isZero = true) (right : Double) :
    left.same right = right.isZero := by
  by_cases hequal : left = right
  · rw [← hequal, hzero]
    simp [same]
  · simp [same, hequal, hzero]

theorem isZero_zero : zero.isZero = true :=
  isZero_iff.2 (.inl rfl)

theorem isZero_negativeZero : negativeZero.isZero = true :=
  isZero_iff.2 (.inr rfl)

end Double

namespace Json

theorem beq_def (left right : Json) : (left == right) = same left right :=
  rfl

mutual

theorem same_refl : ∀ document : Json, same document document = true
  | .null => rfl
  | .bool _ | .int _ | .str _ => by simp [same]
  | .double value => by simp [same, Double.same]
  | .arr items => by rw [same, sameItems_refl items]
  | .obj fields => by rw [same, sameFields_refl fields]

theorem sameItems_refl : ∀ items : List Json, sameItems items items = true
  | [] => rfl
  | item :: rest => by rw [sameItems, same_refl item, sameItems_refl rest, Bool.and_self]

theorem sameFields_refl : ∀ fields : List (String × Json), sameFields fields fields = true
  | [] => rfl
  | (_, content) :: rest => by simp [sameFields, same_refl content, sameFields_refl rest]

end

theorem same_zeros (third : Json) :
    same (.double .zero) third = same (.double .negativeZero) third := by
  cases third with
  | double value =>
      rw [same, same, Double.same_of_isZero Double.isZero_zero,
        Double.same_of_isZero Double.isZero_negativeZero]
  | _ => rfl

/-- A comparison with a third document tells the two zeros not apart, and so no equal documents. -/
theorem congruence_same :
    Congruence fun left right => ∀ third : Json, same left third = same right third where
  refl _ _ := rfl
  zeros := same_zeros
  zerosBack third := (same_zeros third).symm
  items left right hitems third := by
    cases third with
    | arr others =>
        rw [same, same]
        induction hitems generalizing others with
        | nil => rfl
        | cons hitem _ ih => cases others <;> simp [sameItems, hitem, ih]
    | _ => rfl
  fields left right hfields third := by
    cases third with
    | obj others =>
        rw [same, same]
        induction hfields generalizing others with
        | nil => rfl
        | cons hfield _ ih =>
            cases others <;> simp [sameFields, hfield.1, hfield.2, ih]
    | _ => rfl

theorem same_congr {left right : Json} (hsame : same left right = true) (third : Json) :
    same left third = same right third :=
  congruence_same.rel_of_same hsame third

instance : EquivBEq Json where
  rfl := same_refl _
  symm {left right} hsame := by
    rw [beq_def, ← same_congr hsame]
    exact same_refl left
  trans {left middle right} hleft hright := by
    rw [beq_def, same_congr hleft]
    exact hright

end Json

/-- Look-ups are compared by what they find, if anything. -/
instance instEquivBEqOption {α : Type} [BEq α] [EquivBEq α] : EquivBEq (Option α) where
  symm {left right} hsame := by
    match left, right with
    | none, none => rfl
    | some first, some second =>
        rw [Option.some_beq_some] at hsame ⊢
        exact BEq.symm hsame
    | none, some _ | some _, none => cases hsame
  trans {left middle right} hleft hright := by
    match left, middle, right with
    | none, none, _ => exact hright
    | some first, some second, some third =>
        rw [Option.some_beq_some] at hleft hright ⊢
        exact BEq.trans hleft hright
    | some _, some _, none => cases hright
    | none, some _, _ | some _, none, _ => cases hleft

end TransitionEngine
