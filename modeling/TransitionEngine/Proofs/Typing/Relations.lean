import Mathlib.Logic.Relation
import TransitionEngine.Proofs.Typing.Admission

/-!
# How the relations between types fit together

Every type has one that stands for all it may be compared with: a number for the numeric types, the union
for its variants. A subtype step never leaves the types that one stands for, and each of them is linked to it
by such a step, so types may be compared exactly when subtype steps, up or down, lead from one to the other.
-/

namespace TransitionEngine.ModelType

variable {left right : ModelType}

theorem isSubtype_refl (type : ModelType) : type.isSubtype type = true :=
  isSubtype_iff.2 (.inl rfl)

theorem isSubtype_trans {middle : ModelType} (hleft : left.isSubtype middle = true)
    (hright : middle.isSubtype right = true) : left.isSubtype right = true := by
  rcases isSubtype_iff.1 hleft with rfl | ⟨hnumeric, low, high, rfl⟩ | ⟨union, tag, rfl, rfl⟩
  · exact hright
  · -- Above a range there are only ranges.
    rcases isSubtype_iff.1 hright with rfl | ⟨-, hrange⟩ | ⟨union, tag, hvariant, -⟩
    · exact hleft
    · exact isSubtype_iff.2 (.inr (.inl ⟨hnumeric, hrange⟩))
    · cases hvariant
  · -- Above a union there is nothing else.
    rcases isSubtype_iff.1 hright with rfl | ⟨hnumeric, -⟩ | ⟨other, tag, hvariant, -⟩
    · exact hleft
    · cases hnumeric
    · cases hvariant

theorem haveEquality_iff :
    left.haveEquality right = true ↔
      left.isSubtype right = true ∨ right.isSubtype left = true ∨
        ∃ union tag other, left = .variant union tag ∧ right = .variant union other := by
  constructor
  · intro hequality
    rcases Bool.or_eq_true_iff.1 hequality with hsub | hvariants
    · exact (Bool.or_eq_true_iff.1 hsub).imp_right .inl
    · right; right
      split at hvariants
      · obtain rfl := of_decide_eq_true hvariants
        exact ⟨_, _, _, rfl, rfl⟩
      · cases hvariants
  · rintro (hsub | hsub | ⟨union, tag, other, rfl, rfl⟩)
    · exact Bool.or_eq_true_iff.2 (.inl (Bool.or_eq_true_iff.2 (.inl hsub)))
    · exact Bool.or_eq_true_iff.2 (.inl (Bool.or_eq_true_iff.2 (.inr hsub)))
    · exact Bool.or_eq_true_iff.2 (.inr (decide_eq_true rfl))

/-! ### The type that stands for those it may be compared with -/

def representative : ModelType → ModelType
  | .range _ _ => .number
  | .variant parent _ => .either parent
  | other => other

theorem representative_eq_number_iff {type : ModelType} :
    type.representative = .number ↔ type.isNumeric = true := by
  cases type <;> simp [representative, isNumeric]

theorem representative_eq_of_isSubtype (hsub : left.isSubtype right = true) :
    left.representative = right.representative := by
  rcases isSubtype_iff.1 hsub with rfl | ⟨hnumeric, low, high, rfl⟩ | ⟨union, tag, rfl, rfl⟩
  · rfl
  · exact representative_eq_number_iff.2 hnumeric
  · rfl

/-- A type is linked to its representative by one subtype step, up or down. -/
theorem isSubtype_representative (type : ModelType) :
    type.isSubtype type.representative = true ∨ type.representative.isSubtype type = true := by
  cases type with
  | range low high => exact .inr (isSubtype_iff.2 (.inr (.inl ⟨rfl, low, high, rfl⟩)))
  | variant parent tag => exact .inl (isSubtype_iff.2 (.inr (.inr ⟨parent, tag, rfl, rfl⟩)))
  | number | record _ _ | array _ _ _ | either _ | orderedSet _ _ _ => exact .inl (isSubtype_refl _)

theorem haveEquality_iff_representative_eq :
    left.haveEquality right = true ↔ left.representative = right.representative := by
  rw [haveEquality_iff]
  constructor
  · rintro (hsub | hsub | ⟨union, tag, other, rfl, rfl⟩)
    · exact representative_eq_of_isSubtype hsub
    · exact (representative_eq_of_isSubtype hsub).symm
    · rfl
  · intro hsame
    cases left with
    | number | range _ _ =>
        have hnumeric : right.isNumeric = true := representative_eq_number_iff.1 hsame.symm
        cases right with
        | number => exact .inr (.inl (isSubtype_iff.2 (by simp [isNumeric])))
        | range low high => exact .inl (isSubtype_iff.2 (by simp [isNumeric]))
        | _ => cases hnumeric
    | either union =>
        cases right with
        | either _ =>
            obtain rfl := ModelType.either.inj hsame
            exact .inl (isSubtype_refl _)
        | variant parent tag =>
            obtain rfl := ModelType.either.inj hsame
            exact .inr (.inl (isSubtype_iff.2 (.inr (.inr ⟨_, tag, rfl, rfl⟩))))
        | _ => cases hsame
    | variant parent tag =>
        cases right with
        | either _ =>
            obtain rfl := ModelType.either.inj hsame
            exact .inl (isSubtype_iff.2 (.inr (.inr ⟨_, tag, rfl, rfl⟩)))
        | variant _ other =>
            obtain rfl := ModelType.either.inj hsame
            exact .inr (.inr ⟨_, tag, other, rfl, rfl⟩)
        | _ => cases hsame
    | record _ _ | array _ _ _ | orderedSet _ _ _ =>
        cases right <;> cases hsame
        exact .inl (isSubtype_refl _)

/-! ### Chains of subtype steps -/

/-- One of the two types is a subtype of the other. -/
def IsStep (left right : ModelType) : Prop :=
  left.isSubtype right = true ∨ right.isSubtype left = true

theorem representative_eq_of_linked (hlinked : Relation.ReflTransGen IsStep left right) :
    left.representative = right.representative := by
  induction hlinked with
  | refl => rfl
  | tail _ hstep ih =>
      rcases hstep with hup | hdown
      · exact ih.trans (representative_eq_of_isSubtype hup)
      · exact ih.trans (representative_eq_of_isSubtype hdown).symm

theorem linked_of_representative_eq (hsame : left.representative = right.representative) :
    Relation.ReflTransGen IsStep left right := by
  have hleft : IsStep left left.representative := left.isSubtype_representative
  have hright : IsStep left.representative right := hsame ▸ right.isSubtype_representative.symm
  exact .tail (.single hleft) hright

theorem isNumeric_of_haveOrdering (hordering : left.haveOrdering right = true) :
    left.isNumeric = true ∧ right.isNumeric = true :=
  Bool.and_eq_true_iff.1 hordering

/-- Being a subtype is reflexive and transitive. Being comparable is an equivalence, the least to which all pairs
of a subtype and its supertype belong: types are comparable exactly when a chain of subtype steps, each taken up
or down, leads from one to the other. Types whose values are ordered are comparable. -/
theorem relations_fit_together :
    (∀ type : ModelType, type.isSubtype type = true) ∧
      (∀ left middle right : ModelType, left.isSubtype middle = true → middle.isSubtype right = true →
        left.isSubtype right = true) ∧
      Equivalence (fun left right : ModelType => left.haveEquality right = true) ∧
      (∀ left right : ModelType, left.isSubtype right = true → left.haveEquality right = true) ∧
      (∀ R : ModelType → ModelType → Prop, Equivalence R →
        (∀ left right, left.isSubtype right = true → R left right) →
          ∀ left right, left.haveEquality right = true → R left right) ∧
      (∀ left right : ModelType, left.haveEquality right = true ↔
        Relation.ReflTransGen (fun one other => one.isSubtype other = true ∨ other.isSubtype one = true)
          left right) ∧
      ∀ left right : ModelType, left.haveOrdering right = true → left.haveEquality right = true := by
  have hlinked (left right : ModelType) :
      left.haveEquality right = true ↔ Relation.ReflTransGen IsStep left right :=
    haveEquality_iff_representative_eq.trans ⟨linked_of_representative_eq, representative_eq_of_linked⟩
  refine ⟨isSubtype_refl, fun _ _ _ => isSubtype_trans, ⟨?_, ?_, ?_⟩, ?_, ?_, hlinked, ?_⟩
  · exact fun _ => haveEquality_iff_representative_eq.2 rfl
  · intro left right hequality
    exact haveEquality_iff_representative_eq.2 (haveEquality_iff_representative_eq.1 hequality).symm
  · intro left middle right hleft hright
    rw [haveEquality_iff_representative_eq] at *
    exact hleft.trans hright
  · exact fun _ _ hsub => haveEquality_iff_representative_eq.2 (representative_eq_of_isSubtype hsub)
  · intro R hR hcontains left right hequality
    have hsteps := (hlinked left right).1 hequality
    induction hsteps with
    | refl => exact hR.refl left
    | tail hsteps hstep ih =>
        have hbefore := ih ((hlinked _ _).2 hsteps)
        rcases hstep with hup | hdown
        · exact hR.trans hbefore (hcontains _ _ hup)
        · exact hR.trans hbefore (hR.symm (hcontains _ _ hdown))
  · intro left right hordering
    obtain ⟨hleft, hright⟩ := isNumeric_of_haveOrdering hordering
    rw [haveEquality_iff_representative_eq, representative_eq_number_iff.2 hleft,
      representative_eq_number_iff.2 hright]

/-- Neither of two variants of one union is a subtype of the other, but the union is above both, so they may be
compared; and a number, which goes into one range, goes into any other. -/
theorem relations_fit_together_card :
    isSubtype (.variant cardUnion "Joker") (.variant cardUnion "Ranked") = false ∧
      isSubtype (.variant cardUnion "Ranked") (.variant cardUnion "Joker") = false ∧
      haveEquality (.variant cardUnion "Joker") (.variant cardUnion "Ranked") = true ∧
      isSubtype .number (.range 0 9) = true ∧
      haveEquality (.range 1 13) .number = true := by
  obtain ⟨-, htrans, -, -, -, hlinked, hordering⟩ := relations_fit_together
  have hup : isSubtype (.variant cardUnion "Joker") (.either cardUnion) = true :=
    isSubtype_iff.2 (.inr (.inr ⟨_, _, rfl, rfl⟩))
  have hdown : isSubtype (.variant cardUnion "Ranked") (.either cardUnion) = true :=
    isSubtype_iff.2 (.inr (.inr ⟨_, _, rfl, rfl⟩))
  have hnumber : isSubtype .number (.range 1 13) = true :=
    isSubtype_iff.2 (.inr (.inl ⟨rfl, 1, 13, rfl⟩))
  have hrange : isSubtype (.range 1 13) (.range 0 9) = true :=
    isSubtype_iff.2 (.inr (.inl ⟨rfl, 0, 9, rfl⟩))
  refine ⟨?_, ?_, ?_, htrans _ _ _ hnumber hrange, hordering _ _ rfl⟩
  · simp [Bool.eq_false_iff, isSubtype_iff, isNumeric]
  · simp [Bool.eq_false_iff, isSubtype_iff, isNumeric]
  · exact (hlinked _ _).2 (.tail (.single (.inl hup)) (.inr hdown))

end TransitionEngine.ModelType
