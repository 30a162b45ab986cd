import TransitionEngine.ModelType.Relations
import TransitionEngine.Proofs.Typing.RoundTrip

/-!
# What a variable admits

A variable looks at the kind, the bounds and the tag of a value alone. That is enough for a value which
conforms to the type of the variable, or to a subtype of it: the one thing that may still be wrong with
such a value is that it is a number beyond the bounds of a range.
-/

namespace TransitionEngine.ModelType

/-- The type is a range, and the value is a number that is not in it. -/
inductive IsBeyond : ModelType → Value → Prop
  | intro {low high n : Int64} (hbeyond : n < low ∨ high < n) : IsBeyond (.range low high) (.number n)

/-- A type is a subtype of itself, a numeric type is one of every range, and a variant is one of the union
that declares it. -/
theorem isSubtype_iff {sub par : ModelType} :
    sub.isSubtype par = true ↔
      sub = par ∨ (sub.isNumeric = true ∧ ∃ low high, par = .range low high) ∨
        ∃ union tag, sub = .variant union tag ∧ par = .either union := by
  constructor
  · intro hsub
    rcases Bool.or_eq_true_iff.1 hsub with hsame | hrelated
    · exact .inl (of_decide_eq_true hsame)
    · right
      split at hrelated
      · exact .inl ⟨rfl, _, _, rfl⟩
      · exact .inl ⟨rfl, _, _, rfl⟩
      · obtain rfl := of_decide_eq_true hrelated
        exact .inr ⟨_, _, rfl, rfl⟩
      · cases hrelated
  · rintro (rfl | ⟨hnumeric, low, high, rfl⟩ | ⟨union, tag, rfl, rfl⟩)
    · simp [isSubtype]
    · cases sub <;> simp_all [isSubtype, isNumeric]
    · simp [isSubtype]

/-- A variable admits every value that conforms to its type. -/
theorem admits_of_conforms {type : ModelType} {value : Value} (hconforms : Conforms type value) :
    type.admits value = .ok () := by
  cases hconforms with
  | number n => rfl
  | range hlow hhigh => exact checkRange_of_mem hlow hhigh
  | record hfields => rfl
  | array hlength hitems => rfl
  | either hbranch hfields => exact if_pos (by rw [hbranch, Option.isSome_some])
  | variant hbranch hfields => exact if_pos rfl
  | orderedSet hlow hcapacity hdifferent hvalues => rfl

theorem not_isBeyond_of_conforms {type : ModelType} {value : Value} (hconforms : Conforms type value) :
    ¬ IsBeyond type value := by
  rintro ⟨hbeyond⟩
  cases hconforms with
  | range hlow hhigh =>
      rcases hbeyond with hbelow | habove
      · exact Int64.not_le.2 hbelow hlow
      · exact Int64.not_le.2 habove hhigh

theorem exists_number_of_isNumeric {type : ModelType} {value : Value} (hnumeric : type.isNumeric = true)
    (hconforms : Conforms type value) : ∃ n, value = .number n := by
  cases hconforms with
  | number n => exact ⟨n, rfl⟩
  | range hlow hhigh => exact ⟨_, rfl⟩
  | _ => cases hnumeric

/-- A range admits the numbers that are not beyond it. -/
theorem admits_range_number (low high n : Int64) :
    admits (.range low high) (.number n) = .ok () ∧ ¬ IsBeyond (.range low high) (.number n) ∨
      admits (.range low high) (.number n) =
          .error (.bounds (.notInRange n.toInt (ModelType.range low high).display)) ∧
        IsBeyond (.range low high) (.number n) := by
  by_cases hbeyond : n < low ∨ high < n
  · exact .inr ⟨if_pos hbeyond, .intro hbeyond⟩
  · refine .inl ⟨if_neg hbeyond, ?_⟩
    rintro ⟨hout⟩
    exact hbeyond hout

/-- A value that conforms to a subtype is admitted, unless it is a number beyond a range: then, and only
then, the bounds refuse it. A type admits what conforms to it, and a union what conforms to any of its
variants. -/
theorem subtype_is_admitted {sub par : ModelType} {value : Value} (hsub : sub.isSubtype par = true)
    (hconforms : Conforms sub value) :
    (par.admits value = .ok () ∧ ¬ IsBeyond par value ∨
        ∃ n, value = .number n ∧ IsBeyond par value ∧
          par.admits value = .error (.bounds (.notInRange n.toInt par.display))) ∧
      (sub = par → par.admits value = .ok ()) ∧
      ∀ union, par = .either union → par.admits value = .ok () := by
  rcases isSubtype_iff.1 hsub with rfl | ⟨hnumeric, low, high, rfl⟩ | ⟨parent, tag, rfl, rfl⟩
  · have hadmits := admits_of_conforms hconforms
    exact ⟨.inl ⟨hadmits, not_isBeyond_of_conforms hconforms⟩, fun _ => hadmits, fun _ _ => hadmits⟩
  · obtain ⟨n, rfl⟩ := exists_number_of_isNumeric hnumeric hconforms
    refine ⟨?_, fun hsame => ?_, nofun⟩
    · rcases admits_range_number low high n with hadmits | ⟨hrefused, hbeyond⟩
      · exact .inl hadmits
      · exact .inr ⟨n, rfl, hbeyond, hrefused⟩
    · subst hsame
      exact admits_of_conforms hconforms
  · -- A variant and its union keep the same fields under the same tag.
    have hunion : Conforms (.either parent) value := by
      cases hconforms with
      | variant hbranch hfields => exact .either hbranch hfields
    have hadmits := admits_of_conforms hunion
    exact ⟨.inl ⟨hadmits, not_isBeyond_of_conforms hunion⟩, fun _ => hadmits, fun _ _ => hadmits⟩

/-- A card is a joker or has a rank. -/
def cardUnion : Union :=
  ⟨"Card", ⟨"Joker", []⟩, [⟨"Ranked", [("rank", .range 1 13)]⟩]⟩

/-- A ranked card goes where any card does, and a number goes into a range when it is in it. -/
theorem subtype_is_admitted_card :
    Conforms (.variant cardUnion "Ranked") (.either "Ranked" [("rank", .number 13)]) ∧
      admits (.either cardUnion) (.either "Ranked" [("rank", .number 13)]) = .ok () ∧
      ∃ n, Value.number 14 = .number n ∧ IsBeyond (.range 1 13) (.number 14) ∧
        admits (.range 1 13) (.number 14) = .error (.bounds (.notInRange n.toInt "1..13")) := by
  have hrank : FieldsConform [("rank", .range 1 13)] [("rank", .number 13)] :=
    fieldsConform_singleton (.range (by decide) (by decide))
  have hranked : Conforms (.variant cardUnion "Ranked") (.either "Ranked" [("rank", .number 13)]) := by
    apply Conforms.variant
    · rfl
    · exact hrank
  have hvariant : isSubtype (.variant cardUnion "Ranked") (.either cardUnion) = true :=
    isSubtype_iff.2 (.inr (.inr ⟨cardUnion, "Ranked", rfl, rfl⟩))
  have hnumber : isSubtype .number (.range 1 13) = true :=
    isSubtype_iff.2 (.inr (.inl ⟨rfl, 1, 13, rfl⟩))
  obtain ⟨-, -, hunion⟩ := subtype_is_admitted hvariant hranked
  obtain ⟨hrange, -, -⟩ := subtype_is_admitted hnumber (.number 14)
  refine ⟨hranked, hunion cardUnion rfl, hrange.resolve_left ?_⟩
  rintro ⟨-, hwithin⟩
  exact hwithin (.intro (.inr (by decide)))

end TransitionEngine.ModelType
