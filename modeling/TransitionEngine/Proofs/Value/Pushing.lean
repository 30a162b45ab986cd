import TransitionEngine.Proofs.Success
import TransitionEngine.Proofs.Value.Equality
import TransitionEngine.Value.Collection

/-!
# Pushing into ordered sets

Pushing keeps the bounds of an ordered set and the difference of its members. A list of new and
different values that fits into the spare slots is taken over as it is.
-/

namespace TransitionEngine

/-- No value of the list equals a later one. -/
def Value.PairwiseDifferent (values : List Value) : Prop :=
  values.Pairwise (fun left right => (left == right) = false)

/-- Values that equal pairwise different ones are pairwise different themselves. -/
theorem Value.PairwiseDifferent.of_forall₂ {left right : List Value}
    (hright : Value.PairwiseDifferent right)
    (hequal : List.Forall₂ (fun l r => (l == r) = true) left right) :
    Value.PairwiseDifferent left := by
  induction hequal with
  | nil => exact .nil
  | @cons value other rest others hvalue hrest ih =>
      obtain ⟨hother, hothers⟩ := List.pairwise_cons.1 hright
      refine List.pairwise_cons.2 ⟨fun member hmember => ?_, ih hothers⟩
      obtain ⟨counterpart, hmatch, hmember⟩ := Success.exists_of_mem_left hrest hmember
      rw [Bool.eq_false_iff]
      intro hsame
      have htrue : (other == counterpart) = true :=
        BEq.trans (BEq.symm hvalue) (BEq.trans hsame hmember)
      simp [hother counterpart hmatch] at htrue

/-- Different values that all occur among others are not more than these. -/
theorem Value.PairwiseDifferent.length_le {values others : List Value}
    (hvalues : Value.PairwiseDifferent values)
    (hoccur : ∀ value ∈ values, ∃ other ∈ others, (value == other) = true) :
    values.length ≤ others.length := by
  induction values generalizing others with
  | nil => exact Nat.zero_le _
  | cons value rest ih =>
      obtain ⟨hvalue, hrest⟩ := List.pairwise_cons.1 hvalues
      obtain ⟨⟨other, hother, hequal⟩, hoccur⟩ := List.forall_mem_cons.1 hoccur
      obtain ⟨before, after, rfl⟩ := List.append_of_mem hother
      -- The one that the first value occurs as is taken by no later value.
      have hless : rest.length ≤ (before ++ after).length := by
        refine ih hrest fun member hmember => ?_
        obtain ⟨found, hfound, hsame⟩ := hoccur member hmember
        refine ⟨found, ?_, hsame⟩
        have hne : found ≠ other := by
          rintro rfl
          have htrue : (value == member) = true := BEq.trans hequal (BEq.symm hsame)
          simp [hvalue member hmember] at htrue
        simpa [hne] using hfound
      simp only [List.length_append, List.length_cons] at hless ⊢
      omega

namespace OrderedSetOf

theorem contains_eq_false_iff {set : OrderedSet} {value : Value} :
    set.contains value = false ↔ ∀ member ∈ set.values, (member == value) = false := by
  simp [contains]

theorem push_of_contains {set : OrderedSet} {value : Value} (hmem : set.contains value = true) :
    set.push value = .ok set :=
  if_pos hmem

theorem push_of_new {set : OrderedSet} {value slot : Value} {rest : List Value}
    (hnew : set.contains value = false) (hspare : set.spare = slot :: rest) :
    set.push value = .ok { set with values := set.values ++ [value], spare := rest } := by
  simp [push, hnew, hspare]

theorem push_of_full {set : OrderedSet} {value : Value}
    (hnew : set.contains value = false) (hspare : set.spare = []) :
    set.push value = .error (.bounds (.setFull set.display)) := by
  simp [push, hnew, hspare]

/-- A push that succeeds leaves the set alone or puts the value into its first spare slot. -/
theorem push_cases {set result : OrderedSet} {value : Value} (hpush : set.push value = .ok result) :
    set.contains value = true ∧ result = set ∨
      set.contains value = false ∧ ∃ slot rest, set.spare = slot :: rest ∧
        result = { set with values := set.values ++ [value], spare := rest } := by
  cases hcontains : set.contains value with
  | true =>
      rw [push_of_contains hcontains] at hpush
      exact .inl ⟨rfl, (Except.ok.inj hpush).symm⟩
  | false =>
      cases hspare : set.spare with
      | nil => simp [push_of_full hcontains hspare] at hpush
      | cons slot rest =>
          rw [push_of_new hcontains hspare] at hpush
          exact .inr ⟨rfl, slot, rest, rfl, (Except.ok.inj hpush).symm⟩

/-- A push fails when a new value meets a set without spare slots. -/
theorem full_of_push_eq_error {set : OrderedSet} {value : Value} {error : ValueError}
    (hpush : set.push value = .error error) : set.contains value = false ∧ set.spare = [] := by
  cases hcontains : set.contains value with
  | true =>
      rw [push_of_contains hcontains] at hpush
      cases hpush
  | false =>
      cases hspare : set.spare with
      | nil => exact ⟨rfl, rfl⟩
      | cons slot rest =>
          rw [push_of_new hcontains hspare] at hpush
          cases hpush

theorem pairwiseDifferent_append_singleton {values : List Value} {value : Value}
    (hvalues : Value.PairwiseDifferent values)
    (hnew : ∀ member ∈ values, (member == value) = false) :
    Value.PairwiseDifferent (values ++ [value]) := by
  refine List.pairwise_append.2 ⟨hvalues, List.pairwise_singleton .., ?_⟩
  intro member hmember other hother
  rw [List.mem_singleton.1 hother]
  exact hnew member hmember

section Fold

variable {pushed : List Value} {set result : OrderedSet}

theorem low_foldlM_push (hfold : pushed.foldlM push set = .ok result) : result.low = set.low := by
  refine Success.foldlM_preserves (P := fun state => state.low = set.low) hfold rfl ?_
  intro state value _ next hstate hpush
  rcases push_cases hpush with ⟨-, rfl⟩ | ⟨-, slot, rest, -, rfl⟩
  · exact hstate
  · exact hstate

theorem capacity_foldlM_push (hfold : pushed.foldlM push set = .ok result) :
    result.capacity = set.capacity := by
  refine Success.foldlM_preserves (P := fun state => state.capacity = set.capacity) hfold rfl ?_
  intro state value _ next hstate hpush
  rcases push_cases hpush with ⟨-, rfl⟩ | ⟨-, slot, rest, hspare, rfl⟩
  · exact hstate
  · rw [← hstate]
    simp only [capacity, hspare, List.length_append, List.length_cons, List.length_nil]
    omega

theorem pairwiseDifferent_foldlM_push (hset : Value.PairwiseDifferent set.values)
    (hfold : pushed.foldlM push set = .ok result) : Value.PairwiseDifferent result.values := by
  refine Success.foldlM_preserves (P := fun state => Value.PairwiseDifferent state.values)
    hfold hset ?_
  intro state value _ next hstate hpush
  rcases push_cases hpush with ⟨-, rfl⟩ | ⟨hnew, slot, rest, -, rfl⟩
  · exact hstate
  · exact pairwiseDifferent_append_singleton hstate (contains_eq_false_iff.1 hnew)

theorem mem_or_mem_of_foldlM_push (hfold : pushed.foldlM push set = .ok result) :
    ∀ value ∈ result.values, value ∈ set.values ∨ value ∈ pushed := by
  refine Success.foldlM_preserves
    (P := fun state => ∀ value ∈ state.values, value ∈ set.values ∨ value ∈ pushed)
    hfold (fun _ hvalue => .inl hvalue) ?_
  intro state value hvalue next hstate hpush
  rcases push_cases hpush with ⟨-, rfl⟩ | ⟨-, slot, rest, -, rfl⟩
  · exact hstate
  · intro member hmember
    rcases List.mem_append.1 hmember with hold | hnew
    · exact hstate member hold
    · exact .inr (List.mem_singleton.1 hnew ▸ hvalue)

/-- What is pushed is a member afterwards, and members stay. -/
theorem contains_of_foldlM_push (hfold : pushed.foldlM push set = .ok result) :
    (∀ value, set.contains value = true → result.contains value = true) ∧
      ∀ value ∈ pushed, result.contains value = true := by
  induction pushed generalizing set with
  | nil =>
      obtain rfl := Except.ok.inj hfold
      exact ⟨fun _ hmem => hmem, List.forall_mem_nil _⟩
  | cons first rest ih =>
      rw [List.foldlM_cons] at hfold
      obtain ⟨next, hpush, hrest⟩ := Success.bind_eq_ok_iff.1 hfold
      obtain ⟨hkept, hpushed⟩ := ih hrest
      have hnext : (∀ value, set.contains value = true → next.contains value = true) ∧
          next.contains first = true := by
        rcases push_cases hpush with ⟨hmem, rfl⟩ | ⟨-, slot, others, -, rfl⟩
        · exact ⟨fun _ hmem => hmem, hmem⟩
        · simp only [contains, List.any_append, Bool.or_eq_true]
          exact ⟨fun _ hmem => .inl hmem, .inr (by simp)⟩
      refine ⟨fun value hmem => hkept value (hnext.1 value hmem), List.forall_mem_cons.2 ⟨?_, hpushed⟩⟩
      exact hkept first hnext.2

end Fold

/-- Values different from each other and from the members are all appended if there is room. -/
theorem foldlM_push_of_different {set : OrderedSet} {pushed : List Value}
    (hdifferent : Value.PairwiseDifferent (set.values ++ pushed))
    (hroom : pushed.length ≤ set.spare.length) :
    pushed.foldlM push set = .ok { set with
      values := set.values ++ pushed
      spare := set.spare.drop pushed.length } := by
  induction pushed generalizing set with
  | nil => simp [pure, Except.pure]
  | cons value rest ih =>
      have hnew : set.contains value = false :=
        contains_eq_false_iff.2 fun member hmember =>
          (List.pairwise_append.1 hdifferent).2.2 member hmember value (List.mem_cons_self ..)
      cases hspare : set.spare with
      | nil => simp [hspare] at hroom
      | cons slot others =>
          rw [List.foldlM_cons, push_of_new hnew hspare]
          have hrest : rest.foldlM push
              { set with values := set.values ++ [value], spare := others } =
              .ok { set with
                values := set.values ++ [value] ++ rest
                spare := others.drop rest.length } :=
            ih (by simpa using hdifferent) (by simpa [hspare] using hroom)
          simpa [bind, Except.bind] using hrest

end OrderedSetOf

end TransitionEngine
