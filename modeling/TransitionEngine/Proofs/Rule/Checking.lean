import TransitionEngine.Proofs.Program.Querying
import TransitionEngine.Rule

/-!
# Checking the invariants

A check of active invariants holds exactly when every single one does. It leaves behind only what
the checks read, which neither a later check nor its result depends on.
-/

namespace TransitionEngine.Invariant

variable {Outside : Type}

/-- The invariant without what its last check read. -/
def unread (invariant : Invariant Outside) : Invariant Outside :=
  { invariant with readset := none }

@[simp]
theorem check_activateIf (invariant : Invariant Outside) (changes : Changeset) :
    (invariant.activateIf changes).check = invariant.check := by
  unfold activateIf
  split <;> rfl

/-- There is nothing to activate where every invariant is active. -/
theorem activateIf_of_active {invariant : Invariant Outside} (hactive : invariant.isActive = true)
    (changes : Changeset) : invariant.activateIf changes = invariant := by
  simp [activateIf, hactive]

section CheckAll

variable {invariants : List (Invariant Outside)} {outside : Outside} {bank : Bank}

@[simp]
theorem map_unread_checkAll (outside : Outside) (bank : Bank)
    (invariants : List (Invariant Outside)) :
    (checkAll outside bank invariants).2.map unread = invariants.map unread := by
  induction invariants with
  | nil => rfl
  | cons invariant rest ih =>
      rw [checkAll]
      split
      · dsimp only
        split
        · rw [List.map_cons, List.map_cons, ih]
          rfl
        · rfl
        · rfl
      · rw [List.map_cons, List.map_cons, ih]

theorem outcome_of_checkAll_held (hactive : ∀ invariant ∈ invariants, invariant.isActive = true)
    (hheld : (checkAll outside bank invariants).1 = .held) :
    ∀ invariant ∈ invariants, ((invariant.check outside).run bank ∅).outcome = .ok () := by
  induction invariants with
  | nil => exact fun invariant hmem => by cases hmem
  | cons invariant rest ih =>
      obtain ⟨hfirst, hrest⟩ := List.forall_mem_cons.1 hactive
      rw [checkAll, if_pos hfirst] at hheld
      dsimp only at hheld
      split at hheld
      · rename_i houtcome
        exact List.forall_mem_cons.2 ⟨houtcome, ih hrest hheld⟩
      · cases hheld
      · cases hheld

section Declared

variable {declared : List (InvariantDeclaration Outside)}
  (hsame : invariants.map unread = declared.map ofDeclaration)

include hsame

theorem exists_declared {invariant : Invariant Outside} (hmem : invariant ∈ invariants) :
    invariant.isActive = true ∧ ∃ declaration ∈ declared, declaration.check = invariant.check := by
  have hunread := List.mem_map_of_mem hmem (f := unread)
  rw [hsame] at hunread
  obtain ⟨declaration, hdeclaration, hmade⟩ := List.mem_map.1 hunread
  exact ⟨(congrArg isActive hmade).symm, declaration, hdeclaration, congrArg check hmade⟩

/-- No declared check is left out when all of them are found to hold. -/
theorem outcome_of_declared_of_held (hheld : (checkAll outside bank invariants).1 = .held) :
    ∀ declaration ∈ declared, ((declaration.check outside).run bank ∅).outcome = .ok () := by
  intro declaration hdeclaration
  have hmade := List.mem_map_of_mem hdeclaration (f := ofDeclaration)
  rw [← hsame] at hmade
  obtain ⟨invariant, hmem, hunread⟩ := List.mem_map.1 hmade
  have hcheck : invariant.check = declaration.check := congrArg check hunread
  rw [← hcheck]
  exact outcome_of_checkAll_held (fun _ hmem => (exists_declared hsame hmem).1) hheld invariant hmem

end Declared

/-- A check that fails passes on the error of one of the checks. -/
theorem exists_outcome_of_checkAll_failed {error : EngineError}
    (hfailed : (checkAll outside bank invariants).1 = .failed error) :
    ∃ invariant ∈ invariants, ((invariant.check outside).run bank ∅).outcome = .error error := by
  induction invariants with
  | nil => cases hfailed
  | cons invariant rest ih =>
      have hlater (hrest : (checkAll outside bank rest).1 = .failed error) :
          ∃ other ∈ invariant :: rest,
            ((other.check outside).run bank ∅).outcome = .error error := by
        obtain ⟨other, hother, houtcome⟩ := ih hrest
        exact ⟨other, List.mem_cons_of_mem _ hother, houtcome⟩
      rw [checkAll] at hfailed
      split at hfailed
      · dsimp only at hfailed
        split at hfailed
        · exact hlater hfailed
        · cases hfailed
        · rename_i houtcome
          obtain rfl := CheckResult.failed.inj hfailed
          exact ⟨invariant, List.mem_cons_self .., houtcome⟩
      · exact hlater hfailed

/-- Where the checks are deterministic, the result of a check depends on the values alone. -/
theorem checkAll_congr {left right : List (Invariant Outside)}
    (hsame : left.map unread = right.map unread)
    (hdeterministic : ∀ invariant ∈ left, Query.IsDeterministic invariant.check)
    {first second : Bank} (hagree : first.Agree second) (outside outside' : Outside) :
    (checkAll outside first left).1 = (checkAll outside' second right).1 := by
  induction left generalizing right with
  | nil =>
      obtain rfl := List.map_eq_nil_iff.1 hsame.symm
      rfl
  | cons invariant rest ih =>
      cases right with
      | nil => cases hsame
      | cons other others =>
          obtain ⟨hhead, hrest⟩ := List.cons.inj hsame
          obtain ⟨hcheck, hchecks⟩ := List.forall_mem_cons.1 hdeterministic
          have hothers := ih hrest hchecks
          obtain ⟨name, isActive, readset, check⟩ := invariant
          obtain ⟨name', isActive', readset', check'⟩ := other
          simp only [unread, mk.injEq, true_and] at hhead
          obtain ⟨rfl, rfl, rfl⟩ := hhead
          have houtcome := hcheck outside outside' first second hagree
          dsimp only at houtcome
          rw [checkAll, checkAll]
          dsimp only
          rw [houtcome]
          split
          · split
            · exact hothers
            · rfl
            · rfl
          · exact hothers

end CheckAll

end TransitionEngine.Invariant
