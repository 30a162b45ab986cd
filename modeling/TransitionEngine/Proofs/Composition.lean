import TransitionEngine.Proofs.Changeset
import TransitionEngine.Proofs.Json.Equality

/-!
# Changesets along a row of states

A readset is affected by a comparison exactly when the two states answer differently for one of its names.
Along a row of states nothing changes from the first to the last that no step changes, so to tell whether
a readset is affected it is enough to look at each step on its own. A name that some step changes may well
have its first value again at the end.
-/

namespace TransitionEngine.Changeset

/-- The change is known to touch this variable. -/
def Names (changes : Changeset) (name : String) : Prop :=
  ∃ names, changes.names? = some names ∧ name ∈ names

/-- The changesets from each state to the next, the first state being the one before the row. -/
def steps : SavedState → List SavedState → List Changeset
  | _, [] => []
  | state, next :: rest => between state next :: steps next rest

theorem names_between_iff {old new : SavedState} {name : String} :
    (between old new).Names name ↔ (old.get? name == new.get? name) = false := by
  simp only [Names, between, names?, Option.some.injEq, exists_eq_left', NameSet.mem_ofList,
    mem_changedNames]

/-- It does not matter which of the states is the older one. -/
theorem between_comm (old new : SavedState) : between old new = between new old := by
  have hnames : NameSet.ofList (changedNames old new) = NameSet.ofList (changedNames new old) := by
    ext name
    rw [NameSet.mem_ofList, NameSet.mem_ofList, mem_changedNames, mem_changedNames, BEq.comm]
  rw [between, hnames, between]

/-- What changes over two steps changes in one of them. -/
theorem names_or_names_of_between {old middle new : SavedState} {name : String}
    (hnames : (between old new).Names name) :
    (between old middle).Names name ∨ (between middle new).Names name := by
  simp only [names_between_iff, Bool.eq_false_iff] at hnames ⊢
  by_contra hneither
  obtain ⟨hfirst, hsecond⟩ := not_or.1 hneither
  exact hnames (BEq.trans (not_not.1 hfirst) (not_not.1 hsecond))

theorem exists_steps_of_names (first : SavedState) (rest : List SavedState) {name : String}
    (hnames : (between first (rest.getLastD first)).Names name) :
    ∃ changes ∈ steps first rest, changes.Names name := by
  induction rest generalizing first with
  | nil =>
      have hsame : (first.get? name == first.get? name) = true := BEq.rfl
      rw [List.getLastD_nil, names_between_iff, hsame] at hnames
      cases hnames
  | cons next rest ih =>
      rw [List.getLastD_cons] at hnames
      rcases names_or_names_of_between hnames with hstep | hlater
      · exact ⟨_, List.mem_cons_self .., hstep⟩
      · obtain ⟨changes, hmem, hnamed⟩ := ih next hlater
        exact ⟨changes, List.mem_cons_of_mem _ hmem, hnamed⟩

/-- A change that names a variable of the readset affects it. -/
theorem Names.affects {changes : Changeset} {name : String} {readset : NameSet}
    (hnames : changes.Names name) (hread : name ∈ readset) : changes.affects readset = true := by
  obtain ⟨names, hnames, hmem⟩ := hnames
  cases changes with
  | vars touched =>
      obtain rfl := Option.some.inj hnames
      exact NameSet.meets_iff.2 ⟨name, hmem, hread⟩
  | everything => rfl

/-- Where no step affects a readset, the last state answers as the first one for each of its names. -/
theorem beq_get?_of_steps {first : SavedState} {rest : List SavedState} {readset : NameSet}
    (hquiet : ∀ changes ∈ steps first rest, changes.affects readset = false) :
    ∀ name ∈ readset, (first.get? name == (rest.getLastD first).get? name) = true := by
  intro name hread
  by_contra hdiffers
  have hnames : (between first (rest.getLastD first)).Names name :=
    names_between_iff.2 (Bool.eq_false_iff.2 hdiffers)
  obtain ⟨changes, hmem, hstep⟩ := exists_steps_of_names first rest hnames
  have haffected := hstep.affects hread
  rw [hquiet changes hmem] at haffected
  cases haffected

/-- A comparison leaves a readset unaffected exactly when the states give the same answer for each of its
names, and both ways round it finds the same. Along a row of states it names only variables that some step
names, so a readset that no step affects finds the same values at both ends. -/
theorem changes_compose :
    (∀ old new : SavedState, between old new = between new old ∧
      ∀ readset : NameSet, (between old new).affects readset = false ↔
        ∀ name ∈ readset, (old.get? name == new.get? name) = true) ∧
    ∀ (first : SavedState) (rest : List SavedState),
      (between first (rest.getLastD first)).NamesOnly
          (fun name => ∃ changes ∈ steps first rest, changes.Names name) ∧
        ∀ readset : NameSet, (∀ changes ∈ steps first rest, changes.affects readset = false) →
          (between first (rest.getLastD first)).affects readset = false ∧
            ∀ name ∈ readset, (first.get? name == (rest.getLastD first).get? name) = true := by
  refine ⟨fun old new => ⟨between_comm old new, fun _ => affects_between_eq_false_iff⟩,
    fun first rest => ⟨?_, fun readset hquiet => ?_⟩⟩
  · intro name hmem
    exact exists_steps_of_names first rest ⟨_, rfl, hmem⟩
  · have hsame := beq_get?_of_steps hquiet
    exact ⟨affects_between_eq_false_iff.2 hsame, hsame⟩

def hatchway (hatch : String) (level : Double) (lamps : List (String × Json)) : SavedState :=
  .ofEntries ([("hatch", .str hatch), ("level", .double level)] ++ lamps)

/-- A lamp that comes and goes is named by both steps and not from end to end. The level is read as the
same throughout, though a zero gets another sign. -/
theorem changes_compose_hatchway :
    let first := hatchway "shut" .zero []
    let last := hatchway "ajar" .negativeZero []
    let row := [hatchway "open" .negativeZero [("lamp", .int 1)], last]
    steps first row = [.vars (.ofList ["hatch", "lamp"]), .vars (.ofList ["hatch", "lamp"])] ∧
      between first last = .vars (.ofList ["hatch"]) ∧ between last first = between first last ∧
      (∀ changes ∈ steps first row, changes.affects (.ofList ["level", "depth"]) = false) ∧
      (between first last).affects (.ofList ["level", "depth"]) = false ∧
      (first.get? "level" == last.get? "level") = true := by
  intro first last row
  obtain ⟨hboth, halong⟩ := changes_compose
  obtain ⟨-, hends⟩ := halong first row
  have hquiet : ∀ changes ∈ steps first row,
      changes.affects (.ofList ["level", "depth"]) = false := by decide
  obtain ⟨hunaffected, hsame⟩ := hends (.ofList ["level", "depth"]) hquiet
  exact ⟨by decide, by decide, (hboth last first).1, hquiet, hunaffected,
    hsame "level" (by decide)⟩

end TransitionEngine.Changeset
