import Mathlib.Data.Set.Card
import TransitionEngine.Proofs.Controller.Constants
import TransitionEngine.Proofs.Json.Canonical
import TransitionEngine.Proofs.Runner.Counting

/-!
# Which states a run tells apart

A run counts fingerprints, which are hashes of canonical texts. Of states without doubles the texts differ
as soon as the states do, and what is saved from a bank has no doubles. So only a collision of hashes can
make a run count two of its states as one.
-/

namespace TransitionEngine

variable {Outside State : Type}

namespace SavedState

theorem toJson_inj {left right : SavedState} : left.toJson = right.toJson ↔ left = right := by
  refine ⟨fun hdocuments => ?_, fun hsame => by rw [hsame]⟩
  cases left
  cases right
  cases Json.obj.inj hdocuments
  rfl

/-- No two of the states have different canonical texts with one hash. -/
def NoCollision (states : Set SavedState) : Prop :=
  Set.InjOn Digest.Blake3.hexOfText ((fun state => state.toJson.compact) '' states)

variable {left right : SavedState} {states : Set SavedState}

theorem compact_toJson_inj (hleft : left.toJson.isIntegral = true)
    (hright : right.toJson.isIntegral = true) :
    left.toJson.compact = right.toJson.compact ↔ left = right := by
  rw [Json.compact_inj hleft hright, toJson_inj]

theorem beq_iff_eq_of_isIntegral (hleft : left.toJson.isIntegral = true) :
    (left == right) = true ↔ left = right := by
  rw [← toJson_inj, ← Json.beq_iff_eq_of_isIntegral hleft]
  rfl

theorem injOn_fingerprint (hintegral : ∀ state ∈ states, state.toJson.isIntegral = true)
    (hcollision : NoCollision states) : Set.InjOn fingerprint states := by
  intro left hleft right hright hprint
  have htexts := hcollision (Set.mem_image_of_mem _ hleft) (Set.mem_image_of_mem _ hright) hprint
  exact (compact_toJson_inj (hintegral left hleft) (hintegral right hright)).1 htexts

end SavedState

theorem Bank.isIntegral_toJson_save (bank : Bank) : bank.save.toJson.isIntegral = true := by
  refine Json.fieldsAreIntegral_iff.2 fun field hfield => ?_
  exact isIntegral_of_get?_save
    (Fields.get?_of_mem (Fields.Ascending.nodup_names bank.save.ascending) hfield)

namespace Runner

variable {runner : Runner Outside State} {outside : Nat → Outside}

/-- The current states at the start and after each of so many steps. -/
def statesSeen (runner : Runner Outside State) (outside : Nat → Outside) (count : Nat) :
    Set SavedState :=
  {state | ∃ step ≤ count, (runner.after outside step).controller.current.state = state}

theorem statesSeen_zero : runner.statesSeen outside 0 = {runner.controller.current.state} := by
  ext state
  simp [statesSeen, after, eq_comm]

theorem statesSeen_succ (count : Nat) : runner.statesSeen outside (count + 1) =
    insert (runner.after outside (count + 1)).controller.current.state
      (runner.statesSeen outside count) := by
  ext state
  simp only [statesSeen, Set.mem_insert_iff, Set.mem_ofPred_eq, Nat.le_succ_iff, or_and_right,
    exists_or, exists_eq_left]
  rw [or_comm, eq_comm]

theorem mem_seen_tallyAt_iff (count : Nat) (print : String) :
    print ∈ (runner.tallyAt outside count).seen ↔
      print ∈ SavedState.fingerprint '' runner.statesSeen outside count := by
  induction count with
  | zero => simp [statesSeen_zero, tallyAt, Tally.start]
  | succ count ih =>
      rw [tallyAt, Tally.count, statesSeen_succ, Set.image_insert_eq, Set.mem_insert_iff, ← ih]
      exact NameSet.mem_insert

/-- The run has seen as many fingerprints as the states have. -/
theorem size_seen_tallyAt (count : Nat) : (runner.tallyAt outside count).seen.size =
    (SavedState.fingerprint '' runner.statesSeen outside count).ncard := by
  generalize hseen : (runner.tallyAt outside count).seen = seen
  have hprints : SavedState.fingerprint '' runner.statesSeen outside count = seen.names.toFinset := by
    ext print
    rw [← mem_seen_tallyAt_iff, hseen, Finset.mem_coe, List.mem_toFinset]
    rfl
  rw [hprints, Set.ncard_coe_finset]
  exact NameSet.size_eq_card fun _ => Iff.rfl

/-- Whatever was done to the controller before, the run sees states that were saved from banks. -/
theorem isIntegral_of_mem_statesSeen {setup : ControllerSetup Outside} {model : Model Outside}
    {start : Outside} {built : Controller Outside} {notices : List Notice}
    (hbuild : (setup.build model start).result = .ok built)
    (hproceeds : Proceeds (fun _ _ _ => True) built runner.controller notices) {count : Nat} :
    ∀ state ∈ runner.statesSeen outside count, state.toJson.isIntegral = true := by
  rintro _ ⟨step, -, rfl⟩
  have hstart :=
    Controller.declares_of_proceeds (Controller.declares_of_build hbuild) hproceeds
  have hreached : Reaches Call.Fires runner.controller (runner.after outside step).controller :=
    reaches_after step
  have hdeclares := Controller.declares_of_reaches hstart hreached
  obtain ⟨bank, -, hsave⟩ := hdeclares.saved _ (History.current_mem_entries _)
  change bank.save = (runner.after outside step).controller.current.state at hsave
  rw [← hsave]
  exact bank.isIntegral_toJson_save

/-- Different states without doubles have different canonical texts, and so different fingerprints unless
the hashes of the two texts collide. What is saved from a bank has no doubles. So where no hashes collide,
the report of a run counts as one state only what is one. -/
theorem different_states_are_told_apart :
    (∀ left right : SavedState, left.toJson.isIntegral = true → right.toJson.isIntegral = true →
        (left.toJson.compact = right.toJson.compact ↔ (left == right) = true) ∧
          (SavedState.NoCollision {left, right} →
            (left.fingerprint = right.fingerprint ↔ (left == right) = true))) ∧
      (∀ bank : Bank, bank.save.toJson.isIntegral = true) ∧
      ∀ {setup : ControllerSetup Outside} {model : Model Outside} {start : Outside}
        {built : Controller Outside} {notices : List Notice} {runner : Runner Outside State}
        {outside : Nat → Outside} {report : RunReport},
        (setup.build model start).result = .ok built →
          Proceeds (fun _ _ _ => True) built runner.controller notices →
            (runner.run outside).result = .ok report →
              let seen := runner.statesSeen outside report.steps
              SavedState.NoCollision seen →
                Set.InjOn SavedState.fingerprint seen ∧ report.distinctStates = seen.ncard := by
  refine ⟨fun left right hleft hright => ⟨?_, fun hcollision => ?_⟩, Bank.isIntegral_toJson_save, ?_⟩
  · rw [SavedState.beq_iff_eq_of_isIntegral hleft, SavedState.compact_toJson_inj hleft hright]
  · rw [SavedState.beq_iff_eq_of_isIntegral hleft]
    have hintegral : ∀ state ∈ ({left, right} : Set SavedState), state.toJson.isIntegral = true := by
      rintro state (rfl | rfl)
      · exact hleft
      · exact hright
    exact (SavedState.injOn_fingerprint hintegral hcollision).eq_iff (.inl rfl) (.inr rfl)
  · intro setup model start built notices runner outside report hbuild hproceeds hresult seen
      hcollision
    have hinjective := SavedState.injOn_fingerprint
      (isIntegral_of_mem_statesSeen hbuild hproceeds) hcollision
    obtain ⟨-, htally, -⟩ := ends_of_run hresult
    have hdistinct : report.distinctStates = (runner.tallyAt outside report.steps).seen.size :=
      congrArg RunReport.distinctStates htally
    rw [size_seen_tallyAt, hinjective.ncard_image] at hdistinct
    exact ⟨hinjective, hdistinct⟩

/-- Without the escapes, the texts of the first two states would be the same. -/
theorem different_states_are_told_apart_cistern :
    (let left := SavedState.ofEntries [("note", .str "7\",\"unit\":\"cm")]
      let right := SavedState.ofEntries [("note", .str "7"), ("unit", .str "cm")]
      left.toJson.compact ≠ right.toJson.compact) ∧
      ∃ (built : Controller Unit) (report : RunReport),
        (ControllerSetup.standard.build Controller.cistern ()).result = .ok built ∧
          let runner : Runner Unit (Option RuleId) := ⟨built, Selector.roundRobin, none, .standard⟩
          (runner.run fun _ => ()).result = .ok report ∧ report.steps = 2 ∧
            report.distinctStates = 3 ∧ SavedState.NoCollision (runner.statesSeen (fun _ => ()) 2) ∧
            report.distinctStates = (runner.statesSeen (fun _ => ()) 2).ncard := by
  obtain ⟨hstates, -, hruns⟩ := @different_states_are_told_apart Unit (Option RuleId)
  obtain ⟨built, hbuild⟩ :
      ∃ built, (ControllerSetup.standard.build Controller.cistern ()).result = .ok built := ⟨_, rfl⟩
  obtain ⟨report, hresult, hsteps, hdistinct⟩ : ∃ report : RunReport,
      (Runner.run ⟨built, Selector.roundRobin, none, .standard⟩ fun _ => ()).result = .ok report ∧
        report.steps = 2 ∧ report.distinctStates = 3 := by
    cases hbuild
    exact ⟨_, rfl, rfl, by decide +kernel⟩
  have hcollision : SavedState.NoCollision
      (Runner.statesSeen ⟨built, Selector.roundRobin, none, .standard⟩ (fun _ => ()) 2) := by
    have htexts : (List.range 3).map (fun step =>
        (Runner.after ⟨built, Selector.roundRobin, none, .standard⟩ (fun _ => ())
          step).controller.current.state.toJson.compact) =
        ["\x7b\"level\":2\x7d", "\x7b\"level\":9\x7d", "\x7b\"level\":0\x7d"] := by
      cases hbuild
      rfl
    have hdiffer : (["\x7b\"level\":2\x7d", "\x7b\"level\":9\x7d", "\x7b\"level\":0\x7d"].map
        Digest.Blake3.hexOfText).Nodup := by
      decide +kernel
    rw [← htexts] at hdiffer
    rintro _ ⟨_, ⟨step, hstep, rfl⟩, rfl⟩ _ ⟨_, ⟨other, hother, rfl⟩, rfl⟩ hhash
    refine List.inj_on_of_nodup_map hdiffer ?_ ?_ hhash
    · exact List.mem_map_of_mem (List.mem_range.2 (Nat.lt_succ_of_le hstep))
    · exact List.mem_map_of_mem (List.mem_range.2 (Nat.lt_succ_of_le hother))
  refine ⟨?_, built, report, hbuild, hresult, hsteps, hdistinct, hcollision, ?_⟩
  · intro left right hsame
    exact absurd (((hstates left right rfl rfl).1).1 hsame) (by decide)
  · rw [← hsteps] at hcollision ⊢
    exact (hruns hbuild .start hresult hcollision).2

end Runner

end TransitionEngine
