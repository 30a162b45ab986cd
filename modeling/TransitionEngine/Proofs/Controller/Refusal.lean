import TransitionEngine.Proofs.Controller.Restoration
import TransitionEngine.Proofs.Program.Querying

/-!
# Calls that are refused

A call that is refused has changed nothing, whatever its code wrote before it failed. A change and a
rule work on the live variables, which are then set back to the current state; a reset works on a
copy; and a state is decoded as a whole before any of it is assigned.
-/

namespace TransitionEngine

variable {Outside : Type} {controller : Controller Outside} {outside : Outside}

/-- The call has this reason to fail: its code does, it goes back to what is no entry of the
history, the state that it is given does not fit the variables, or its rule does not exist. -/
inductive Call.Refuses (controller : Controller Outside) (outside : Outside) :
    Call Outside → EngineError → Prop
  | code {call : Call Outside} {run : Run Unit} {error : EngineError}
      (hattempt : call.attempt? controller outside = some run) (hprobe : call.isProbe = false)
      (hfailed : run.outcome = .error error) : Refuses controller outside call error
  | outOfRange {index : Nat} (hindex : controller.history.length ≤ index) :
      Refuses controller outside (.restore index)
        (.snapshotOutOfRange index controller.history.length)
  | missing {state : SavedState} {entry : Variable} (hmem : entry ∈ controller.bank.entries)
      (hwritable : entry.isConstant = false) (hmissing : state.get? entry.name = none) :
      Refuses controller outside (.restoreState state)
        (.value (.internal (.missingEntry entry.name)))
  | malformed {state : SavedState} {entry : Variable} {document : Json} {error : ValueError}
      (hmem : entry ∈ controller.bank.entries) (hwritable : entry.isConstant = false)
      (hget : state.get? entry.name = some document)
      (hdecode : entry.type.decode document = .error error) :
      Refuses controller outside (.restoreState state) (.value error)
  | unknownFired {id : RuleId} (hrule : controller.rule? id = none) :
      Refuses controller outside (.fire id) (.unknownRule id.display)
  | unknownProbed {id : RuleId} (hrule : controller.rule? id = none) :
      Refuses controller outside (.wouldFire id) (.unknownRule id.display)
  | unknownNamed {name : String} (hname : controller.ruleId? name = none) :
      Refuses controller outside (.fireByName name) (.unknownRule name)

/-- Code that fails is the only reason there is for a call that runs it. -/
theorem Call.Refuses.eq_of_attempt? {call : Call Outside} {error failure : EngineError}
    (hrefuses : call.Refuses controller outside error) {run : Run Unit}
    (hattempt : call.attempt? controller outside = some run)
    (hfailed : run.outcome = .error failure) : error = failure := by
  cases hrefuses with
  | code hattempted _ herror =>
      obtain rfl := Option.some.inj (hattempted.symm.trans hattempt)
      exact Except.error.inj (herror.symm.trans hfailed)
  | unknownFired hrule | unknownProbed hrule =>
      rw [Call.attempt?, Controller.runRule?, hrule] at hattempt
      cases hattempt
  | unknownNamed hname =>
      rw [Call.attempt?, hname] at hattempt
      cases hattempt
  | outOfRange | missing | malformed => cases hattempt

namespace Controller

/-- Conforming variables come back from the state that they are saved as. -/
theorem recovers_agreeing (hdistinct : controller.bank.HasDistinctFields)
    (hconforms : controller.bank.Conforms)
    (hlive : controller.saveState = controller.current.state) :
    controller.Recovers fun bank => bank.Agree controller.bank := by
  intro before hdeclared
  obtain ⟨bank, hrestore, hsave⟩ := Bank.exists_restore_save hconforms hdeclared
  have hkept : bank.declarations = controller.bank.declarations :=
    (Bank.declarations_restore hrestore).trans hdeclared
  have hfits : bank.Conforms := by
    refine Bank.conforms_of_restore (fun declared hmem => hdistinct declared ?_) hrestore
    rwa [hdeclared] at hmem
  refine ⟨bank, ?_, Bank.agree_of_save_eq hkept hfits hconforms hsave⟩
  rw [← hlive]
  exact hrestore

/-- Of the variables that a state does not fit, one is reported. -/
theorem restoreState_of_misfit {state : SavedState} {entry : Variable} {misfit : ValueError}
    (hmem : entry ∈ controller.bank.entries) (hmisfit : entry.restore state = .error misfit) :
    ∃ reported, (Call.restoreState state).Refuses controller outside reported ∧
      (Call.restoreState state).outcome controller outside = ⟨.error reported, controller, []⟩ := by
  cases hrestore : controller.bank.restore state with
  | ok bank =>
      obtain ⟨other, -, hother⟩ :=
        Success.exists_of_mem_left (Bank.restore_eq_ok_iff.1 hrestore) hmem
      rw [hmisfit] at hother
      cases hother
  | error failure =>
      obtain ⟨first, hfirst, hfails⟩ := Bank.exists_mem_of_restore_eq_error hrestore
      have houtcome : (Call.restoreState state).outcome controller outside =
          ⟨.error (.value failure), controller, []⟩ := by
        rw [Call.outcome, restoreState, hrestore]
        rfl
      refine ⟨.value failure, ?_, houtcome⟩
      obtain ⟨hwritable, hcase⟩ := Variable.restore_eq_error_iff.1 hfails
      rcases hcase with ⟨hmissing, rfl⟩ | ⟨document, hget, hdecode⟩
      · exact .missing hfirst hwritable hmissing
      · exact .malformed hfirst hwritable hget hdecode

/-- A call that has a reason to fail reports one, which is the error of its code when that fails,
and leaves everything as it was: the variables hold equal values, nothing else of the controller is
touched, and nothing is noticed outside. -/
theorem refusal_changes_nothing (hdistinct : controller.bank.HasDistinctFields)
    (hconforms : controller.bank.Conforms)
    (hlive : controller.saveState = controller.current.state) {call : Call Outside}
    {error : EngineError} (hrefuses : call.Refuses controller outside error) :
    ∃ reported bank, call.Refuses controller outside reported ∧
      (∀ run failure, call.attempt? controller outside = some run →
        run.outcome = .error failure → reported = failure) ∧
      call.outcome controller outside = ⟨.error reported, controller.withBank bank, []⟩ ∧
        bank.Agree controller.bank := by
  suffices hrefused : ∃ reported bank, call.Refuses controller outside reported ∧
      call.outcome controller outside = ⟨.error reported, controller.withBank bank, []⟩ ∧
        bank.Agree controller.bank by
    obtain ⟨reported, bank, hreason, houtcome, hagree⟩ := hrefused
    refine ⟨reported, bank, hreason, fun run failure hattempt hfailed => ?_, houtcome, hagree⟩
    exact hreason.eq_of_attempt? hattempt hfailed
  have hsame : controller.bank.Agree controller.bank := .refl _
  cases hrefuses with
  | code hattempt hprobe hfailed =>
      have hrecovers := recovers_agreeing hdistinct hconforms hlive
      obtain ⟨bank, houtcome, hagree⟩ :=
        outcome_of_failed hrecovers hsame hattempt hprobe hfailed
      exact ⟨error, bank, .code hattempt hprobe hfailed, houtcome, hagree⟩
  | outOfRange hindex =>
      refine ⟨_, controller.bank, .outOfRange hindex, ?_, hsame⟩
      rw [Call.outcome, restore, if_neg (Nat.not_lt.2 hindex)]
      rfl
  | missing hmem hwritable hmissing =>
      have hmisfit := Variable.restore_eq_error_iff.2 ⟨hwritable, .inl ⟨hmissing, rfl⟩⟩
      obtain ⟨reported, hreason, houtcome⟩ := restoreState_of_misfit hmem hmisfit
      exact ⟨reported, controller.bank, hreason, houtcome, hsame⟩
  | malformed hmem hwritable hget hdecode =>
      have hmisfit := Variable.restore_eq_error_iff.2 ⟨hwritable, .inr ⟨_, hget, hdecode⟩⟩
      obtain ⟨reported, hreason, houtcome⟩ := restoreState_of_misfit hmem hmisfit
      exact ⟨reported, controller.bank, hreason, houtcome, hsame⟩
  | unknownFired hrule =>
      refine ⟨_, controller.bank, .unknownFired hrule, ?_, hsame⟩
      rw [Call.outcome, fire, rule, hrule]
      rfl
  | unknownProbed hrule =>
      refine ⟨_, controller.bank, .unknownProbed hrule, ?_, hsame⟩
      rw [Call.outcome, wouldFire, rule, hrule]
      rfl
  | unknownNamed hname =>
      refine ⟨_, controller.bank, .unknownNamed hname, ?_, hsame⟩
      rw [Call.outcome, fireByName, hname]
      rfl

/-- A gauge that was raised to one is written over by what is no level at all, in vain. -/
theorem refusal_changes_nothing_gauge :
    ∃ built, (ControllerSetup.standard.build gauge ()).result = .ok built ∧
      let raised := (Call.fire ⟨0, 0⟩).perform built ()
      raised.saveState.get? "level" = some (.ofInt64 1) ∧
        ∃ bank, (Call.tryChangeState spoil).outcome raised () =
          ⟨.error (.unknownVariable "mark"), raised.withBank bank, []⟩ ∧
            bank.Agree raised.bank := by
  obtain ⟨built, hbuild⟩ : ∃ built, (ControllerSetup.standard.build gauge ()).result = .ok built :=
    ⟨_, rfl⟩
  obtain ⟨raised, hraised⟩ : ∃ raised, raised = (Call.fire ⟨0, 0⟩).perform built () := ⟨_, rfl⟩
  have hentries : raised.bank.entries = [⟨"level", .range 0 10, false, .number 1⟩] := by
    cases hbuild
    rw [hraised]
    rfl
  have hlive : raised.saveState = raised.current.state := by
    cases hbuild
    rw [hraised]
    rfl
  have hdistinct : raised.bank.HasDistinctFields := Bank.hasDistinctFields_of_range <| by
    rw [Bank.declarations, hentries]
    rfl
  have hconforms : raised.bank.Conforms := Bank.conforms_of_range (by decide) (by decide) hentries
  have hfailed : ((spoil.run raised.bank ∅).outcome.map fun _ => ()) =
      .error (.unknownVariable "mark") := by
    cases hbuild
    rw [hraised]
    rfl
  have hrefuses : (Call.tryChangeState spoil).Refuses raised () (.unknownVariable "mark") :=
    .code rfl rfl hfailed
  obtain ⟨reported, bank, -, hreported, houtcome, hagree⟩ :=
    refusal_changes_nothing hdistinct hconforms hlive hrefuses
  obtain rfl := hreported _ _ rfl hfailed
  refine ⟨built, hbuild, ?_⟩
  rw [← hraised]
  refine ⟨?_, bank, houtcome, hagree⟩
  cases hbuild
  rw [hraised]
  rfl

end Controller

end TransitionEngine
