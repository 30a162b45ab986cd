import TransitionEngine.Proofs.Controller.Consistency
import TransitionEngine.Proofs.Controller.Replies

/-!
# Going back never meets a malformed state

When the code of the calls leaves conforming values whenever it succeeds, every entry of the history
can be restored, and what a failed mutator or a probe did is always taken back. The types alone do
not see to this: a write in place is not checked, and an assignment is checked only at the surface,
so either can put a value into the history that its type does not decode.
-/

namespace TransitionEngine

variable {Outside : Type} {declarations : List VariableDeclaration}

/-- A stored state has the document of a conforming value for every variable that is no constant. -/
theorem SavedState.IsStorable.exists_value {state : SavedState}
    (hstorable : state.IsStorable declarations) {declared : VariableDeclaration}
    (hmem : declared ∈ declarations) (hvariable : declared.constant? = none) :
    ∃ value, Conforms declared.type value ∧ state.get? declared.name = some value.toJson := by
  obtain ⟨bank, ⟨rfl, hconforms⟩, rfl⟩ := hstorable
  obtain ⟨entry, hentry, rfl⟩ := List.mem_map.1 hmem
  have hwritable := Variable.isSome_constant?_declaration entry
  rw [hvariable, Option.isSome_none] at hwritable
  exact ⟨entry.value, hconforms entry hentry hwritable.symm,
    Bank.save_mem_get? hentry hwritable.symm⟩

namespace Controller

/-- Every state that the controller may go back to can be restored. Going back then fails only where
the code that runs next does, and a failure of the code of a call is all that such a call
reports. -/
structure IsRestorable (declarations : List VariableDeclaration) (controller : Controller Outside) :
    Prop where
  decodes {snapshot : Snapshot} (hsnapshot : snapshot ∈ controller.history.entries)
    {declared : VariableDeclaration} (hmem : declared ∈ declarations)
    (hvariable : declared.constant? = none) :
    ∃ document value, snapshot.state.get? declared.name = some document ∧
      declared.type.decode document = .ok value
  inRange {snapshot : Snapshot} (hsnapshot : snapshot ∈ controller.history.entries)
    {name : String} {low high : Int64} (hmem : ⟨name, .range low high, none⟩ ∈ declarations) :
    ∃ number : Int64, low ≤ number ∧ number ≤ high ∧
      snapshot.state.get? name = some (.ofInt64 number)
  restores (outside : Outside) {index : Nat} {snapshot : Snapshot}
    (hsnapshot : controller.history.entries[index]? = some snapshot) :
    ∃ bank, controller.bank.restore snapshot.state = .ok bank ∧
      (controller.restore outside index).FailsOnly (controller.Raises outside bank)
  undoes {call : Call Outside} {outside : Outside} {run : Run Unit} {error : EngineError}
    (hattempt : call.attempt? controller outside = some run) (hprobe : call.isProbe = false)
    (hfailed : run.outcome = .error error) :
    ∃ bank, call.outcome controller outside = ⟨.error error, controller.withBank bank, []⟩ ∧
      bank.save = controller.current.state
  takesBack {call : Call Outside} {outside : Outside} {run : Run Unit}
    (hattempt : call.attempt? controller outside = some run) (hprobe : call.isProbe = true) :
    ∃ bank, run.bank.restore controller.current.state = .ok bank ∧
      (call.perform controller outside).saveState = controller.current.state ∧
      (call.outcome controller outside).FailsOnly (fun error =>
        run.outcome = .error error ∨ controller.Raises outside bank error) ∧
      ∀ rollback, .logged (.probeRollbackFailed rollback) ∈
        (call.outcome controller outside).notices → controller.Raises outside bank rollback

/-- Whatever code has left of the variables, restoring the current state makes such a bank. -/
def Recovers (controller : Controller Outside) (recovered : Bank → Prop) : Prop :=
  ∀ before : Bank, before.declarations = controller.bank.declarations →
    ∃ bank, before.restore controller.current.state = .ok bank ∧ recovered bank

section Recovers

variable {controller : Controller Outside} {outside : Outside} {recovered : Bank → Prop}
  (hrecovers : controller.Recovers recovered)

include hrecovers

theorem settle_undoes {run : Run (Option String)} {error : EngineError}
    (hdeclared : run.bank.declarations = controller.bank.declarations)
    (hfailed : run.outcome = .error error) :
    ∃ bank, controller.settle outside run = ⟨.error error, controller.withBank bank, []⟩ ∧
      recovered bank := by
  obtain ⟨bank, hrestore, hrecovered⟩ := hrecovers run.bank hdeclared
  refine ⟨bank, ?_, hrecovered⟩
  rw [settle, hfailed]
  dsimp only
  rw [hrestore]

theorem fire_undoes {id : RuleId} {run : Run Unit}
    (hattempt : controller.runRule? outside id = some run) {error : EngineError}
    (hfailed : run.outcome = .error error) :
    ∃ bank, controller.fire outside id = ⟨.error error, controller.withBank bank, []⟩ ∧
      recovered bank := by
  obtain ⟨rule, hrule, rfl⟩ := Option.map_eq_some_iff.1 hattempt
  have hdescribed := Run.outcome_describedAs_of_failed hfailed rule.name
  have hdeclared : (((rule.effect outside).run controller.bank ∅).describedAs
      rule.name).bank.declarations = controller.bank.declarations := Effect.declarations_run ..
  obtain ⟨bank, hsettle, hrecovered⟩ := settle_undoes hrecovers hdeclared hdescribed
  refine ⟨bank, ?_, hrecovered⟩
  rw [Controller.fire_of_failed hrule rfl hfailed, hsettle]

/-- When its code fails, a call that is no probe reports this alone, and the variables are set back.
A reset has not touched them. -/
theorem outcome_of_failed (hlive : recovered controller.bank) {call : Call Outside}
    {run : Run Unit} {error : EngineError}
    (hattempt : call.attempt? controller outside = some run) (hprobe : call.isProbe = false)
    (hfailed : run.outcome = .error error) :
    ∃ bank, call.outcome controller outside = ⟨.error error, controller.withBank bank, []⟩ ∧
      recovered bank := by
  have hfire {id : RuleId} (hrun : controller.runRule? outside id = some run) :
      ∃ bank, (controller.fire outside id).map Reply.changed =
        ⟨.error error, controller.withBank bank, []⟩ ∧ recovered bank := by
    obtain ⟨bank, hfired, hrecovered⟩ := fire_undoes hrecovers hrun hfailed
    exact ⟨bank, by rw [hfired]; rfl, hrecovered⟩
  cases call with
  | fire id => exact hfire hattempt
  | fireByName name =>
      obtain ⟨id, hname, hrun⟩ := Option.bind_eq_some_iff.1 hattempt
      rw [Call.outcome, fireByName, hname]
      exact hfire hrun
  | tryChangeState mutator =>
      obtain rfl := Option.some.inj hattempt
      obtain ⟨bank, hsettle, hrecovered⟩ := settle_undoes hrecovers
        (Effect.declarations_run ..) (Success.map_eq_error_iff.1 hfailed)
      refine ⟨bank, ?_, hrecovered⟩
      rw [Call.outcome, tryChangeState, hsettle]
      rfl
  | resetToStartingState =>
      obtain rfl := Option.some.inj hattempt
      refine ⟨controller.bank, ?_, hlive⟩
      rw [Call.outcome, resetToStartingState, reset_model, hfailed]
      rfl
  | wouldChangeState _ | wouldFire _ => cases hprobe
  | restore _ | restoreState _ | checkInvariants => cases hattempt

end Recovers

section Consistent

variable {controller : Controller Outside} {outside : Outside}
  (hconsistent : controller.core.IsConsistent declarations)

include hconsistent

theorem recovers_of_isConsistent :
    controller.Recovers fun bank => bank.save = controller.current.state := by
  intro before hdeclared
  obtain ⟨bank, hrestore, -, hsave⟩ :=
    exists_restore_of_isStored hconsistent.isStored hdeclared (.inl rfl)
  exact ⟨bank, hrestore, hsave⟩

/-- A probe leaves the state as it was, and fails only with the error of its mutator or where the
code that runs after it is taken back does. -/
theorem wouldChangeState_takesBack (outside : Outside) (mutator : Effect Unit) :
    ∃ bank, (mutator.run controller.bank ∅).bank.restore controller.current.state = .ok bank ∧
      (controller.wouldChangeState outside mutator).controller.saveState =
        controller.current.state ∧
      (controller.wouldChangeState outside mutator).FailsOnly (fun error =>
        (mutator.run controller.bank ∅).outcome = .error error ∨
          controller.Raises outside bank error) ∧
      ∀ rollback, .logged (.probeRollbackFailed rollback) ∈
        (controller.wouldChangeState outside mutator).notices →
          controller.Raises outside bank rollback := by
  generalize hrun : mutator.run controller.bank ∅ = run
  have hdeclared : run.bank.declarations = controller.bank.declarations := by
    rw [← hrun]
    exact Effect.declarations_run ..
  obtain ⟨bank, hrestore, hsave⟩ := recovers_of_isConsistent hconsistent run.bank hdeclared
  refine ⟨bank, hrestore, ?_⟩
  cases hempty : (Changeset.between controller.current.state run.bank.save).isEmpty with
  | true =>
      rw [wouldChangeState_of_unchanged hrun hempty]
      refine ⟨?_, fun error herror => .inl (Success.map_eq_error_iff.1 herror),
        fun rollback hmem => by cases hmem⟩
      have hlive : controller.bank.save = controller.current.state := hconsistent.live
      rw [← hlive] at hempty ⊢
      exact (Bank.isEmpty_between_save_iff.1 hempty).symm
  | false =>
      obtain ⟨notices, hnotices, hprobe⟩ :=
        wouldChangeState_of_changed hrun hempty hrestore outside
      have hfails : ((controller.withBank bank).reportChanges outside .everything).FailsOnly
          (controller.Raises outside bank) := fun error herror =>
        (failsOnly_reportChanges _ outside .everything error herror).of_same rfl rfl rfl
      rw [hprobe]
      refine ⟨hsave, fun error herror => ?_, fun rollback hmem => ?_⟩
      · cases houtcome : run.outcome with
        | error failure =>
            dsimp only at herror
            rw [houtcome] at herror
            exact .inl (congrArg Except.error (Except.error.inj herror))
        | ok _ =>
            dsimp only at herror
            rw [houtcome] at herror
            exact .inr (hfails error (Success.map_eq_error_iff.1 herror))
      · obtain ⟨other, hfailed, hlogged⟩ := hnotices _ hmem
        cases hlogged
        exact hfails _ hfailed

theorem isRestorable_of_isConsistent : controller.IsRestorable declarations where
  decodes hsnapshot _ hmem hvariable := by
    obtain ⟨value, hconforms, hget⟩ :=
      (hconsistent.storable _ hsnapshot).exists_value hmem hvariable
    obtain ⟨decoded, hdecode, -⟩ := ModelType.recovers_of_conforms hconforms
    exact ⟨_, decoded, hget, hdecode⟩
  inRange hsnapshot _ _ _ hmem := by
    obtain ⟨value, hconforms, hget⟩ := (hconsistent.storable _ hsnapshot).exists_value hmem rfl
    cases hconforms with
    | range hlow hhigh => exact ⟨_, hlow, hhigh, hget⟩
  restores outside index snapshot hsnapshot := by
    obtain ⟨hindex, rfl⟩ := History.current_truncate_of_getElem? hsnapshot
    obtain ⟨bank, hrestore, -⟩ :=
      exists_restore_of_isStored hconsistent.isStored rfl (.inr ⟨index, rfl⟩)
    exact ⟨bank, hrestore, failsOnly_restore hindex hrestore⟩
  undoes := outcome_of_failed (recovers_of_isConsistent hconsistent) hconsistent.live
  takesBack {call outside run} hattempt hprobe := by
    have hmutator {mutator : Effect Unit} (hrun : mutator.run controller.bank ∅ = run)
        (houtcome : call.outcome controller outside =
          (controller.wouldChangeState outside mutator).map .wouldChange) :
        ∃ bank, run.bank.restore controller.current.state = .ok bank ∧
          (call.perform controller outside).saveState = controller.current.state ∧
          (call.outcome controller outside).FailsOnly (fun error =>
            run.outcome = .error error ∨ controller.Raises outside bank error) ∧
          ∀ rollback, .logged (.probeRollbackFailed rollback) ∈
            (call.outcome controller outside).notices →
              controller.Raises outside bank rollback := by
      obtain ⟨bank, hrestore, hlive, hfails, hnotices⟩ :=
        wouldChangeState_takesBack hconsistent outside mutator
      rw [← Call.controller_outcome, houtcome, ← hrun]
      exact ⟨bank, hrestore, hlive, hfails.map _, hnotices⟩
    cases call with
    | wouldChangeState mutator => exact hmutator (Option.some.inj hattempt) rfl
    | wouldFire id =>
        obtain ⟨rule, hrule, hrun⟩ := Option.map_eq_some_iff.1 hattempt
        refine hmutator hrun ?_
        rw [Call.outcome, wouldFire, Controller.rule, hrule]
    | fire _ | fireByName _ | tryChangeState _ | restore _ | restoreState _
    | resetToStartingState | checkInvariants => cases hprobe

end Consistent

/-- When the code of the calls leaves conforming values, every state in the history can be gone back
to, and whatever is to be taken back is. -/
theorem history_is_restorable {setup : ControllerSetup Outside} {model : Model Outside}
    (hconforms : model.bank.Conforms) {start : Outside} {built controller : Controller Outside}
    (hbuild : (setup.build model start).result = .ok built)
    (hreached : Reaches Call.SucceedsConforming built controller) :
    controller.IsRestorable model.bank.declarations :=
  isRestorable_of_isConsistent <|
    isConsistent_of_reaches (isConsistent_of_build hconforms hbuild) hreached

/-- The gauge can go back to where it stood before it was raised and spoiled in vain. -/
theorem history_is_restorable_gauge :
    ∃ built, (ControllerSetup.standard.build gauge ()).result = .ok built ∧
      let raised := (Call.fire ⟨0, 0⟩).perform built ()
      let spoiled := (Call.tryChangeState spoil).perform raised ()
      spoiled.IsRestorable gauge.bank.declarations ∧
        ∃ bank, spoiled.bank.restore built.current.state = .ok bank := by
  obtain ⟨built, hbuild⟩ : ∃ built, (ControllerSetup.standard.build gauge ()).result = .ok built :=
    ⟨_, rfl⟩
  have hrestorable := history_is_restorable (Bank.conforms_of_range (by decide) (by decide) rfl)
    hbuild (reaches_spoiled_gauge hbuild)
  have hfirst : ((Call.tryChangeState spoil).perform ((Call.fire ⟨0, 0⟩).perform built ())
      ()).history.entries[0]? = some built.current := by
    cases hbuild
    rfl
  obtain ⟨bank, hrestore, -⟩ := hrestorable.restores () hfirst
  exact ⟨built, hbuild, hrestorable, bank, hrestore⟩

/-- A gauge that is full already. -/
def fullGauge : Model Unit where
  bank := ⟨[.ofType "level" (.range 0 0)], by decide⟩
  rules := gauge.rules
  invariants := []
  init? := none

/-- A crate that is filled with more than it may hold. -/
def crate : Model Unit where
  bank := ⟨[.ofType "content" (.record "Content" [("load", .range 0 1)])], by decide⟩
  rules := [⟨"fill", .single fun _ =>
    Effect.assignVariable "content" (.record [("load", .number 5)])⟩]
  invariants := []
  init? := none

theorem conforms_crate : crate.bank.Conforms := by
  intro entry hmem _
  rw [List.mem_singleton.1 hmem]
  exact .record (fieldsConform_singleton (.range (by decide) (by decide)))

/-- Whether a write is made in place or by an assignment, it can commit a state that cannot be
restored, though the values conformed before. -/
theorem history_is_not_restorable :
    (∃ built, fullGauge.bank.Conforms ∧
      (ControllerSetup.standard.build fullGauge ()).result = .ok built ∧
      let raised := (Call.fire ⟨0, 0⟩).perform built ()
      raised.current.state.get? "level" = some (.ofInt64 1) ∧
        ¬ raised.IsRestorable fullGauge.bank.declarations ∧
        ∃ error, (raised.restore () 1).result = .error (.value error)) ∧
    ∃ built, crate.bank.Conforms ∧
      (ControllerSetup.standard.build crate ()).result = .ok built ∧
      let filled := (Call.fire ⟨0, 0⟩).perform built ()
      ¬ filled.IsRestorable crate.bank.declarations ∧
        ∃ error, (filled.restore () 1).result = .error (.value error) := by
  constructor
  · refine ⟨_, Bank.conforms_of_range (by decide) (by decide) rfl, rfl, rfl, fun hrestorable => ?_, _,
      rfl⟩
    obtain ⟨bank, hrestore, -⟩ := hrestorable.restores () (show _[1]? = some _ from rfl)
    cases hrestore
  · refine ⟨_, conforms_crate, rfl, fun hrestorable => ?_, _, rfl⟩
    obtain ⟨bank, hrestore, -⟩ := hrestorable.restores () (show _[1]? = some _ from rfl)
    cases hrestore

end Controller

end TransitionEngine
