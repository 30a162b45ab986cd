import Mathlib.Data.Finset.Card
import TransitionEngine.Proofs.Controller.Prediction
import TransitionEngine.Proofs.Runner.Stepping

/-!
# What a run counts

A step that is counted as a transition has added one entry to the history, the current one, also when
an invariant fails on it; every other counted step leaves the history. So the report of a run can be
read off the history, as long as no effect passes an error of its own off as a failed invariant.
-/

namespace TransitionEngine

variable {Outside State : Type}

/-- A set has as many names as there are different ones in a list with the same members. -/
theorem NameSet.size_eq_card {set : NameSet} {names : List String}
    (hmem : ∀ name, name ∈ set ↔ name ∈ names) : set.size = names.toFinset.card := by
  have hnodup : set.names.Nodup := set.ascending.imp String.ne_of_lt
  have hsame : set.names.toFinset = names.toFinset := by
    ext name
    rw [List.mem_toFinset, List.mem_toFinset]
    exact hmem name
  rw [← hsame, List.toFinset_card_of_nodup hnodup, size]

/-- The effect does not fail as if an invariant had. -/
def Effect.BlamesNoInvariant {α : Type} (effect : Outside → Effect α) : Prop :=
  ∀ outside bank message violation,
    ((effect outside).run bank ∅).outcome ≠ .error (.invariantFailed message violation)

theorem Effect.blamesNoInvariant_overwrite (name : String) (value : Value) :
    BlamesNoInvariant fun _ : Outside => overwrite name value := by
  intro outside bank message violation hblamed
  rw [overwrite, Effect.run, Bank.update, Bank.lookupWritable, Bank.lookup] at hblamed
  cases hget : bank.get? name with
  | none =>
      rw [hget] at hblamed
      cases hblamed
  | some entry =>
      rw [hget] at hblamed
      cases hconstant : entry.isConstant <;> simp [Bind.bind, Except.bind, hconstant] at hblamed <;>
        cases hblamed

def RuleBody.BlamesNoInvariant (body : RuleBody Outside) : Prop :=
  ∀ effect, body.HasEffect effect → Effect.BlamesNoInvariant effect

namespace Controller

theorem hasRulesOf_of_proceeds {rules : List (RuleDeclaration Outside)}
    {permitted : Operation Outside → Controller Outside → Outside → Prop}
    {start controller : Controller Outside} {notices : List Notice}
    (hstart : start.core.HasRulesOf rules)
    (hproceeds : Proceeds permitted start controller notices) :
    controller.core.HasRulesOf rules := by
  induction hproceeds with
  | start => exact hstart
  | @perform controller _ _ operation outside _ ih =>
      cases operation with
      | call call =>
          rw [Operation.outcome, Call.controller_outcome]
          exact hasRulesOf_of_leaves ih (leaves_perform call controller outside)
      | reportChanges changes => exact ih.report outside changes
      | setErrorHook errorHook => exact ih
      | addView view => exact ih

end Controller

namespace Runner

/-! ### What a step counts -/

section Step

variable {runner : Runner Outside State} {outside : Outside} {committed : Bool}
  {notices : List Notice}

/-- Only a failed invariant keeps an error from ending the run. -/
theorem counted_of_error {error : EngineError}
    (hprogress : Progress.ofStep (.error error) = .counted committed notices) :
    committed = true ∧ ∃ message violation, error = .invariantFailed message violation := by
  cases error with
  | invariantFailed message violation =>
      cases hprogress
      exact ⟨rfl, message, violation, rfl⟩
  | value _ | violation _ | unknownVariable _ | unknownRule _ | snapshotOutOfRange _ _ | config _ =>
      cases hprogress

/-- The step commits when it is counted as a transition, and otherwise keeps the history. -/
theorem history_of_counted
    (hblames : ∀ id rule, runner.choice.1 = some id → runner.controller.rule? id = some rule →
      Effect.BlamesNoInvariant rule.effect)
    (hprogress : Progress.ofStep (runner.step outside).result = .counted committed notices) :
    let after := (runner.step outside).runner.controller
    (committed = true ∧ ∃ message state,
        after.history = runner.controller.history.push message state) ∨
      (committed = false ∧ after.history = runner.controller.history) := by
  cases hpick : runner.choice.1 with
  | none =>
      rw [step_of_none hpick] at hprogress
      cases hprogress
  | some id =>
      cases hrule : runner.controller.rule? id with
      | none =>
          rw [step_of_unknown hpick hrule] at hprogress
          cases hprogress
      | some rule =>
          obtain ⟨hresult, hrunner, -⟩ := step_of_rule hpick hrule outside
          rw [hresult] at hprogress
          rw [hrunner]
          dsimp only
          generalize hrun : (rule.effect outside).run runner.controller.bank ∅ = run
          cases houtcome : run.outcome with
          | error error =>
              have hdescribed := Run.outcome_describedAs_of_failed houtcome rule.name
              obtain ⟨hsettled, -⟩ :=
                Controller.settle_of_failed hdescribed runner.controller outside
              rw [Controller.fire_of_failed hrule hrun houtcome, hsettled] at hprogress
              obtain ⟨-, message, violation, rfl⟩ := counted_of_error hprogress
              rw [← hrun] at houtcome
              exact absurd houtcome (hblames id rule hpick hrule outside _ message violation)
          | ok _ =>
              cases hsame : (Changeset.between runner.controller.current.state
                  run.bank.save).isEmpty with
              | true =>
                  rw [Controller.fire_of_unchanged hrule hrun houtcome hsame] at hprogress ⊢
                  rw [Except.map, outcomeOf, if_pos hsame] at hprogress
                  cases hprogress
                  exact .inr ⟨rfl, rfl⟩
              | false =>
                  rw [Controller.fire_of_changed hrule hrun houtcome hsame] at hprogress ⊢
                  refine .inl ⟨?_, _, _, Controller.history_commit ..⟩
                  cases hcommit : ((runner.controller.withBank run.bank).commit outside rule.name
                      (.between runner.controller.current.state run.bank.save)).result with
                  | error error =>
                      rw [hcommit] at hprogress
                      exact (counted_of_error hprogress).1
                  | ok changes =>
                      rw [hcommit, Controller.changes_of_commit hcommit, Except.map, outcomeOf,
                        if_neg (Bool.eq_false_iff.1 hsame)] at hprogress
                      cases hprogress
                      rfl

end Step

/-! ### What the steps count -/

section Steps

variable {runner : Runner Outside State} {outside : Nat → Outside} {count : Nat}

theorem transitions_tallyAt_le (count : Nat) :
    (runner.tallyAt outside count).transitions ≤ count := by
  induction count with
  | zero => exact Nat.le_refl 0
  | succ count ih =>
      rw [tallyAt, Tally.count]
      dsimp only
      split
      · exact Nat.succ_le_succ ih
      · exact Nat.le_succ_of_le ih

/-- The flag is looked at after every step. -/
theorem violated_tallyAt (count : Nat) : (runner.tallyAt outside count).violated = true ↔
    ∃ step < count, (runner.after outside (step + 1)).controller.invariantsHold = false := by
  induction count with
  | zero => simp [tallyAt, Tally.start]
  | succ count ih =>
      rw [tallyAt, Tally.count]
      dsimp only
      rw [Bool.or_eq_true, ih, Bool.not_eq_true']
      constructor
      · rintro (⟨step, hstep, hdown⟩ | hdown)
        · exact ⟨step, Nat.lt_succ_of_lt hstep, hdown⟩
        · exact ⟨count, count.lt_succ_self, hdown⟩
      · rintro ⟨step, hstep, hdown⟩
        rcases Nat.lt_succ_iff_lt_or_eq.1 hstep with hbefore | rfl
        · exact .inl ⟨step, hbefore, hdown⟩
        · exact .inr hdown

theorem fingerprint_mem_seen (count : Nat) :
    (runner.after outside count).controller.current.state.fingerprint ∈
      (runner.tallyAt outside count).seen := by
  cases count with
  | zero => simp [tallyAt, Tally.start, after]
  | succ count =>
      rw [tallyAt, Tally.count]
      exact NameSet.mem_insert.2 (.inl rfl)

/-- What the steps appended to the history is what they counted and saw. -/
theorem exists_appended
    (hblames : ∀ step id rule, runner.pickAt outside step = some id →
      (runner.after outside step).controller.rule? id = some rule →
        Effect.BlamesNoInvariant rule.effect)
    (hcounted : ∀ step < count, (runner.progressAt outside step).IsCounted) :
    ∃ appended : List Snapshot,
      (runner.after outside count).controller.history.entries =
        runner.controller.history.entries ++ appended ∧
      appended.length = (runner.tallyAt outside count).transitions ∧
      ∀ print, print ∈ (runner.tallyAt outside count).seen ↔
        print ∈ (runner.controller.current :: appended).map (·.state.fingerprint) := by
  induction count with
  | zero => exact ⟨[], (List.append_nil _).symm, rfl, fun print => by simp [tallyAt, Tally.start]⟩
  | succ count ih =>
      obtain ⟨appended, hentries, hlength, hseen⟩ :=
        ih fun step hstep => hcounted step (Nat.lt_succ_of_lt hstep)
      obtain ⟨committed, notices, hprogress⟩ := hcounted count count.lt_succ_self
      have hcommits : (runner.progressAt outside count).commits = committed := by
        rw [hprogress, Progress.commits]
      have hhistory := history_of_counted (hblames count) hprogress
      rw [tallyAt, Tally.count, hcommits]
      rcases hhistory with ⟨rfl, message, state, hpushed⟩ | ⟨rfl, hkept⟩
      · change (runner.after outside (count + 1)).controller.history = _ at hpushed
        refine ⟨appended ++ [(runner.after outside (count + 1)).controller.current], ?_, ?_,
          fun print => ?_⟩
        · rw [Controller.current, hpushed, History.entries_push, hentries, List.append_assoc]
          rfl
        · rw [List.length_append, hlength]
          rfl
        · rw [NameSet.mem_insert, hseen, ← List.cons_append, List.map_append, List.mem_append,
            List.map_singleton, List.mem_singleton, or_comm]
      · change (runner.after outside (count + 1)).controller.history = _ at hkept
        refine ⟨appended, hkept ▸ hentries, hlength, fun print => ?_⟩
        rw [Controller.current, hkept, NameSet.mem_insert, hseen]
        refine or_iff_right_of_imp ?_
        rintro rfl
        exact (hseen _).1 (fingerprint_mem_seen count)

/-- An idle run had no violation to stop at; any other ends with the last step that it may take, or at a
violation that it is to stop at. -/
theorem violated_of_ends {steps : Nat} {idle : Bool} (hends : runner.Ends outside steps idle) :
    let violated := (runner.tallyAt outside steps).violated = true
    (idle = true → steps < runner.config.maxSteps ∧
        ¬(violated ∧ runner.config.stopsOnViolation = true)) ∧
      (idle = false → steps = runner.config.maxSteps ∨
        (violated ∧ runner.config.stopsOnViolation = true)) := by
  cases hends with
  | idle hgoes hmore _ =>
      refine ⟨fun _ => ⟨hmore, ?_⟩, nofun⟩
      rintro ⟨hviolated, hconfig⟩
      obtain ⟨step, hstep, hdown⟩ := (violated_tallyAt _).1 hviolated
      obtain ⟨-, hstops⟩ := hgoes step hstep
      rw [stopsAt, hconfig, hdown] at hstops
      cases hstops
  | @stopped steps _ _ _ hstops =>
      refine ⟨nofun, fun _ => .inr ?_⟩
      rw [stopsAt, Bool.and_eq_true, Bool.not_eq_true'] at hstops
      exact ⟨(violated_tallyAt _).2 ⟨steps, steps.lt_succ_self, hstops.2⟩, hstops.1⟩
  | exhausted _ => exact ⟨nofun, fun _ => .inl rfl⟩

end Steps

/-- The report of a run counts what happened, whatever was done to the controller before. The history has
grown by the transitions, on top of the entries that it had; the distinct states are those of the new
entries and the one that the run began with; and the run ended because nothing was left to fire, the
steps ran out or an invariant failed. Under either selector of the engine every pick is an instance. -/
theorem report_counts_run {runner : Runner Outside State} {setup : ControllerSetup Outside}
    {model : Model Outside} {start : Outside} {built : Controller Outside} {notices : List Notice}
    (hbuild : (setup.build model start).result = .ok built)
    (hproceeds : Proceeds (fun _ _ _ => True) built runner.controller notices)
    (hblames : ∀ declaration ∈ model.rules, declaration.body.BlamesNoInvariant)
    {outside : Nat → Outside} {report : RunReport}
    (hresult : (runner.run outside).result = .ok report) :
    let left := (runner.run outside).runner.controller
    (report.steps ≤ runner.config.maxSteps ∧ report.transitions ≤ report.steps) ∧
      (∃ appended, left.history.entries = runner.controller.history.entries ++ appended ∧
        appended.length = report.transitions ∧
        report.distinctStates =
          ((runner.controller.current :: appended).map (·.state.fingerprint)).toFinset.card ∧
        1 ≤ report.distinctStates ∧ report.distinctStates ≤ report.transitions + 1) ∧
      (report.idle = true → report.steps < runner.config.maxSteps ∧
        ¬(report.violated = true ∧ runner.config.stopsOnViolation = true)) ∧
      (report.idle = false → report.steps = runner.config.maxSteps ∨
        (report.violated = true ∧ runner.config.stopsOnViolation = true)) ∧
      (runner.selector.IsProvided →
        (∀ step id, runner.pickAt outside step = some id →
          ∃ rule, (runner.after outside step).controller.rule? id = some rule) ∧
        (report.idle = true → left.activeRules = [])) := by
  have hrules := Controller.hasRulesOf_of_proceeds (Controller.hasRulesOf_of_build hbuild).1 hproceeds
  have hspared (step : Nat) (id : RuleId) (rule : Rule Outside)
      (_ : runner.pickAt outside step = some id)
      (hrule : (runner.after outside step).controller.rule? id = some rule) :
      Effect.BlamesNoInvariant rule.effect := by
    obtain ⟨⟨declaration, hdeclaration, heffect⟩, -⟩ :=
      (Controller.hasRulesOf_of_reaches hrules (reaches_after step)).of_rule? hrule
    exact hblames declaration hdeclaration rule.effect heffect
  obtain ⟨hends, htally, hcontroller, -⟩ := ends_of_run hresult
  obtain ⟨appended, hentries, hlength, hseen⟩ :=
    exists_appended hspared fun step hstep => hends.isCounted hstep
  obtain ⟨hidle, hbusy⟩ := violated_of_ends hends
  have htransitions : report.transitions = (runner.tallyAt outside report.steps).transitions :=
    congrArg RunReport.transitions htally
  have hviolated : report.violated = (runner.tallyAt outside report.steps).violated :=
    congrArg RunReport.violated htally
  have hdistinct : report.distinctStates =
      ((runner.controller.current :: appended).map (·.state.fingerprint)).toFinset.card :=
    (congrArg RunReport.distinctStates htally).trans (NameSet.size_eq_card hseen)
  rw [← htransitions] at hlength
  rw [← hviolated] at hidle hbusy
  refine ⟨⟨hends.steps_le, ?_⟩, ⟨appended, ?_, hlength, hdistinct, ?_, ?_⟩, hidle, hbusy, ?_⟩
  · rw [htransitions]
    exact transitions_tallyAt_le _
  · rw [hcontroller]
    exact hentries
  · rw [hdistinct, Nat.succ_le_iff, Finset.card_pos]
    exact ⟨_, List.mem_toFinset.2 (List.mem_map_of_mem (List.mem_cons_self ..))⟩
  · rw [hdistinct, ← hlength, ← List.length_cons, ← List.length_map]
    exact List.toFinset_card_le _
  · intro hprovided
    constructor
    · intro step id hpick
      have hfaithful := hprovided.isFaithful
      rw [← selector_after step] at hfaithful
      obtain ⟨rule, hrule, -⟩ := exists_rule_of_choice hfaithful hpick
      exact ⟨rule, hrule⟩
    · exact activeRules_of_idle hprovided.isEager hresult

/-- The cistern is filled up and drained, and then it stops: two transitions, though the second was
refused. -/
theorem report_counts_run_cistern : ∃ (built : Controller Unit) (report : RunReport),
    (ControllerSetup.standard.build Controller.cistern ()).result = .ok built ∧
      let runner : Runner Unit (Option RuleId) := ⟨built, Selector.roundRobin, none, .standard⟩
      (runner.run fun _ => ()).result = .ok report ∧
        report.steps = 2 ∧ report.transitions = 2 ∧ report.violated = true ∧
        ∃ appended, (runner.run fun _ => ()).runner.controller.history.entries =
          built.history.entries ++ appended ∧ appended.length = 2 := by
  obtain ⟨built, hbuild⟩ :
      ∃ built, (ControllerSetup.standard.build Controller.cistern ()).result = .ok built := ⟨_, rfl⟩
  obtain ⟨report, hresult, hsteps, htransitions, hviolated⟩ : ∃ report : RunReport,
      (Runner.run ⟨built, Selector.roundRobin, none, .standard⟩ fun _ => ()).result = .ok report ∧
        report.steps = 2 ∧ report.transitions = 2 ∧ report.violated = true := by
    cases hbuild
    exact ⟨_, rfl, rfl, rfl, rfl⟩
  have hblames : ∀ declaration ∈ Controller.cistern.rules, declaration.body.BlamesNoInvariant := by
    intro declaration hmem
    rcases List.mem_pair.1 hmem with rfl | rfl
    · rintro _ rfl
      exact Effect.blamesNoInvariant_overwrite "level" (.number 9)
    · rintro _ ⟨position, rfl⟩
      exact Effect.blamesNoInvariant_overwrite "level" (.number 0)
  obtain ⟨-, ⟨appended, hentries, hlength, -⟩, -⟩ :=
    report_counts_run hbuild .start hblames hresult
  exact ⟨built, report, hbuild, hresult, hsteps, htransitions, hviolated, appended, hentries,
    hlength.trans htransitions⟩

end Runner

end TransitionEngine
