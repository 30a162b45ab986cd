import TransitionEngine.Proofs.Runner.Counting

/-!
# Whom a report blames

A run looks for violations at the flag that the last check of the invariants left, and not every step
checks them. As long as the flag is up when the run begins, the report blames the run for what its own
checks found. But a reset does not raise the flag: when it was left down, a first step that commits
nothing makes the run report a violation that was found before it began.
-/

namespace TransitionEngine

variable {Outside State : Type}

/-- A check has found an invariant to fail. -/
def FindsFailure (notices : List Notice) : Prop :=
  ∃ invariant message, .event (.invariantFailed invariant message) ∈ notices

section FindsFailure

variable {notices others : List Notice}

@[simp]
theorem not_findsFailure_nil : ¬FindsFailure [] := by
  rintro ⟨invariant, message, hmem⟩
  cases hmem

@[simp]
theorem findsFailure_append :
    FindsFailure (notices ++ others) ↔ FindsFailure notices ∨ FindsFailure others := by
  simp only [FindsFailure, List.mem_append, exists_or]

@[simp]
theorem findsFailure_commit {index : Nat} {message : String} {changes : Changeset} :
    FindsFailure (.event (.ofCommit index message changes) :: notices) ↔ FindsFailure notices := by
  simp [FindsFailure, EventPayload.ofCommit]

@[simp]
theorem not_findsFailure_logged (diagnostics : List Diagnostic) :
    ¬FindsFailure (diagnostics.map .logged) := by
  simp [FindsFailure]

@[simp]
theorem not_findsFailure_viewNotices (controller : Controller Outside) :
    ¬FindsFailure controller.viewNotices := by
  simp [FindsFailure, Controller.viewNotices]

end FindsFailure

namespace Outcome

variable {α β : Type}

/-- The flag is down after a failure was found, and otherwise it was left or raised. -/
structure Judges (before : Controller Outside) (outcome : Outcome Outside α) : Prop where
  condemned (hfinds : FindsFailure outcome.notices) : outcome.controller.invariantsHold = false
  spared (hfinds : ¬FindsFailure outcome.notices) :
    outcome.controller.invariantsHold = before.invariantsHold ∨
      outcome.controller.invariantsHold = true

/-- The outcome neither finds a failure nor touches the flag. -/
structure IsNeutral (before : Controller Outside) (outcome : Outcome Outside α) : Prop where
  silent : ¬FindsFailure outcome.notices
  kept : outcome.controller.invariantsHold = before.invariantsHold

variable {before : Controller Outside} {outcome : Outcome Outside α}
  {next : α → Controller Outside → Outcome Outside β}

theorem IsNeutral.judges (hneutral : outcome.IsNeutral before) : outcome.Judges before :=
  ⟨fun hfinds => absurd hfinds hneutral.silent, fun _ => .inl hneutral.kept⟩

theorem IsNeutral.andThen (hneutral : outcome.IsNeutral before)
    (hnext : ∀ value, (next value outcome.controller).Judges outcome.controller) :
    (outcome.andThen next).Judges before := by
  cases hresult : outcome.result with
  | error error =>
      rw [andThen_of_error hresult]
      exact IsNeutral.judges ⟨hneutral.silent, hneutral.kept⟩
  | ok value =>
      obtain ⟨hcondemned, hspared⟩ := hnext value
      rw [andThen_of_ok hresult]
      constructor
      · intro hfinds
        exact hcondemned ((findsFailure_append.1 hfinds).resolve_left hneutral.silent)
      · intro hfinds
        rw [← hneutral.kept]
        exact hspared fun hlater => hfinds (findsFailure_append.2 (.inr hlater))

theorem Judges.andThen (hjudges : outcome.Judges before)
    (hnext : ∀ value reached, (next value reached).IsNeutral reached) :
    (outcome.andThen next).Judges before := by
  cases hresult : outcome.result with
  | error error =>
      rw [andThen_of_error hresult]
      exact ⟨hjudges.condemned, hjudges.spared⟩
  | ok value =>
      obtain ⟨hsilent, hkept⟩ := hnext value outcome.controller
      rw [andThen_of_ok hresult]
      constructor
      · intro hfinds
        exact hkept.trans (hjudges.condemned ((findsFailure_append.1 hfinds).resolve_right hsilent))
      · intro hfinds
        rw [hkept]
        exact hjudges.spared fun hearlier => hfinds (findsFailure_append.2 (.inl hearlier))

/-- The event of a commit has no part in the verdict. -/
theorem Judges.of_event {index : Nat} {message : String} {changes : Changeset}
    (hjudges : outcome.Judges before) :
    Judges before { outcome with
      notices := .event (.ofCommit index message changes) :: outcome.notices } where
  condemned hfinds := hjudges.condemned (findsFailure_commit.1 hfinds)
  spared hfinds := hjudges.spared (mt findsFailure_commit.2 hfinds)

end Outcome

namespace Controller

theorem judges_checkInvariants (controller : Controller Outside) (outside : Outside) :
    (controller.checkInvariants outside).Judges controller := by
  unfold checkInvariants
  split
  · exact ⟨fun hfinds => absurd hfinds not_findsFailure_nil, fun _ => .inr rfl⟩
  · exact Outcome.IsNeutral.judges ⟨not_findsFailure_nil, rfl⟩
  · exact ⟨fun _ => rfl, fun hfinds => absurd ⟨_, _, List.mem_cons_self ..⟩ hfinds⟩

/-- A commit judges by its check. -/
theorem judges_commit (controller : Controller Outside) (outside : Outside) (description : String)
    (changes : Changeset) : (controller.commit outside description changes).Judges controller := by
  rw [commit]
  apply Outcome.Judges.of_event
  refine Outcome.IsNeutral.andThen ⟨not_findsFailure_nil, rfl⟩ fun _ => ?_
  refine (judges_checkInvariants _ outside).andThen fun held checked => ⟨?_, rfl⟩
  rw [updateViews, Outcome.andThen]
  simp

theorem judges_settle (controller : Controller Outside) (outside : Outside)
    (run : Run (Option String)) : (controller.settle outside run).Judges controller := by
  cases houtcome : run.outcome with
  | error error =>
      rw [settle, houtcome]
      dsimp only
      split
      · exact Outcome.IsNeutral.judges ⟨not_findsFailure_nil, rfl⟩
      · exact Outcome.IsNeutral.judges ⟨not_findsFailure_logged [_], rfl⟩
  | ok description =>
      cases hsame : (Changeset.between controller.current.state run.bank.save).isEmpty with
      | true =>
          rw [settle_of_unchanged houtcome hsame]
          exact Outcome.IsNeutral.judges ⟨not_findsFailure_nil, rfl⟩
      | false =>
          rw [settle_of_changed houtcome hsame]
          obtain ⟨hcondemned, hspared⟩ := judges_commit (controller.withBank run.bank) outside
            (description.getD controller.config.defaultMessage)
            (.between controller.current.state run.bank.save)
          exact ⟨hcondemned, hspared⟩

theorem judges_fire (controller : Controller Outside) (outside : Outside) (id : RuleId) :
    (controller.fire outside id).Judges controller := by
  rw [fire]
  split
  · exact Outcome.IsNeutral.judges ⟨not_findsFailure_nil, rfl⟩
  · refine (judges_settle controller outside _).andThen fun changes settled => ?_
    split
    · exact ⟨not_findsFailure_logged [_], rfl⟩
    · exact ⟨not_findsFailure_nil, rfl⟩

end Controller

namespace Runner

section Steps

variable {runner : Runner Outside State} {outside : Nat → Outside}

theorem not_findsFailure_ofStep (result : Except EngineError StepOutcome) :
    ¬FindsFailure (Progress.ofStep result).notices := by
  unfold Progress.ofStep
  split
  · exact not_findsFailure_nil
  · exact not_findsFailure_nil
  · exact not_findsFailure_nil
  · exact not_findsFailure_logged [_]
  · exact not_findsFailure_nil

theorem findsFailure_noticesAt (count : Nat) : FindsFailure (runner.noticesAt outside count) ↔
    ∃ step < count, FindsFailure (runner.stepAt outside step).notices := by
  induction count with
  | zero => simp [noticesAt]
  | succ count ih =>
      have hadded : ¬FindsFailure (runner.progressAt outside count).notices :=
        not_findsFailure_ofStep _
      rw [noticesAt, findsFailure_append, findsFailure_append, ih, or_iff_left hadded]
      simp only [Nat.lt_succ_iff_lt_or_eq, or_and_right, exists_or, exists_eq_left]

/-- A step judges by the firing that it makes. -/
theorem judges_step (runner : Runner Outside State) (outside : Outside) :
    (FindsFailure (runner.step outside).notices →
        (runner.step outside).runner.controller.invariantsHold = false) ∧
      (¬FindsFailure (runner.step outside).notices →
        (runner.step outside).runner.controller.invariantsHold = runner.controller.invariantsHold ∨
          (runner.step outside).runner.controller.invariantsHold = true) := by
  cases hpick : runner.choice.1 with
  | none =>
      rw [step_of_none hpick]
      exact ⟨fun hfinds => absurd hfinds not_findsFailure_nil, fun _ => .inl rfl⟩
  | some id =>
      cases hrule : runner.controller.rule? id with
      | none =>
          rw [step_of_unknown hpick hrule]
          exact ⟨fun hfinds => absurd hfinds not_findsFailure_nil, fun _ => .inl rfl⟩
      | some rule =>
          obtain ⟨-, hrunner, logged, hnotices⟩ := step_of_rule hpick hrule outside
          obtain ⟨hcondemned, hspared⟩ := runner.controller.judges_fire outside id
          rw [hrunner, hnotices, findsFailure_append, or_iff_left (not_findsFailure_logged logged)]
          exact ⟨hcondemned, hspared⟩

/-- The flag was down before the run, and its first step left it so without finding a failure. -/
def InheritsFailure (runner : Runner Outside State) (outside : Nat → Outside) : Prop :=
  runner.controller.invariantsHold = false ∧ ¬FindsFailure (runner.stepAt outside 0).notices ∧
    (runner.after outside 1).controller.invariantsHold = false

/-- When the flag is down after a step, this step or one before it has found a failure, or it is down
since before the run. -/
theorem blamed_of_down {step : Nat}
    (hdown : (runner.after outside (step + 1)).controller.invariantsHold = false) :
    (∃ earlier ≤ step, FindsFailure (runner.stepAt outside earlier).notices) ∨
      runner.InheritsFailure outside := by
  induction step with
  | zero =>
      obtain ⟨-, hspared⟩ := judges_step runner (outside 0)
      by_cases hfinds : FindsFailure (runner.stepAt outside 0).notices
      · exact .inl ⟨0, Nat.le_refl 0, hfinds⟩
      · rcases hspared hfinds with hkept | hraised
        · exact .inr ⟨hkept.symm.trans hdown, hfinds, hdown⟩
        · exact absurd (hdown.symm.trans hraised) Bool.false_ne_true
  | succ step ih =>
      obtain ⟨-, hspared⟩ := judges_step (runner.after outside (step + 1)) (outside (step + 1))
      by_cases hfinds : FindsFailure (runner.stepAt outside (step + 1)).notices
      · exact .inl ⟨step + 1, Nat.le_refl _, hfinds⟩
      · rcases hspared hfinds with hkept | hraised
        · rcases ih (hkept.symm.trans hdown) with ⟨earlier, hearlier, hfound⟩ | hinherited
          · exact .inl ⟨earlier, Nat.le_succ_of_le hearlier, hfound⟩
          · exact .inr hinherited
        · exact absurd (hdown.symm.trans hraised) Bool.false_ne_true

theorem down_of_findsFailure {step : Nat}
    (hfinds : FindsFailure (runner.stepAt outside step).notices) :
    (runner.after outside (step + 1)).controller.invariantsHold = false :=
  (judges_step (runner.after outside step) (outside step)).1 hfinds

/-- A run that stops before it has to does so right after the step at which the flag goes down. -/
theorem blamed_of_stopped {last : Nat} (hgoes : runner.GoesOn outside last)
    (hstops : runner.stopsAt outside (last + 1) = true) :
    (∀ step < last, ¬FindsFailure (runner.stepAt outside step).notices) ∧
      (FindsFailure (runner.stepAt outside last).notices ∨
        (last = 0 ∧ runner.InheritsFailure outside)) := by
  rw [stopsAt, Bool.and_eq_true, Bool.not_eq_true'] at hstops
  obtain ⟨hconfig, hdown⟩ := hstops
  have hup (step : Nat) (hstep : step < last) :
      (runner.after outside (step + 1)).controller.invariantsHold ≠ false := by
    intro hdown
    obtain ⟨-, hgoes⟩ := hgoes step hstep
    rw [stopsAt, hconfig, hdown] at hgoes
    cases hgoes
  have hspared (step : Nat) (hstep : step < last) :
      ¬FindsFailure (runner.stepAt outside step).notices :=
    fun hfinds => hup step hstep (down_of_findsFailure hfinds)
  refine ⟨hspared, ?_⟩
  rcases blamed_of_down hdown with ⟨step, hstep, hfinds⟩ | hinherits
  · rcases Nat.lt_or_eq_of_le hstep with hbefore | rfl
    · exact absurd hfinds (hspared step hbefore)
    · exact .inl hfinds
  · rcases Nat.eq_zero_or_pos last with hfirst | hlater
    · exact .inr ⟨hfirst, hinherits⟩
    · exact absurd hinherits.2.2 (hup 0 hlater)

end Steps

/-- A run reports a violation when one of its own checks found one, and else only when the flag was down
before it and its first step left it so. If it stops before it has to, then at the step that found the
violation, or at the first step when the flag was down before. -/
theorem report_blames_run {runner : Runner Outside State} {outside : Nat → Outside}
    {report : RunReport} (hresult : (runner.run outside).result = .ok report) :
    (report.violated = true ↔ FindsFailure (runner.run outside).notices ∨
        (0 < report.steps ∧ runner.InheritsFailure outside)) ∧
      (report.idle = false → report.steps < runner.config.maxSteps →
        ∃ last, report.steps = last + 1 ∧
          (∀ step < last, ¬FindsFailure (runner.stepAt outside step).notices) ∧
          (FindsFailure (runner.stepAt outside last).notices ∨
            (last = 0 ∧ runner.InheritsFailure outside))) := by
  obtain ⟨hends, htally, -, diagnostic, hnotices⟩ := ends_of_run hresult
  constructor
  · have hlogged : ¬FindsFailure [.logged diagnostic] := not_findsFailure_logged [diagnostic]
    have hfinds : FindsFailure (runner.run outside).notices ↔
        ∃ step < report.steps, FindsFailure (runner.stepAt outside step).notices := by
      rw [hnotices, findsFailure_append, or_iff_left hlogged]
      exact findsFailure_noticesAt report.steps
    have hviolated : report.violated = (runner.tallyAt outside report.steps).violated :=
      congrArg RunReport.violated htally
    rw [hviolated, violated_tallyAt, hfinds]
    constructor
    · rintro ⟨step, hstep, hdown⟩
      rcases blamed_of_down hdown with ⟨earlier, hearlier, hfound⟩ | hinherits
      · exact .inl ⟨earlier, Nat.lt_of_le_of_lt hearlier hstep, hfound⟩
      · exact .inr ⟨Nat.zero_lt_of_lt hstep, hinherits⟩
    · rintro (⟨step, hstep, hfound⟩ | ⟨hsteps, hinherits⟩)
      · exact ⟨step, hstep, down_of_findsFailure hfound⟩
      · exact ⟨0, hsteps, hinherits.2.2⟩
  · intro hbusy hearly
    rw [hbusy] at hends
    clear htally hnotices
    generalize report.steps = steps at hends hearly
    cases hends with
    | @stopped last hgoes _ _ hstops => exact ⟨last, rfl, blamed_of_stopped hgoes hstops⟩
    | exhausted => exact absurd hearly (Nat.lt_irrefl _)

/-- Draining the cistern makes the run stop, and the report blames it for that. -/
theorem report_blames_run_cistern : ∃ (built : Controller Unit) (report : RunReport),
    (ControllerSetup.standard.build Controller.cistern ()).result = .ok built ∧
      let runner : Runner Unit (Option RuleId) := ⟨built, Selector.roundRobin, none, .standard⟩
      (runner.run fun _ => ()).result = .ok report ∧ report.violated = true ∧
        FindsFailure (runner.run fun _ => ()).notices ∧
        FindsFailure (runner.stepAt (fun _ => ()) 1).notices := by
  obtain ⟨built, hbuild⟩ :
      ∃ built, (ControllerSetup.standard.build Controller.cistern ()).result = .ok built := ⟨_, rfl⟩
  obtain ⟨report, hresult, hviolated, hbusy, hearly, hsteps⟩ : ∃ report : RunReport,
      (Runner.run ⟨built, Selector.roundRobin, none, .standard⟩ fun _ => ()).result = .ok report ∧
        report.violated = true ∧ report.idle = false ∧ report.steps < RunConfig.standard.maxSteps ∧
        report.steps = 2 := by
    cases hbuild
    exact ⟨_, rfl, rfl, rfl, by decide, rfl⟩
  have hinherits : ¬InheritsFailure
      (⟨built, Selector.roundRobin, none, .standard⟩ : Runner Unit (Option RuleId))
      fun _ => () := by
    rintro ⟨hdown, -⟩
    cases hbuild
    cases hdown
  obtain ⟨hblames, hstops⟩ := report_blames_run hresult
  obtain ⟨last, hlast, -, hfinds⟩ := hstops hbusy hearly
  obtain rfl : last = 1 := Nat.succ.inj (hlast.symm.trans hsteps)
  exact ⟨built, report, hbuild, hresult, hviolated,
    (hblames.1 hviolated).resolve_right fun hlate => hinherits hlate.2,
    hfinds.resolve_right fun hlate => hinherits hlate.2⟩

end Runner

/-- The kettle is not hot. -/
def notHot : Query Unit :=
  .read "heat" fun held => .done <|
    if (held.toOption.bind Value.asNumber?).getD 0 < 1 then .ok ()
    else .error (.violation ⟨"too hot"⟩)

/-- A kettle that can only be looked at. -/
def kettle : Model Unit where
  bank := ⟨[.ofType "heat" .number], by decide⟩
  rules := [⟨"look", .single fun _ => .read "heat" fun _ => .done (.ok ())⟩]
  invariants := [⟨"not hot", fun _ => notHot⟩]
  init? := none

def heatUp : Effect (Option String) :=
  .assign "heat" (.number 1) fun outcome => .done (outcome.map fun _ => none)

/-- The kettle was heated up, which an invariant forbids, and reset. A run that only looks at it checks
nothing, but stops early and reports a violation. -/
theorem Runner.report_blames_no_run : ∃ (built : Controller Unit) (report : RunReport),
    (ControllerSetup.standard.build kettle ()).result = .ok built ∧
      let heated := (built.tryChangeState () heatUp).controller
      let restarted := heated.resetToStartingState ()
      let runner : Runner Unit (Option RuleId) :=
        ⟨restarted.controller, Selector.roundRobin, none, .standard⟩
      restarted.result = .ok () ∧ (runner.run fun _ => ()).result = .ok report ∧
        ¬FindsFailure (runner.run fun _ => ()).notices ∧
        report.violated = true ∧ report.idle = false ∧ report.steps = 1 := by
  obtain ⟨built, hbuild⟩ :
      ∃ built, (ControllerSetup.standard.build kettle ()).result = .ok built := ⟨_, rfl⟩
  refine ⟨built, ?_⟩
  cases hbuild
  refine ⟨_, rfl, rfl, rfl, ?_, rfl, rfl, rfl⟩
  exact not_findsFailure_logged [_, _, _]

end TransitionEngine
