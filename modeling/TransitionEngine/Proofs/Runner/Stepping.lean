import TransitionEngine.Proofs.Selector.Picking

/-!
# Step by step

The steps of a run could go on for ever: what ends the run is decided from outside, by what a step came
to and by how many there may be. So the runner, the count and the notices are followed here from step
to step, and a run is what they are at the first step after which it does not go on.
-/

namespace TransitionEngine

variable {Outside State : Type}

namespace Runner

/-- Whether the step is counted as a transition. -/
def Progress.commits : Progress → Bool
  | .counted committed _ => committed
  | .idle | .failed _ => false

/-- What the run gives notice of beyond the step. -/
def Progress.notices : Progress → List Notice
  | .counted _ notices => notices
  | .idle | .failed _ => []

def Progress.IsCounted (progress : Progress) : Prop :=
  ∃ committed notices, progress = .counted committed notices

/-- What the selector picks from the active rules, and the state that it goes on with. -/
def choice (runner : Runner Outside State) : Option RuleId × State :=
  runner.selector runner.state runner.controller.activeRules runner.controller.rulesets

/-! ### One step -/

section Step

variable {runner : Runner Outside State} {outside : Outside} {id : RuleId}

theorem step_of_none (hpick : runner.choice.1 = none) :
    runner.step outside = ⟨.ok .idle, { runner with state := runner.choice.2 }, []⟩ := by
  rw [step]
  dsimp only
  split
  · rfl
  · rename_i hsome
    rw [choice, hsome] at hpick
    cases hpick

theorem step_of_unknown (hpick : runner.choice.1 = some id)
    (hrule : runner.controller.rule? id = none) :
    runner.step outside =
      ⟨.error (.unknownRule id.display), { runner with state := runner.choice.2 }, []⟩ := by
  rw [step]
  dsimp only
  split
  · rename_i hnone
    rw [choice, hnone] at hpick
    cases hpick
  · rename_i picked hsome
    rw [choice, hsome] at hpick
    obtain rfl := Option.some.inj hpick
    rw [Controller.rule, hrule]
    rfl

/-- What a step that fired a rule comes to. -/
def outcomeOf (name : String) (changes : Changeset) : StepOutcome :=
  if changes.isEmpty then .unchanged name else .changed name changes

theorem step_of_rule {rule : Rule Outside} (hpick : runner.choice.1 = some id)
    (hrule : runner.controller.rule? id = some rule) (outside : Outside) :
    let fired := runner.controller.fire outside id
    (runner.step outside).result = fired.result.map (outcomeOf rule.name) ∧
      (runner.step outside).runner =
        { runner with controller := fired.controller, state := runner.choice.2 } ∧
      ∃ logged : List Diagnostic,
        (runner.step outside).notices = fired.notices ++ logged.map .logged := by
  rw [step]
  dsimp only
  split
  · rename_i hnone
    rw [choice, hnone] at hpick
    cases hpick
  · rename_i picked hsome
    rw [choice, hsome] at hpick
    obtain rfl := Option.some.inj hpick
    rw [Controller.rule, hrule]
    dsimp only
    cases (runner.controller.fire outside picked).result with
    | error error => exact ⟨rfl, rfl, [], (List.append_nil _).symm⟩
    | ok changes => exact ⟨rfl, rfl, [_], rfl⟩

/-- A selector that picks candidates only picks instances that there are. -/
theorem exists_rule_of_choice (hfaithful : runner.selector.IsFaithful)
    (hpick : runner.choice.1 = some id) :
    ∃ rule, runner.controller.rule? id = some rule ∧ rule.isActive = true :=
  Controller.mem_activeRules_iff.1 (hfaithful _ _ _ _ hpick)

theorem config_step (runner : Runner Outside State) (outside : Outside) :
    (runner.step outside).runner.config = runner.config := by
  rw [step]
  dsimp only
  split
  · rfl
  · split
    · rfl
    · split <;> rfl

/-- Only a step that found nothing to pick is idle. -/
theorem choice_of_idle (hidle : Progress.ofStep (runner.step outside).result = .idle) :
    runner.choice.1 = none := by
  have hresult := ofStep_eq_idle hidle
  cases hpick : runner.choice.1 with
  | none => rfl
  | some id =>
      cases hrule : runner.controller.rule? id with
      | none =>
          rw [step_of_unknown hpick hrule] at hresult
          cases hresult
      | some rule =>
          obtain ⟨hfired, -, -⟩ := step_of_rule hpick hrule outside
          rw [hfired] at hresult
          obtain ⟨changes, -, hstep⟩ := Success.map_eq_ok_iff.1 hresult
          rw [outcomeOf] at hstep
          split at hstep <;> cases hstep

end Step

/-! ### Step after step -/

section Steps

variable (runner : Runner Outside State) (outside : Nat → Outside)

/-- The runner after this many steps, whatever they came to. -/
def after : Nat → Runner Outside State
  | 0 => runner
  | count + 1 => ((after count).step (outside count)).runner

/-- What is picked after this many steps. -/
def pickAt (count : Nat) : Option RuleId :=
  (runner.after outside count).choice.1

def stepAt (count : Nat) : Ran Outside State StepOutcome :=
  (runner.after outside count).step (outside count)

def progressAt (count : Nat) : Progress :=
  .ofStep (runner.stepAt outside count).result

def tallyAt : Nat → Tally
  | 0 => .start runner
  | count + 1 =>
      (tallyAt count).count (runner.after outside (count + 1)) (runner.progressAt outside count).commits

/-- The notices of this many steps, with those that the run adds. -/
def noticesAt : Nat → List Notice
  | 0 => []
  | count + 1 => noticesAt count ++
      ((runner.stepAt outside count).notices ++ (runner.progressAt outside count).notices)

/-- Whether the run is to stop after this many steps because of a failed invariant. -/
def stopsAt (count : Nat) : Bool :=
  runner.config.stopsOnViolation && !(runner.after outside count).controller.invariantsHold

/-- So many steps are counted, and none of them stops the run. -/
def GoesOn (count : Nat) : Prop :=
  ∀ step < count, (runner.progressAt outside step).IsCounted ∧ runner.stopsAt outside (step + 1) = false

variable {runner outside}

@[simp]
theorem selector_after (count : Nat) : (runner.after outside count).selector = runner.selector := by
  induction count with
  | zero => rfl
  | succ count ih => rw [after, selector_step, ih]

@[simp]
theorem config_after (count : Nat) : (runner.after outside count).config = runner.config := by
  induction count with
  | zero => rfl
  | succ count ih => rw [after, config_step, ih]

@[simp]
theorem steps_tallyAt (count : Nat) : (runner.tallyAt outside count).steps = count := by
  induction count with
  | zero => rfl
  | succ count ih => rw [tallyAt, Tally.count, ih]

theorem reaches_after (count : Nat) :
    Reaches Call.Fires runner.controller (runner.after outside count).controller := by
  induction count with
  | zero => exact .start
  | succ count ih => exact reaches_step ih (outside count)

theorem GoesOn.succ {count : Nat} (hgoes : runner.GoesOn outside count)
    (hcounted : (runner.progressAt outside count).IsCounted)
    (hstops : runner.stopsAt outside (count + 1) = false) : runner.GoesOn outside (count + 1) := by
  intro step hstep
  rcases Nat.lt_succ_iff_lt_or_eq.1 hstep with hbefore | rfl
  · exact hgoes step hbefore
  · exact ⟨hcounted, hstops⟩

/-! ### The whole run -/

/-- After this many steps the run ends, idle or not. -/
inductive Ends (runner : Runner Outside State) (outside : Nat → Outside) : Nat → Bool → Prop
  | idle {steps : Nat} (hgoes : runner.GoesOn outside steps) (hmore : steps < runner.config.maxSteps)
      (hidle : runner.progressAt outside steps = .idle) : Ends runner outside steps true
  | stopped {steps : Nat} (hgoes : runner.GoesOn outside steps)
      (hmore : steps < runner.config.maxSteps)
      (hcounted : (runner.progressAt outside steps).IsCounted)
      (hstops : runner.stopsAt outside (steps + 1) = true) : Ends runner outside (steps + 1) false
  | exhausted (hgoes : runner.GoesOn outside runner.config.maxSteps) :
      Ends runner outside runner.config.maxSteps false

theorem Ends.steps_le {steps : Nat} {idle : Bool} (hends : runner.Ends outside steps idle) :
    steps ≤ runner.config.maxSteps := by
  cases hends with
  | idle _ hmore => exact Nat.le_of_lt hmore
  | stopped _ hmore => exact hmore
  | exhausted => exact Nat.le_refl _

theorem Ends.isCounted {steps step : Nat} {idle : Bool} (hends : runner.Ends outside steps idle)
    (hstep : step < steps) : (runner.progressAt outside step).IsCounted := by
  cases hends with
  | idle hgoes => exact (hgoes step hstep).1
  | stopped hgoes _ hcounted =>
      rcases Nat.lt_succ_iff_lt_or_eq.1 hstep with hbefore | rfl
      · exact (hgoes step hbefore).1
      · exact hcounted
  | exhausted hgoes => exact (hgoes step hstep).1

/-- From wherever it goes on, the run is the rest of the loop with the notices so far in front. -/
theorem loop_succ (count remaining : Nat) :
    (runner.after outside count).loop outside (runner.tallyAt outside count) (remaining + 1) =
      match runner.progressAt outside count with
      | .idle => ⟨.ok ((runner.tallyAt outside count).report true),
          runner.after outside (count + 1), (runner.stepAt outside count).notices⟩
      | .failed error => ⟨.error error,
          runner.after outside (count + 1), (runner.stepAt outside count).notices⟩
      | .counted _ notices =>
          let told := (runner.stepAt outside count).notices ++ notices
          if runner.stopsAt outside (count + 1) then
            ⟨.ok ((runner.tallyAt outside (count + 1)).report false),
              runner.after outside (count + 1), told⟩
          else
            let following := (runner.after outside (count + 1)).loop outside
              (runner.tallyAt outside (count + 1)) remaining
            { following with notices := told ++ following.notices } := by
  have hconfig : ((runner.after outside count).step (outside count)).runner.config =
      runner.config := by rw [config_step, config_after]
  rw [loop, steps_tallyAt, hconfig, tallyAt, progressAt, stepAt]
  cases Progress.ofStep ((runner.after outside count).step (outside count)).result with
  | idle => rfl
  | failed error => rfl
  | counted committed notices => rfl

theorem ends_of_loop {count remaining : Nat} {looped : Ran Outside State RunReport}
    {report : RunReport} (hlast : count + remaining = runner.config.maxSteps)
    (hgoes : runner.GoesOn outside count)
    (hlooped : (runner.after outside count).loop outside (runner.tallyAt outside count) remaining =
      looped) (hresult : looped.result = .ok report) :
    ∃ steps, runner.Ends outside steps report.idle ∧
      report = (runner.tallyAt outside steps).report report.idle ∧
      looped.runner.controller = (runner.after outside steps).controller ∧
      runner.noticesAt outside count ++ looped.notices = runner.noticesAt outside steps := by
  induction remaining generalizing count looped with
  | zero =>
      subst hlooped
      obtain rfl : count = runner.config.maxSteps := hlast
      obtain rfl := Except.ok.inj hresult
      exact ⟨_, .exhausted hgoes, rfl, rfl, List.append_nil _⟩
  | succ remaining ih =>
      have hmore : count < runner.config.maxSteps := by omega
      rw [loop_succ] at hlooped
      cases hprogress : runner.progressAt outside count with
      | idle =>
          rw [hprogress] at hlooped
          subst hlooped
          obtain rfl := Except.ok.inj hresult
          have hnone := choice_of_idle hprogress
          refine ⟨count, .idle hgoes hmore hprogress, rfl, ?_, ?_⟩
          · dsimp only
            rw [after, step_of_none hnone]
          · dsimp only
            rw [stepAt, step_of_none hnone, List.append_nil]
      | failed error =>
          rw [hprogress] at hlooped
          subst hlooped
          cases hresult
      | counted committed notices =>
          have hnotices : runner.noticesAt outside (count + 1) =
              runner.noticesAt outside count ++
                ((runner.stepAt outside count).notices ++ notices) := by
            rw [noticesAt, hprogress, Progress.notices]
          have hcounted : (runner.progressAt outside count).IsCounted := ⟨_, _, hprogress⟩
          rw [hprogress] at hlooped
          dsimp only at hlooped
          cases hstops : runner.stopsAt outside (count + 1) with
          | true =>
              rw [if_pos hstops] at hlooped
              subst hlooped
              obtain rfl := Except.ok.inj hresult
              exact ⟨count + 1, .stopped hgoes hmore hcounted hstops, rfl, rfl, hnotices.symm⟩
          | false =>
              rw [if_neg (Bool.eq_false_iff.1 hstops)] at hlooped
              subst hlooped
              obtain ⟨steps, hends, htally, hcontroller, hfollowing⟩ :=
                ih (by omega) (hgoes.succ hcounted hstops) rfl hresult
              refine ⟨steps, hends, htally, hcontroller, ?_⟩
              rw [← hfollowing, hnotices]
              exact (List.append_assoc ..).symm

/-- A run that completes ends after the steps that it reports, with what there is then to report. -/
theorem ends_of_run {report : RunReport} (hresult : (runner.run outside).result = .ok report) :
    runner.Ends outside report.steps report.idle ∧
      report = (runner.tallyAt outside report.steps).report report.idle ∧
      (runner.run outside).runner.controller = (runner.after outside report.steps).controller ∧
      ∃ diagnostic, (runner.run outside).notices =
        runner.noticesAt outside report.steps ++ [.logged diagnostic] := by
  obtain ⟨hlooped, hrunner⟩ := run_eq_loop runner outside
  rw [hlooped] at hresult
  obtain ⟨steps, hends, htally, hcontroller, hnotices⟩ :=
    ends_of_loop (Nat.zero_add _) (fun _ hstep => absurd hstep (Nat.not_lt_zero _)) rfl hresult
  have hsteps : report.steps = steps := by
    rw [htally]
    exact steps_tallyAt steps
  rw [hsteps]
  refine ⟨hends, htally, hrunner ▸ hcontroller, ?_⟩
  rw [run, hresult]
  exact ⟨_, congrArg (· ++ _) hnotices⟩

/-- As long as the run goes on, it is the loop from where it has come to. -/
theorem loop_of_goesOn {count : Nat} (hgoes : runner.GoesOn outside count) (remaining : Nat) :
    let started := runner.loop outside (.start runner) (count + remaining)
    let following := (runner.after outside count).loop outside (runner.tallyAt outside count) remaining
    started.result = following.result ∧ started.runner = following.runner := by
  induction count generalizing remaining with
  | zero =>
      rw [Nat.zero_add]
      exact ⟨rfl, rfl⟩
  | succ count ih =>
      obtain ⟨hresult, hrunner⟩ := ih (fun step hstep => hgoes step (by omega)) (remaining + 1)
      obtain ⟨⟨committed, notices, hprogress⟩, hstops⟩ := hgoes count count.lt_succ_self
      rw [loop_succ, hprogress] at hresult hrunner
      dsimp only at hresult hrunner
      rw [if_neg (Bool.eq_false_iff.1 hstops)] at hresult hrunner
      rw [Nat.add_right_comm]
      exact ⟨hresult, hrunner⟩

/-- A run that goes on to an idle step completes there. -/
theorem run_of_idle {steps : Nat} (hgoes : runner.GoesOn outside steps)
    (hmore : steps < runner.config.maxSteps)
    (hidle : runner.progressAt outside steps = .idle) :
    (runner.run outside).result = .ok ((runner.tallyAt outside steps).report true) ∧
      (runner.run outside).runner.controller = (runner.after outside steps).controller := by
  obtain ⟨remaining, hmax⟩ := Nat.exists_eq_add_of_lt hmore
  obtain ⟨hlooped, hrunner⟩ := run_eq_loop runner outside
  obtain ⟨hresult, hreached⟩ := loop_of_goesOn hgoes (remaining + 1)
  rw [hlooped, hrunner, hmax, Nat.add_assoc, hresult, hreached, loop_succ, hidle]
  refine ⟨rfl, ?_⟩
  dsimp only
  rw [after, step_of_none (choice_of_idle hidle)]

end Steps

end Runner

end TransitionEngine
