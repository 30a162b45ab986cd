import TransitionEngine.Controller.Build
import TransitionEngine.Runner.Config
import TransitionEngine.Selector.Basic

/-!
# Runs

A runner lets a selector choose among the active rules of its controller and fires the choice, step by
step, until nothing is left to choose, the steps run out or an invariant fails. A failed invariant
that the error hook reports as such is part of the report; every other error ends the run.
-/

namespace TransitionEngine

variable {Outside State : Type}

structure Runner (Outside State : Type) where
  controller : Controller Outside
  selector : Selector Outside State
  state : State
  config : RunConfig

inductive StepOutcome where
  | changed (rule : String) (changes : Changeset)
  | unchanged (rule : String)
  | idle

structure Ran (Outside State α : Type) where
  result : Except EngineError α
  runner : Runner Outside State
  notices : List Notice

namespace Runner

def new (controller : Controller Outside) (selector : Selector Outside State) (state : State)
    (config : RunConfig) : Except EngineError (Runner Outside State) := do
  config.validate
  return ⟨controller, selector, state, config⟩

def step (runner : Runner Outside State) (outside : Outside) : Ran Outside State StepOutcome :=
  let controller := runner.controller
  let (choice, state) := runner.selector runner.state controller.activeRules controller.rulesets
  let chosen := { runner with state }
  match choice with
  | none => ⟨.ok .idle, chosen, []⟩
  | some id =>
      match controller.rule id with
      | .error error => ⟨.error error, chosen, []⟩
      | .ok rule =>
          let fired := controller.fire outside id
          let left := { chosen with controller := fired.controller }
          match fired.result with
          | .error error => ⟨.error error, left, fired.notices⟩
          | .ok changes =>
              let outcome :=
                if changes.isEmpty then .unchanged rule.name else .changed rule.name changes
              ⟨.ok outcome, left,
                fired.notices ++ [.logged (.stepTaken rule.name !changes.isEmpty)]⟩

/-- What a run has counted so far, with the fingerprints of the states it has seen. -/
structure Tally where
  steps : Nat
  transitions : Nat
  seen : NameSet
  violated : Bool

def Tally.report (tally : Tally) (idle : Bool) : RunReport :=
  ⟨tally.steps, tally.transitions, idle, tally.seen.size, tally.violated⟩

def Tally.start (runner : Runner Outside State) : Tally :=
  ⟨0, 0, .ofList [runner.controller.current.state.fingerprint], false⟩

def Tally.count (tally : Tally) (runner : Runner Outside State) (committed : Bool) : Tally :=
  { steps := tally.steps + 1
    transitions := if committed then tally.transitions + 1 else tally.transitions
    seen := tally.seen.insert runner.controller.current.state.fingerprint
    violated := tally.violated || !runner.controller.invariantsHold }

/-- What a step means to the run: it may end it, or be counted with or without a transition. -/
inductive Progress where
  | idle
  | failed (error : EngineError)
  | counted (committed : Bool) (notices : List Notice)

def Progress.ofStep : Except EngineError StepOutcome → Progress
  | .ok .idle => .idle
  | .ok (.unchanged _) => .counted false []
  | .ok (.changed _ _) => .counted true []
  | .error (.invariantFailed message violation) =>
      .counted true [.logged (.runSawFailure (.invariantFailed message violation))]
  | .error error => .failed error

def loop (runner : Runner Outside State) (outside : Nat → Outside) (tally : Tally) :
    Nat → Ran Outside State RunReport
  | 0 => ⟨.ok (tally.report false), runner, []⟩
  | remaining + 1 =>
      let stepped := runner.step (outside tally.steps)
      match Progress.ofStep stepped.result with
      | .idle => ⟨.ok (tally.report true), stepped.runner, stepped.notices⟩
      | .failed error => ⟨.error error, stepped.runner, stepped.notices⟩
      | .counted committed notices =>
          let tally := tally.count stepped.runner committed
          let told := stepped.notices ++ notices
          if stepped.runner.config.stopsOnViolation && !stepped.runner.controller.invariantsHold then
            ⟨.ok (tally.report false), stepped.runner, told⟩
          else
            let following := stepped.runner.loop outside tally remaining
            { following with notices := told ++ following.notices }

/-- Steps until nothing is left to fire, the steps run out, or, if so configured, an invariant fails.
The outside may be another one at every step. -/
def run (runner : Runner Outside State) (outside : Nat → Outside) :
    Ran Outside State RunReport :=
  let ran := runner.loop outside (.start runner) runner.config.maxSteps
  match ran.result with
  | .error _ => ran
  | .ok report =>
      { ran with notices := ran.notices ++
          [.logged (.runFinished report.steps report.transitions report.distinctStates)] }

end Runner

end TransitionEngine
