import Mathlib.Logic.Relation
import TransitionEngine.Proofs.Controller.Calls
import TransitionEngine.Proofs.Rule.Checking
import TransitionEngine.Proofs.Rule.Freshness

/-!
# Calls in steps

A call is a chain of steps of a few kinds: the variables are overwritten, a rule is put to sleep, a
change is reported, the invariants are checked, and the history is pushed to, rewound or restarted.
What every step keeps, every call keeps, wherever it fails. So a controller always has the hooks,
the rules and the invariants that it was built with, and its invariants are always active.
-/

namespace TransitionEngine

variable {Outside : Type}

namespace Controller

/-- The parts of calls. Going back to an entry rewinds the history, and a reset restarts it. -/
inductive Step (call : Call Outside) (outside : Outside) :
    Controller Outside → Controller Outside → Prop
  | overwritten (controller : Controller Outside) (bank : Bank) :
      Step call outside controller (controller.withBank bank)
  | slept (controller : Controller Outside) (id : RuleId) (readset : NameSet) :
      Step call outside controller (controller.sleepRule id readset)
  | reported (controller : Controller Outside) (changes : Changeset) :
      Step call outside controller (controller.reportChanges outside changes).controller
  | checked (controller : Controller Outside) :
      Step call outside controller (controller.checkInvariants outside).controller
  | pushed (controller : Controller Outside) (message : String) :
      Step call outside controller
        { controller with history := controller.history.push message controller.saveState }
  | rewound (controller : Controller Outside) {index : Nat} (hcall : call = .restore index) :
      Step call outside controller
        { controller with history := controller.history.truncate index }
  | restarted (controller : Controller Outside) (hcall : call = .resetToStartingState) :
      Step call outside controller
        { controller with history := .start "Reset" controller.saveState }

abbrev Steps (call : Call Outside) (outside : Outside) :
    Controller Outside → Controller Outside → Prop :=
  Relation.ReflTransGen (Step call outside)

section Steps

variable {call : Call Outside} {outside : Outside}

open Relation.ReflTransGen (refl single)

theorem steps_andThen {α β : Type} {controller : Controller Outside} {outcome : Outcome Outside α}
    {next : α → Controller Outside → Outcome Outside β}
    (hfirst : Steps call outside controller outcome.controller)
    (hnext : ∀ result reached, Steps call outside reached (next result reached).controller) :
    Steps call outside controller (outcome.andThen next).controller := by
  unfold Outcome.andThen
  split
  · exact hfirst
  · exact hfirst.trans (hnext _ _)

theorem steps_commit (controller : Controller Outside) (description : String)
    (changes : Changeset) :
    Steps call outside controller (controller.commit outside description changes).controller := by
  rw [commit]
  dsimp only
  refine steps_andThen ((single (.pushed controller _)).tail (.reported _ changes)) ?_
  intro _ reported
  exact steps_andThen (single (.checked reported)) fun _ _ => refl

theorem steps_settle (controller : Controller Outside) (run : Run (Option String)) :
    Steps call outside controller (controller.settle outside run).controller := by
  rw [settle]
  split
  · split <;> exact single (.overwritten controller _)
  · dsimp only
    split
    · exact single (.overwritten controller _)
    · exact (single (.overwritten controller _)).trans (steps_commit _ _ _)

theorem steps_restoreState (controller : Controller Outside) (state : SavedState) :
    Steps call outside controller (controller.restoreState outside state).controller := by
  rw [restoreState]
  split
  · exact refl
  · exact (single (.overwritten controller _)).tail (.reported _ .everything)

theorem steps_wouldChangeState (controller : Controller Outside) (mutator : Effect Unit) :
    Steps call outside controller (controller.wouldChangeState outside mutator).controller := by
  have hrolledBack (bank : Bank) : Steps call outside controller
      ((controller.withBank bank).restoreState outside controller.current.state).controller :=
    (single (.overwritten controller bank)).trans (steps_restoreState _ _)
  rw [wouldChangeState]
  dsimp only
  split
  · exact single (.overwritten controller _)
  · split <;> exact hrolledBack _

theorem steps_fire (controller : Controller Outside) (id : RuleId) :
    Steps call outside controller (controller.fire outside id).controller := by
  rw [fire]
  split
  · exact refl
  · refine steps_andThen (steps_settle controller _) fun changes settled => ?_
    split
    · exact single (.slept settled id _)
    · exact refl

theorem steps_restore (controller : Controller Outside) {index : Nat}
    (hcall : call = .restore index) :
    Steps call outside controller (controller.restore outside index).controller := by
  rw [restore]
  split
  · refine steps_andThen ((single (.rewound controller hcall)).trans (steps_restoreState _ _)) ?_
    intro _ restored
    exact single (.checked restored)
  · exact refl

theorem steps_resetToStartingState (controller : Controller Outside)
    (hcall : call = .resetToStartingState) :
    Steps call outside controller (controller.resetToStartingState outside).controller := by
  rw [resetToStartingState, reset_model]
  cases (controller.runInit outside).outcome with
  | error error => exact refl
  | ok _ =>
      have hoverwritten : Steps call outside controller
          (controller.withBank (controller.runInit outside).bank) := single (.overwritten ..)
      exact steps_andThen ((hoverwritten.tail (.restarted _ hcall)).tail (.reported _ .everything))
        fun _ _ => refl

theorem steps_perform (call : Call Outside) (controller : Controller Outside) (outside : Outside) :
    Steps call outside controller (call.perform controller outside) := by
  cases call with
  | fire id => exact steps_fire controller id
  | fireByName name =>
      rw [Call.perform, fireByName]
      split
      · exact refl
      · exact steps_fire controller _
  | tryChangeState mutator => exact steps_settle controller _
  | wouldChangeState mutator => exact steps_wouldChangeState controller mutator
  | wouldFire id =>
      rw [Call.perform, wouldFire]
      split
      · exact refl
      · exact steps_wouldChangeState controller _
  | restore index => exact steps_restore controller rfl
  | restoreState state => exact steps_restoreState controller state
  | resetToStartingState => exact steps_resetToStartingState controller rfl
  | checkInvariants => exact single (.checked controller)

/-- What the steps of a call keep, the call keeps. -/
theorem perform_preserves {kept : Controller Outside → Prop} {controller : Controller Outside}
    (hkept : kept controller)
    (hstep : ∀ before after, Step call outside before after → kept before → kept after) :
    kept (call.perform controller outside) := by
  have hsteps := steps_perform call controller outside
  generalize call.perform controller outside = after at hsteps ⊢
  induction hsteps with
  | refl => exact hkept
  | tail _ hlast ih => exact hstep _ _ hlast ih

end Steps

/-! ### What no call changes -/

/-- The controller has what this setup and this model gave it, and its invariants are active. -/
structure IsOf (setup : ControllerSetup Outside) (model : Model Outside)
    (controller : Controller Outside) : Prop where
  config : controller.config = setup.config
  errorHook : controller.errorHook = setup.errorHook
  views : controller.views = setup.views
  init? : controller.model.init? = model.init?
  rules : controller.rulesets.map Ruleset.declaration = model.rules
  invariants : controller.invariants.map Invariant.unread =
    model.invariants.map Invariant.ofDeclaration

section IsOf

variable {setup : ControllerSetup Outside} {model : Model Outside} {controller : Controller Outside}
  {call : Call Outside} {outside : Outside}

theorem controller_checkInvariants (controller : Controller Outside) (outside : Outside) :
    ∃ invariantsHold, (controller.checkInvariants outside).controller =
      { controller with
        invariants := (Invariant.checkAll outside controller.bank controller.invariants).2
        invariantsHold } := by
  unfold checkInvariants
  split
  · rename_i hcheck
    exact ⟨true, by rw [hcheck]⟩
  · rename_i hcheck
    exact ⟨controller.invariantsHold, by rw [hcheck]⟩
  · rename_i hcheck
    exact ⟨false, by rw [hcheck]⟩

theorem IsOf.declaration_mem (hof : controller.IsOf setup model) {ruleset : Ruleset Outside}
    (hmem : ruleset ∈ controller.rulesets) : ruleset.declaration ∈ model.rules :=
  hof.rules ▸ List.mem_map_of_mem hmem

theorem IsOf.sleepRule (hof : controller.IsOf setup model) (id : RuleId) (readset : NameSet) :
    (controller.sleepRule id readset).IsOf setup model := by
  have hrules : (controller.sleepRule id readset).rulesets.map Ruleset.declaration =
      controller.rulesets.map Ruleset.declaration := by
    apply map_modify_of_kept
    exact fun _ => rfl
  exact { hof with rules := hrules.trans hof.rules }

/-- Of invariants that are all active, a report wakes none. -/
theorem IsOf.map_activateIf (hof : controller.IsOf setup model) (changes : Changeset) :
    controller.invariants.map (Invariant.activateIf changes) = controller.invariants := by
  refine (List.map_congr_left fun invariant hmem => ?_).trans (List.map_id _)
  exact Invariant.activateIf_of_active (Invariant.exists_declared hof.invariants hmem).1 changes

theorem IsOf.reportChanges (hof : controller.IsOf setup model) (outside : Outside)
    (changes : Changeset) :
    (controller.reportChanges outside changes).controller.IsOf setup model := by
  have hinvariants : (controller.reportChanges outside changes).controller.invariants =
      controller.invariants := hof.map_activateIf changes
  exact { hof with
    rules := (Ruleset.map_declaration_reportAll ..).trans hof.rules
    invariants := hinvariants ▸ hof.invariants }

theorem IsOf.checkInvariants (hof : controller.IsOf setup model) (outside : Outside) :
    (controller.checkInvariants outside).controller.IsOf setup model := by
  obtain ⟨holds, hchecked⟩ := controller_checkInvariants controller outside
  rw [hchecked]
  exact { hof with invariants := (Invariant.map_unread_checkAll ..).trans hof.invariants }

theorem isOf_of_step {before after : Controller Outside} (hstep : Step call outside before after)
    (hof : before.IsOf setup model) : after.IsOf setup model := by
  cases hstep with
  | overwritten | pushed | rewound | restarted => exact { hof with }
  | slept id readset => exact hof.sleepRule id readset
  | reported changes => exact hof.reportChanges outside changes
  | checked => exact hof.checkInvariants outside

theorem isOf_perform (call : Call Outside) (outside : Outside) (hof : controller.IsOf setup model) :
    (call.perform controller outside).IsOf setup model :=
  perform_preserves hof fun _ _ => isOf_of_step

theorem isOf_of_reaches {permitted : Call Outside → Controller Outside → Outside → Prop}
    {start : Controller Outside} (hstart : start.IsOf setup model)
    (hreached : Reaches permitted start controller) : controller.IsOf setup model := by
  induction hreached with
  | start => exact hstart
  | call _ call outside _ ih => exact isOf_perform call outside ih

@[simp]
theorem map_unread_start (setup : ControllerSetup Outside) (model : Model Outside) :
    (setup.start model).invariants.map Invariant.unread =
      model.invariants.map Invariant.ofDeclaration := by
  rw [ControllerSetup.start, List.map_map]
  rfl

theorem isOf_of_build {built : Controller Outside}
    (hbuild : (setup.build model outside).result = .ok built) : built.IsOf setup model := by
  obtain ⟨checked, rulesets, hchecked, -, hmade, rfl⟩ := exists_of_build hbuild
  have hrules : rulesets.map Ruleset.declaration = model.rules := by
    have hmade := Success.mapM_eq_ok_iff.1 hmade
    rw [← List.forall₂_eq_eq_eq, List.forall₂_map_left_iff]
    exact hmade.flip.imp fun _ _ hruleset => Ruleset.declaration_ofDeclaration hruleset
  have hstart : ({ setup.start model with rulesets } : Controller Outside).IsOf setup model :=
    ⟨rfl, rfl, rfl, rfl, hrules, map_unread_start setup model⟩
  rw [hchecked]
  split
  · obtain ⟨holds, hcontroller⟩ := controller_checkInvariants (setup.start model) outside
    rw [hcontroller]
    exact { hstart with
      invariants := (Invariant.map_unread_checkAll ..).trans hstart.invariants }
  · exact hstart

end IsOf

end Controller

end TransitionEngine
