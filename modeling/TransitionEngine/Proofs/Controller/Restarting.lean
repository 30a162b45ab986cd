import TransitionEngine.Proofs.Controller.Constants
import TransitionEngine.Proofs.Controller.Invariants
import TransitionEngine.Proofs.Rule.Remaking

/-!
# A reset makes a new start

The setting-up code runs on variables that were put to their defaults, and what these are nothing that is
done to a controller can change. So where the setting-up code and the domains depend on the variables
alone, a reset cannot fail: it finds the values that the model was built with again, and makes of them the
rulesets that the controller was built with.
-/

namespace TransitionEngine

variable {Outside : Type}

/-- What the effect does depends on the variables alone. -/
def Effect.IgnoresOutside {α : Type} (effect : Outside → Effect α) : Prop :=
  ∀ outside outside' bank, (effect outside).run bank ∅ = (effect outside').run bank ∅

namespace Controller

/-- The controller has the setting-up code, the rules and the invariants of the model, and its rulesets
are what the rules make, but for sleep. -/
structure IsMadeFrom (model : Model Outside) (controller : Controller Outside) : Prop where
  exists_isOf : ∃ setup, controller.IsOf setup model
  made : ∀ ruleset ∈ controller.rulesets, ruleset.IsMade

section IsMadeFrom

variable {setup : ControllerSetup Outside} {model : Model Outside} {controller : Controller Outside}
  {outside : Outside}

theorem IsMadeFrom.reportChanges (hmade : controller.IsMadeFrom model) (outside : Outside)
    (changes : Changeset) :
    (controller.reportChanges outside changes).controller.IsMadeFrom model := by
  obtain ⟨⟨setup, hof⟩, hmade⟩ := hmade
  exact ⟨⟨setup, hof.reportChanges outside changes⟩,
    Ruleset.isMade_reportAll hmade changes outside controller.bank⟩

theorem isMadeFrom_of_step {call : Call Outside} {before after : Controller Outside}
    (hstep : Step call outside before after) (hmade : before.IsMadeFrom model) :
    after.IsMadeFrom model := by
  obtain ⟨⟨setup, hof⟩, hrulesets⟩ := hmade
  refine ⟨⟨setup, isOf_of_step hstep hof⟩, ?_⟩
  cases hstep with
  | overwritten | pushed | rewound | restarted => exact hrulesets
  | slept id readset =>
      refine Ruleset.isMade_of_map_awake_eq (map_modify_of_kept (fun ruleset => ?_) _ _) hrulesets
      exact ruleset.awake_sleepAt id.rule readset
  | reported changes => exact Ruleset.isMade_reportAll hrulesets changes outside before.bank
  | checked =>
      have hsame : (before.checkInvariants outside).controller.rulesets = before.rulesets :=
        congrArg Core.rulesets (core_checkInvariants before outside)
      rwa [hsame]

theorem isMadeFrom_outcome (hmade : controller.IsMadeFrom model) (operation : Operation Outside)
    (outside : Outside) : (operation.outcome controller outside).controller.IsMadeFrom model := by
  cases operation with
  | call call =>
      rw [Operation.outcome, Call.controller_outcome]
      exact perform_preserves hmade fun _ _ => isMadeFrom_of_step
  | reportChanges changes => exact hmade.reportChanges outside changes
  | setErrorHook errorHook =>
      obtain ⟨⟨setup, hof⟩, hrulesets⟩ := hmade
      exact ⟨⟨{ setup with errorHook }, { hof with errorHook := rfl }⟩, hrulesets⟩
  | addView view =>
      obtain ⟨⟨setup, hof⟩, hrulesets⟩ := hmade
      have hviews : controller.views ++ [view] = setup.views ++ [view] := by rw [hof.views]
      exact ⟨⟨{ setup with views := setup.views ++ [view] }, { hof with views := hviews }⟩, hrulesets⟩

theorem isMadeFrom_of_proceeds {permitted : Operation Outside → Controller Outside → Outside → Prop}
    {start : Controller Outside} {notices : List Notice} (hstart : start.IsMadeFrom model)
    (hproceeds : Proceeds permitted start controller notices) : controller.IsMadeFrom model := by
  induction hproceeds with
  | start => exact hstart
  | perform _ operation outside _ ih => exact isMadeFrom_outcome ih operation outside

theorem mapM_rulesets_of_build {built : Controller Outside}
    (hbuild : (setup.build model outside).result = .ok built) :
    model.rules.mapM (Ruleset.ofDeclaration · outside model.bank) = .ok built.rulesets := by
  obtain ⟨rulesets, hmade, hcore⟩ := core_of_build hbuild
  have hsame : built.rulesets = rulesets := congrArg Core.rulesets hcore
  rw [hmade, hsame]

theorem isMadeFrom_of_build {built : Controller Outside}
    (hbuild : (setup.build model outside).result = .ok built) : built.IsMadeFrom model := by
  refine ⟨⟨setup, isOf_of_build hbuild⟩, fun ruleset hmem => ?_⟩
  obtain ⟨declared, -, hmade⟩ := Success.exists_of_mem_right
    (Success.mapM_eq_ok_iff.1 (mapM_rulesets_of_build hbuild)) hmem
  exact Ruleset.isMade_of_ofDeclaration hmade

/-! ### What a reset does -/

theorem runInit_eq_of_ignoresOutside {left right : Controller Outside}
    (hsame : left.model.init? = right.model.init?)
    (hdeclared : left.bank.declarations = right.bank.declarations)
    (hinit : ∀ {init}, right.model.init? = some init → Effect.IgnoresOutside init)
    (outside outside' : Outside) : left.runInit outside = right.runInit outside' := by
  have hreset : left.bank.reset = right.bank.reset := Bank.reset_congr hdeclared
  unfold runInit
  rw [hsame]
  cases hcode : right.model.init? with
  | none =>
      dsimp only
      rw [hreset]
  | some init =>
      dsimp only
      rw [hreset, hinit hcode outside outside']

theorem IsOf.reportChanges_eq (hof : controller.IsOf setup model) {changes : Changeset}
    {result : Except EngineError Unit} {rulesets : List (Ruleset Outside)}
    (hreport : Ruleset.reportAll changes outside controller.bank controller.rulesets =
      (result, rulesets)) :
    controller.reportChanges outside changes = ⟨result, { controller with rulesets }, []⟩ := by
  rw [Controller.reportChanges, hreport]
  dsimp only
  rw [hof.map_activateIf]

/-- Where the setting-up code and the domains succeed, a reset starts anew with what they give. -/
theorem resetToStartingState_eq {bank : Bank} {rulesets : List (Ruleset Outside)}
    (hof : controller.IsOf setup model) (hsucceeds : (controller.runInit outside).outcome = .ok ())
    (hbank : (controller.runInit outside).bank = bank)
    (hreport : Ruleset.reportAll .everything outside bank controller.rulesets = (.ok (), rulesets)) :
    controller.resetToStartingState outside =
      ⟨.ok (), { controller.withBank bank with rulesets, history := .start "Reset" bank.save },
        .resetHookCalled :: .event .reset :: controller.showing (.start "Reset" bank.save)⟩ := by
  have hrestarted : IsOf setup model
      { controller.withBank bank with history := .start "Reset" bank.save } := { hof with }
  have htold : (Controller.reportChanges
      { controller.withBank bank with history := .start "Reset" bank.save } outside
        .everything).andThen (fun _ controller =>
          (⟨.ok (), controller, .event .reset :: controller.viewNotices⟩ : Outcome Outside Unit)) =
      ⟨.ok (), { controller.withBank bank with rulesets, history := .start "Reset" bank.save },
        .event .reset :: controller.showing (.start "Reset" bank.save)⟩ := by
    rw [hrestarted.reportChanges_eq hreport]
    rfl
  rw [resetToStartingState, reset_model, hsucceeds, hbank]
  exact congrArg (fun outcome : Outcome Outside Unit =>
    { outcome with notices := .resetHookCalled :: outcome.notices }) htold

/-- Whatever was done to the controller, a reset puts back the values of the model that was built and the
rulesets of the controller that was built, all of them awake, and starts the history anew. It touches
nothing else. -/
theorem reset_makes_new_start {declarations : Declarations Outside} {loaded : Outside}
    (hmodel : (declarations.build loaded).result = .ok model)
    (hinit : ∀ {init}, model.init? = some init → Effect.IgnoresOutside init)
    (hdomains : ∀ declared ∈ model.rules, declared.body.DomainIgnoresOutside)
    {built : Controller Outside} (hbuild : (setup.build model outside).result = .ok built)
    {permitted : Operation Outside → Controller Outside → Outside → Prop} {notices : List Notice}
    (hproceeds : Proceeds permitted built controller notices) (again : Outside) :
    controller.resetToStartingState again =
        ⟨.ok (),
          { controller.withBank model.bank with
            rulesets := built.rulesets
            history := .start "Reset" model.bank.save },
          .resetHookCalled :: .event .reset ::
            controller.showing (.start "Reset" model.bank.save)⟩ ∧
      ∀ ruleset ∈ built.rulesets, ∀ rule ∈ ruleset.rules,
        rule.isActive = true ∧ rule.readset = none := by
  have hmakes := mapM_rulesets_of_build hbuild
  constructor
  · obtain ⟨⟨used, hof⟩, hmade⟩ := isMadeFrom_of_proceeds (isMadeFrom_of_build hbuild) hproceeds
    have hdeclared : controller.bank.declarations = model.bank.declarations :=
      (declares_of_proceeds (declares_of_build hbuild) hproceeds).declared
    obtain ⟨hsucceeds, hbank⟩ := runInit_of_build hmodel
    -- Equal declarations have equal defaults, so the code runs on the variables that it was loaded with.
    have hrun : controller.runInit again = (ControllerSetup.standard.start model).runInit loaded :=
      runInit_eq_of_ignoresOutside hof.init? hdeclared hinit again loaded
    rw [← hrun] at hsucceeds hbank
    refine resetToStartingState_eq hof hsucceeds hbank (Ruleset.reportAll_everything hmade ?_)
    rw [hof.rules, ← hmakes]
    refine Success.mapM_congr_of_forall₂ (List.forall₂_same.2 fun declared hmem => ?_)
    exact Ruleset.ofDeclaration_congr (hdomains declared hmem) again outside model.bank
  · intro ruleset hmem rule hrule
    obtain ⟨declared, -, hmade⟩ := Success.exists_of_mem_right (Success.mapM_eq_ok_iff.1 hmakes) hmem
    exact Ruleset.awake_of_mem_ofDeclaration hmade hrule

end IsMadeFrom

/-- The sheets that are left, one after the other. -/
def sheetsLeft : Query (List Value) :=
  .read "sheets" fun held => .done <|
    .ok (List.replicate ((held.toOption.bind Value.asNumber?).getD 0).toNatClampNeg (.number 0))

/-- A press that starts with as many sheets as its tray holds. How many are left after a print is up to
the outside. -/
def press : Declarations Int64 where
  entries := [⟨"tray", .number, some (.number 2)⟩, ⟨"sheets", .range 0 9, none⟩]
  rules := [⟨"print", .single fun left => Effect.overwrite "sheets" (.number left)⟩,
    ⟨"fold", .family (fun _ => sheetsLeft) fun _ _ => .done (.ok ())⟩]
  invariants := []
  init? := some fun _ => .read "tray" fun held =>
    Effect.overwrite "sheets" ((held.toOption).getD (.number 0))

/-- Puts something in the place of the number of sheets that is no number. -/
def spoilSheets : Effect (Option String) :=
  .update "sheets" (fun _ => .record []) fun _ => .done (.ok none)

/-- A sheet is folded, some are printed, their number is spoiled, and then it is set to another. -/
def pressed (built : Controller Int64) : Controller Int64 :=
  let folded := (Operation.call (.fire ⟨1, 0⟩)).outcome built 0
  let printed := (Operation.call (.fire ⟨0, 0⟩)).outcome folded.controller 0
  let spoiled := (Operation.call (.tryChangeState spoilSheets)).outcome printed.controller 0
  let set := Operation.call (.restoreState (.ofEntries [("sheets", .ofInt64 3)]))
  (set.outcome spoiled.controller 0).controller

/-- Sheets were printed and spoiled, and others put in their place. The reset brings the first ones back,
whatever the outside. -/
theorem reset_makes_new_start_press :
    ∃ model, (press.build 0).result = .ok model ∧
      ∃ built, (ControllerSetup.standard.build model 0).result = .ok built ∧
        (pressed built).history.length = 3 ∧
        (pressed built).rulesets.map (·.rules.map (·.name)) =
          [["print"], ["fold(0)", "fold(1)", "fold(2)"]] ∧
        let restarted := (pressed built).resetToStartingState 5
        restarted.result = .ok () ∧ restarted.controller.bank = model.bank ∧
          restarted.controller.rulesets.map (·.rules.map (·.name)) =
            [["print"], ["fold(0)", "fold(1)"]] ∧
          restarted.controller.history.entries.map Snapshot.message = ["Reset"] ∧
          restarted.notices = [.resetHookCalled, .event .reset] := by
  obtain ⟨model, hmodel⟩ : ∃ model, (press.build 0).result = .ok model := ⟨_, rfl⟩
  obtain ⟨built, hbuild⟩ :
      ∃ built, (ControllerSetup.standard.build model 0).result = .ok built := by
    cases hmodel
    exact ⟨_, rfl⟩
  have hinit {init : Int64 → Effect Unit} (hinit : model.init? = some init) :
      Effect.IgnoresOutside init := by
    cases hmodel
    cases hinit
    exact fun _ _ _ => rfl
  have hdomains : ∀ declared ∈ model.rules, declared.body.DomainIgnoresOutside := by
    intro declared hmem
    cases hmodel
    rcases List.mem_pair.1 hmem with rfl | rfl
    · trivial
    · exact fun _ _ _ => rfl
  have hproceeds : Proceeds (fun _ _ _ => True) built (pressed built) _ :=
    (((Proceeds.start.perform (.call (.fire ⟨1, 0⟩)) 0 trivial).perform
      (.call (.fire ⟨0, 0⟩)) 0 trivial).perform (.call (.tryChangeState spoilSheets)) 0
        trivial).perform (.call (.restoreState (.ofEntries [("sheets", .ofInt64 3)]))) 0 trivial
  obtain ⟨hreset, -⟩ := reset_makes_new_start hmodel hinit hdomains hbuild hproceeds 5
  refine ⟨model, hmodel, built, hbuild, ?_, ?_, ?_⟩
  · cases hmodel
    cases hbuild
    rfl
  · cases hmodel
    cases hbuild
    decide
  · have hviews : (pressed built).views = [] := by
      cases hmodel
      cases hbuild
      rfl
    have hnames : built.rulesets.map (·.rules.map (·.name)) = [["print"], ["fold(0)", "fold(1)"]] := by
      cases hmodel
      cases hbuild
      decide
    generalize pressed built = reached at hreset hviews ⊢
    dsimp only
    rw [hreset]
    refine ⟨rfl, rfl, hnames, rfl, ?_⟩
    rw [showing, hviews]
    rfl

end Controller

end TransitionEngine
