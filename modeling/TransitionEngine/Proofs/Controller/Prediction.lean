import TransitionEngine.Proofs.Controller.Growth
import TransitionEngine.Proofs.Controller.Refusal
import TransitionEngine.Proofs.Controller.Undo

/-!
# A probe predicts the firing

A probe and a firing are two ways through the controller, one of which takes back what the effect did
and one of which commits it. Both come from the same forecast, the outcome of the effect on the live
variables. The forecast depends on their values alone, so that neither another outside nor a probe
before the firing makes a difference.
-/

namespace TransitionEngine

variable {Outside : Type}

/-- What the effect of a rule comes to. -/
inductive Forecast where
  | fails (error : EngineError)
  | keeps
  /-- The rule of this name would leave this state. -/
  | changes (name : String) (state : SavedState)

namespace Forecast

/-- What a probe says of it. -/
def reply (current : SavedState) : Forecast → Except EngineError (Option Changeset)
  | .fails error => .error error
  | .keeps => .ok none
  | .changes _ state => .ok (some (.between current state))

/-- The history behind a firing. -/
def history (before : History) : Forecast → History
  | .fails _ | .keeps => before
  | .changes name state =>
      before.push (name ++ " (changed " ++
        (Changeset.between before.current.state state).display ++ ")") state

/-- The results that a firing may have, where these errors may come after the commit. -/
inductive Allows (current : SavedState) (late : EngineError → Prop) :
    Forecast → Except EngineError Changeset → Prop
  | fails (error : EngineError) : Allows current late (.fails error) (.error error)
  | keeps : Allows current late .keeps (.ok .none)
  | changes (name : String) (state : SavedState) :
      Allows current late (.changes name state) (.ok (.between current state))
  | refused {name : String} {state : SavedState} {error : EngineError} (hlate : late error) :
      Allows current late (.changes name state) (.error error)

end Forecast

theorem History.push_ne (history : History) (message : String) (state : SavedState) :
    history.push message state ≠ history := by
  intro hsame
  have hlength := congrArg (fun history => history.entries.length) hsame
  simp at hlength

namespace Controller

def forecast (controller : Controller Outside) (outside : Outside) (id : RuleId) : Forecast :=
  match controller.rule? id with
  | none => .fails (.unknownRule id.display)
  | some rule =>
      let run := (rule.effect outside).run controller.bank ∅
      match run.outcome with
      | .error error => .fails error
      | .ok () =>
          if (Changeset.between controller.current.state run.bank.save).isEmpty then .keeps
          else .changes rule.name run.bank.save

/-- What was said of the rule tells the result of a firing and whether it commits, and with which
message and which changes. Behind a commit, only these errors are possible. -/
structure Foretells (controller : Controller Outside) (id : RuleId)
    (said : Except EngineError (Option Changeset)) (fired : Outcome Outside Changeset)
    (late : EngineError → Prop) : Prop where
  nothing : said = .ok none ↔
    fired.result = .ok .none ∧ fired.controller.history = controller.history
  change {changes : Changeset} : said = .ok (some changes) ↔
    ∃ rule state, controller.rule? id = some rule ∧
      changes = .between controller.current.state state ∧
      fired.controller.history =
        controller.history.push (rule.name ++ " (changed " ++ changes.display ++ ")") state
  result {changes : Changeset} (hsaid : said = .ok (some changes)) :
    fired.result = .ok changes ∨ ∃ error, fired.result = .error error ∧ late error
  error {error : EngineError} : said = .error error ↔
    fired.result = .error error ∧ fired.controller.history = controller.history

/-- The same entries in the history, the same state, and the same instances under the same ids. -/
structure LooksLike (left right : Controller Outside) : Prop where
  history : left.history = right.history
  saveState : left.saveState = right.saveState
  instanceNames : left.instanceNames = right.instanceNames

variable {controller : Controller Outside} {outside : Outside} {id : RuleId}

theorem LooksLike.symm {left right : Controller Outside} (hsame : left.LooksLike right) :
    right.LooksLike left :=
  ⟨hsame.history.symm, hsame.saveState.symm, hsame.instanceNames.symm⟩

/-! ### The forecast of a firing -/

theorem forecast_of_none (hrule : controller.rule? id = none) :
    controller.forecast outside id = .fails (.unknownRule id.display) := by
  rw [forecast, hrule]

section Forecast

variable {rule : Rule Outside} {run : Run Unit} (hrule : controller.rule? id = some rule)
  (hrun : (rule.effect outside).run controller.bank ∅ = run)

include hrule hrun

theorem forecast_of_failed {error : EngineError} (hfailed : run.outcome = .error error) :
    controller.forecast outside id = .fails error := by
  rw [forecast, hrule]
  dsimp only
  rw [hrun, hfailed]

theorem forecast_of_unchanged (hsucceeded : run.outcome = .ok ())
    (hsame : (Changeset.between controller.current.state run.bank.save).isEmpty = true) :
    controller.forecast outside id = .keeps := by
  rw [forecast, hrule]
  dsimp only
  rw [hrun, hsucceeded]
  exact if_pos hsame

theorem forecast_of_changed (hsucceeded : run.outcome = .ok ())
    (hchanged : (Changeset.between controller.current.state run.bank.save).isEmpty = false) :
    controller.forecast outside id = .changes rule.name run.bank.save := by
  rw [forecast, hrule]
  dsimp only
  rw [hrun, hsucceeded]
  exact if_neg (by simpa using hchanged)

end Forecast

theorem exists_rule_of_forecast {name : String} {state : SavedState}
    (hforecast : controller.forecast outside id = .changes name state) :
    ∃ rule, controller.rule? id = some rule ∧ rule.name = name := by
  unfold forecast at hforecast
  split at hforecast
  · cases hforecast
  · rename_i rule hrule
    dsimp only at hforecast
    split at hforecast
    · cases hforecast
    · split at hforecast <;> cases hforecast
      exact ⟨rule, hrule, rfl⟩

theorem settle_of_failed {run : Run (Option String)} {error : EngineError}
    (hfailed : run.outcome = .error error) (controller : Controller Outside) (outside : Outside) :
    (controller.settle outside run).result = .error error ∧
      (controller.settle outside run).controller.history = controller.history := by
  rw [settle, hfailed]
  dsimp only
  split <;> exact ⟨rfl, rfl⟩

/-- Where the domains succeed, a commit fails only where the check of the invariants does. -/
theorem failsOnly_commit (hdomains : ∀ ruleset ∈ controller.rulesets,
      ruleset.body.DomainSucceeds (· = controller.bank)) (description : String)
    (changes : Changeset) :
    (controller.commit outside description changes).FailsOnly
      (controller.CheckFails outside controller.bank) := by
  intro error herror
  change (Outcome.andThen (Controller.reportChanges _ outside changes) _).result = _ at herror
  rw [andThen_reportChanges] at herror
  · refine Outcome.FailsOnly.andThen (fun error herror => ?_) (fun _ error herror => ?_) error herror
    · rcases checkFails_of_checkInvariants herror with ⟨invariant, hmem, hfails⟩ | hhook
      · obtain ⟨old, hold, rfl⟩ := List.mem_map.1 hmem
        rw [Invariant.check_activateIf] at hfails
        exact .inl ⟨old, hold, hfails⟩
      · exact .inr hhook
    · cases herror
  · exact hdomains

/-- A firing does what is forecast, and where the domains succeed behind the effect, it says so. -/
theorem fire_of_forecast (controller : Controller Outside) (outside : Outside) (id : RuleId) :
    (controller.fire outside id).controller.history =
        (controller.forecast outside id).history controller.history ∧
      ((∀ run, controller.runRule? outside id = some run →
          ∀ ruleset ∈ controller.rulesets, ruleset.body.DomainSucceeds (· = run.bank)) →
        (controller.forecast outside id).Allows controller.current.state
          (controller.CheckFails outside (controller.fire outside id).controller.bank)
          (controller.fire outside id).result) := by
  cases hrule : controller.rule? id with
  | none =>
      rw [forecast_of_none hrule, fire, rule, hrule]
      exact ⟨rfl, fun _ => .fails _⟩
  | some rule =>
      generalize hrun : (rule.effect outside).run controller.bank ∅ = run
      cases houtcome : run.outcome with
      | error error =>
          have hdescribed := Run.outcome_describedAs_of_failed houtcome rule.name
          obtain ⟨hresult, hhistory⟩ := settle_of_failed hdescribed controller outside
          rw [forecast_of_failed hrule hrun houtcome, fire_of_failed hrule hrun houtcome, hresult]
          exact ⟨hhistory, fun _ => .fails error⟩
      | ok _ =>
          cases hsame : (Changeset.between controller.current.state run.bank.save).isEmpty with
          | true =>
              rw [forecast_of_unchanged hrule hrun houtcome hsame,
                fire_of_unchanged hrule hrun houtcome hsame, Changeset.eq_none_of_isEmpty hsame]
              exact ⟨rfl, fun _ => .keeps⟩
          | false =>
              rw [forecast_of_changed hrule hrun houtcome hsame,
                fire_of_changed hrule hrun houtcome hsame]
              refine ⟨history_commit .., fun hdomains => ?_⟩
              have hsucceed := hdomains run (by rw [runRule?, hrule, Option.map_some, hrun])
              rw [bank_commit]
              cases hresult : ((controller.withBank run.bank).commit outside rule.name
                  (.between controller.current.state run.bank.save)).result with
              | ok changes =>
                  rw [changes_of_commit hresult]
                  exact .changes rule.name run.bank.save
              | error error => exact .refused (failsOnly_commit hsucceed _ _ error hresult)

/-- A probe says what is forecast, as long as what it did can be taken back. -/
theorem result_wouldFire {recovered : Bank → Prop} (hrecovers : controller.Recovers recovered)
    (hdomains : ∀ bank, recovered bank →
      ∀ ruleset ∈ controller.rulesets, ruleset.body.DomainSucceeds (· = bank)) :
    (controller.wouldFire outside id).result =
      (controller.forecast outside id).reply controller.current.state := by
  cases hrule : controller.rule? id with
  | none =>
      rw [forecast_of_none hrule, wouldFire, rule, hrule]
      rfl
  | some rule =>
      generalize hrun : (rule.effect outside).run controller.bank ∅ = run
      have hprobe : controller.wouldFire outside id =
          controller.wouldChangeState outside (rule.effect outside) := by
        rw [wouldFire, Controller.rule, hrule]
      rw [hprobe]
      cases hsame : (Changeset.between controller.current.state run.bank.save).isEmpty with
      | true =>
          rw [wouldChangeState_of_unchanged hrun hsame]
          cases houtcome : run.outcome with
          | error error =>
              rw [forecast_of_failed hrule hrun houtcome]
              rfl
          | ok _ =>
              rw [forecast_of_unchanged hrule hrun houtcome hsame]
              rfl
      | false =>
          have hdeclared : run.bank.declarations = controller.bank.declarations := by
            rw [← hrun]
            exact Effect.declarations_run ..
          obtain ⟨bank, hrestore, hrecovered⟩ := hrecovers run.bank hdeclared
          obtain ⟨notices, -, hanswer⟩ :=
            wouldChangeState_of_changed hrun hsame hrestore outside
          have hreported :
              ((controller.withBank bank).reportChanges outside .everything).result = .ok () :=
            result_reportChanges (hdomains bank hrecovered) outside .everything
          rw [hanswer, hreported]
          cases houtcome : run.outcome with
          | error error =>
              rw [forecast_of_failed hrule hrun houtcome]
              rfl
          | ok _ =>
              rw [forecast_of_changed hrule hrun houtcome hsame]
              rfl

/-- Whoever says what is forecast foretells a firing that does it. -/
theorem foretells_of_forecast {said : Except EngineError (Option Changeset)}
    {fired : Outcome Outside Changeset} {late : EngineError → Prop}
    (hsaid : said = (controller.forecast outside id).reply controller.current.state)
    (hhistory : fired.controller.history =
      (controller.forecast outside id).history controller.history)
    (hallows : (controller.forecast outside id).Allows controller.current.state late
      fired.result) : controller.Foretells id said fired late := by
  obtain ⟨result, reached, notices⟩ := fired
  subst hsaid
  dsimp only at hhistory hallows
  -- The history tells a commit from all else: pushing an entry never leaves it as it was.
  have hpushed {message : String} {state : SavedState} (hkept : reached.history = controller.history)
      (hpush : reached.history = controller.history.push message state) : False :=
    controller.history.push_ne message state (hpush.symm.trans hkept)
  cases hforecast : controller.forecast outside id with
  | fails error =>
      rw [hforecast] at hhistory hallows
      cases hallows
      exact {
        nothing := iff_of_false nofun nofun
        change := iff_of_false nofun fun ⟨_, _, _, _, hpush⟩ => hpushed hhistory hpush
        result := nofun
        error := by simp [Forecast.reply, hhistory, Forecast.history] }
  | keeps =>
      rw [hforecast] at hhistory hallows
      cases hallows
      exact {
        nothing := iff_of_true rfl ⟨rfl, hhistory⟩
        change := iff_of_false nofun fun ⟨_, _, _, _, hpush⟩ => hpushed hhistory hpush
        result := nofun
        error := iff_of_false nofun nofun }
  | changes name state =>
      obtain ⟨rule, hrule, rfl⟩ := exists_rule_of_forecast hforecast
      rw [hforecast] at hhistory hallows
      refine ⟨iff_of_false nofun fun ⟨_, hkept⟩ => hpushed hkept hhistory, ?_, ?_,
        iff_of_false nofun fun ⟨_, hkept⟩ => hpushed hkept hhistory⟩
      · intro changes
        constructor
        · intro hsaid
          obtain rfl := Option.some.inj (Except.ok.inj hsaid)
          exact ⟨rule, state, hrule, rfl, hhistory⟩
        · rintro ⟨_, other, -, rfl, hpush⟩
          have hstate : state = other :=
            congrArg (fun history => history.current.state) (hhistory.symm.trans hpush)
          rw [← hstate]
          rfl
      · intro changes hsaid
        obtain rfl := Option.some.inj (Except.ok.inj hsaid)
        cases hallows with
        | changes => exact .inl rfl
        | refused hlate => exact .inr ⟨_, rfl, hlate⟩

/-! ### Forecasts on alike controllers -/

section Alike

variable {setup : ControllerSetup Outside} {model : Model Outside} {left right : Controller Outside}

theorem Alike.looksLike (halike : left.Alike setup model right) : left.LooksLike right :=
  ⟨halike.history, halike.agree.save_eq, halike.instanceNames_eq⟩

variable (halike : left.Alike setup model right)
  (hdeterministic : ∀ {declared}, declared ∈ model.rules → declared.body.IsDeterministic)
  (hrules : left.core.HasRulesOf model.rules)

include halike hdeterministic hrules

theorem Alike.forecast_eq (outside outside' : Outside) (id : RuleId) :
    left.forecast outside id = right.forecast outside' id := by
  rcases halike.rule?_cases hdeterministic hrules id with
    ⟨hleft, hright⟩ | ⟨first, second, hleft, hright, hname, heffect, hrepeat⟩
  · rw [forecast_of_none hleft, forecast_of_none hright]
  · obtain ⟨houtcome, hbanks⟩ := hrepeat outside outside' left.bank right.bank halike.agree
    rw [forecast, forecast, hleft, hright]
    dsimp only
    rw [heffect, houtcome, hbanks.save_eq, hname, halike.current_eq]

/-- A firing leaves alike controllers alike, as the checks and the hook have no say in what is
left. -/
theorem Alike.fired (outside outside' : Outside) (id : RuleId) :
    (left.fire outside id).controller.Alike setup model (right.fire outside' id).controller := by
  have hleftOf : (left.fire outside id).controller.IsOf setup model :=
    isOf_perform (.fire id) outside halike.isOf_left
  have hrightOf : (right.fire outside' id).controller.IsOf setup model :=
    isOf_perform (.fire id) outside' halike.isOf_right
  have hrepeats : ∀ declared ∈ model.rules, declared.body.DomainRepeats :=
    fun _ hmem => (hdeterministic hmem).repeats
  rcases halike.rule?_cases hdeterministic hrules id with
    ⟨hleft, hright⟩ | ⟨first, second, hleft, hright, hname, heffect, hrepeat⟩
  · rw [Controller.fire, Controller.fire, rule, rule, hleft, hright]
    exact halike
  · generalize hrun : (first.effect outside).run left.bank ∅ = run
    generalize hrun' : (second.effect outside').run right.bank ∅ = run'
    have hruns := hrepeat outside outside' left.bank right.bank halike.agree
    rw [← heffect, hrun, heffect, hrun'] at hruns
    obtain ⟨houtcome, hbanks⟩ := hruns
    have hchanged := halike.withBank hbanks
    cases hresult : run'.outcome with
    | error error =>
        have hdescribed := Run.outcome_describedAs_of_failed (houtcome.trans hresult) first.name
        have hdescribed' := Run.outcome_describedAs_of_failed hresult second.name
        rw [fire_of_failed hleft hrun (houtcome.trans hresult),
          fire_of_failed hright hrun' hresult]
        exact (halike.settle_of_failed hdescribed hdescribed' hbanks outside outside').controller
    | ok _ =>
        have hsame : (Changeset.between left.current.state run.bank.save) =
            Changeset.between right.current.state run'.bank.save := by
          rw [halike.current_eq, hbanks.save_eq]
        cases hempty : (Changeset.between right.current.state run'.bank.save).isEmpty with
        | true =>
            rw [fire_of_unchanged hleft hrun (houtcome.trans hresult) (hsame ▸ hempty),
              fire_of_unchanged hright hrun' hresult hempty]
            exact hchanged.sleepRule id run.readset run'.readset
        | false =>
            rw [fire_of_changed hleft hrun (houtcome.trans hresult) (hsame ▸ hempty)] at hleftOf ⊢
            rw [fire_of_changed hright hrun' hresult hempty] at hrightOf ⊢
            rw [hname, hsame] at hleftOf ⊢
            exact hchanged.controller_commit hrepeats outside outside' hleftOf hrightOf

/-- Where the domains succeed behind the effect of a rule, they also do when it runs on equal
values. -/
theorem Alike.domainSucceeds_run {outside : Outside} {id : RuleId}
    (hdomains : ∀ run, left.runRule? outside id = some run →
      ∀ declared ∈ model.rules, declared.body.DomainSucceeds (· = run.bank)) (outside' : Outside) :
    ∀ run, right.runRule? outside' id = some run →
      ∀ ruleset ∈ right.rulesets, ruleset.body.DomainSucceeds (· = run.bank) := by
  intro run hrun ruleset hmem
  obtain ⟨rule, hrule, rfl⟩ := Option.map_eq_some_iff.1 hrun
  have hdeclared := halike.isOf_right.declaration_mem hmem
  rcases halike.rule?_cases hdeterministic hrules id with
    ⟨-, hright⟩ | ⟨first, second, hleft, hright, -, heffect, hrepeat⟩
  · rw [hrule] at hright
    cases hright
  · obtain rfl := Option.some.inj (hrule.symm.trans hright)
    obtain ⟨-, hbanks⟩ := hrepeat outside outside' left.bank right.bank halike.agree
    have hfirst := hdomains _ (by rw [runRule?, hleft, Option.map_some]) _ hdeclared
    rw [heffect] at hfirst
    exact hfirst.of_agree (hdeterministic hdeclared).repeats hbanks

end Alike

section Current

variable {setup : ControllerSetup Outside} {model : Model Outside}
  (hdeterministic : ∀ {declared}, declared ∈ model.rules → declared.body.IsDeterministic)
  (hdomains : ∀ declared ∈ model.rules,
    declared.body.DomainSucceeds (Bank.Fits model.bank.declarations))
  (hcurrent : controller.core.IsCurrent model.bank.declarations model.rules)

include hdeterministic hdomains hcurrent

theorem result_wouldFire_of_isCurrent (hof : controller.IsOf setup model)
    (hdistinct : model.bank.HasDistinctFields) :
    (controller.wouldFire outside id).result =
      (controller.forecast outside id).reply controller.current.state := by
  have hkept : controller.bank.declarations = model.bank.declarations :=
    hcurrent.consistent.declared
  have hdistinct' : controller.bank.HasDistinctFields := by
    rw [Bank.HasDistinctFields, hkept]
    exact hdistinct
  apply result_wouldFire (recovers_agreeing hdistinct' hcurrent.conforms hcurrent.consistent.live)
  intro bank hagree ruleset hmem
  have hdeclared := hof.declaration_mem hmem
  have hsucceeds : ruleset.body.DomainSucceeds (· = controller.bank) :=
    (hdomains _ hdeclared).mono fun _ hbank => hbank ▸ ⟨hkept, hcurrent.conforms⟩
  exact hsucceeds.of_agree (hdeterministic hdeclared).repeats hagree.symm

variable (hkeeps : (Call.wouldFire id).KeepsConforming controller outside)

include hkeeps

/-- A probe makes nothing but the same controller again. -/
theorem alike_wouldFire (hof : controller.IsOf setup model)
    (hdistinct : model.bank.HasDistinctFields) :
    controller.Alike setup model (controller.wouldFire outside id).controller := by
  have hrepeats : ∀ declared ∈ model.rules, declared.body.DomainRepeats :=
    fun _ hmem => (hdeterministic hmem).repeats
  have hprobed : (controller.wouldFire outside id).controller.core.IsCurrent
      model.bank.declarations model.rules :=
    isCurrent_of_reaches hdistinct (fun _ hmem => ⟨hrepeats _ hmem, hdomains _ hmem⟩) hcurrent
      (Reaches.start.call (.wouldFire id) outside hkeeps)
  exact alike_of_history_eq hrepeats hof (isOf_perform (.wouldFire id) outside hof) hcurrent hprobed
    (history_wouldFire controller outside id).symm outside

/-- What is forecast is what the firing does on every alike controller. -/
theorem foretells_of_alike (hrules : controller.core.HasRulesOf model.rules)
    {said : Except EngineError (Option Changeset)}
    (hsaid : said = (controller.forecast outside id).reply controller.current.state)
    {reached : Controller Outside} (halike : controller.Alike setup model reached)
    (later : Outside) :
    controller.Foretells id said (reached.fire later id)
      (reached.CheckFails later (reached.fire later id).controller.bank) := by
  have hran : ∀ run, controller.runRule? outside id = some run →
      ∀ declared ∈ model.rules, declared.body.DomainSucceeds (· = run.bank) := by
    intro run hrun declared hmem
    have hattempt : (Call.wouldFire id).attempt? controller outside = some run := hrun
    have hfits : run.bank.Fits model.bank.declarations :=
      ⟨(declarations_of_attempt? hattempt).trans hcurrent.consistent.declared,
        hkeeps.conforms hattempt (.inr rfl)⟩
    exact (hdomains declared hmem).mono fun _ hbank => hbank ▸ hfits
  obtain ⟨hdone, hallows⟩ := fire_of_forecast reached later id
  have hallowed := hallows (halike.domainSucceeds_run hdeterministic hrules hran later)
  rw [← halike.forecast_eq hdeterministic hrules outside, ← halike.current_eq] at hallowed
  rw [← halike.forecast_eq hdeterministic hrules outside, ← halike.history] at hdone
  exact foretells_of_forecast hsaid hdone hallowed

end Current

/-- What a probe of a rule says is what firing it does, whether it is fired instead of the probe or
after it. The probe itself leaves no trace in the history, the state and the instances, nor does it
behind the firing of any rule. -/
theorem probe_predicts_firing {setup : ControllerSetup Outside} {model : Model Outside}
    (hdistinct : model.bank.HasDistinctFields) (hconforms : model.bank.Conforms)
    (hdeterministic : ∀ {declared}, declared ∈ model.rules → declared.body.IsDeterministic)
    (hdomains : ∀ declared ∈ model.rules,
      declared.body.DomainSucceeds (Bank.Fits model.bank.declarations))
    {start : Outside} {built controller : Controller Outside}
    (hbuild : (setup.build model start).result = .ok built)
    (hreached : Reaches Call.KeepsConforming built controller) {id : RuleId} {outside : Outside}
    (hkeeps : (Call.wouldFire id).KeepsConforming controller outside) (later : Outside) :
    let probe := controller.wouldFire outside id
    let fired := controller.fire later id
    let firedAfter := probe.controller.fire later id
    controller.Foretells id probe.result fired
        (controller.CheckFails later fired.controller.bank) ∧
      controller.Foretells id probe.result firedAfter
        (probe.controller.CheckFails later firedAfter.controller.bank) ∧
      probe.controller.LooksLike controller ∧
      ∀ other outside outside',
        (probe.controller.fire outside' other).controller.LooksLike
          (controller.fire outside other).controller := by
  intro probe fired firedAfter
  have hcurrent : controller.core.IsCurrent model.bank.declarations model.rules := by
    have hreproducible : ∀ declared ∈ model.rules,
        declared.body.IsReproducible model.bank.declarations := fun declared hmem =>
      ⟨(hdeterministic hmem).repeats, hdomains declared hmem⟩
    exact isCurrent_of_reaches hdistinct hreproducible
      (isCurrent_of_build hconforms hreproducible hbuild) hreached
  have hof : controller.IsOf setup model := isOf_of_reaches (isOf_of_build hbuild) hreached
  have hrules : controller.core.HasRulesOf model.rules :=
    hasRulesOf_of_reaches (hasRulesOf_of_build hbuild).1 hreached
  have halike : controller.Alike setup model probe.controller :=
    alike_wouldFire hdeterministic hdomains hcurrent hkeeps hof hdistinct
  have hsaid : probe.result = (controller.forecast outside id).reply controller.current.state :=
    result_wouldFire_of_isCurrent hdeterministic hdomains hcurrent hof hdistinct
  have hforetells {reached : Controller Outside}
      (halike : controller.Alike setup model reached) :=
    foretells_of_alike hdeterministic hdomains hcurrent hkeeps hrules hsaid halike later
  refine ⟨hforetells ⟨hof, hof, .refl _, rfl, rfl⟩, hforetells halike, halike.looksLike.symm,
    fun other outside outside' => ?_⟩
  exact (halike.fired hdeterministic hrules outside outside' other).looksLike.symm

/-- Two have arrived. A probe says that serving the second changes how many wait, and when he is
served after it, this is what changes; nobody more arrives. -/
theorem probe_predicts_firing_queue :
    ∃ built, (ControllerSetup.standard.build queue ()).result = .ok built ∧
      let arrived := (Call.fire ⟨0, 0⟩).perform built ()
      let probe := arrived.wouldFire () ⟨1, 1⟩
      let served := probe.controller.fire () ⟨1, 1⟩
      probe.result = .ok (some (.vars (.ofList ["waiting"]))) ∧
        (∃ state, served.controller.history =
          arrived.history.push "serve(1) (changed waiting)" state) ∧
        (probe.controller.fire () ⟨0, 0⟩).controller.history = arrived.history := by
  obtain ⟨built, hbuild⟩ : ∃ built, (ControllerSetup.standard.build queue ()).result = .ok built :=
    ⟨_, rfl⟩
  have harrived := Reaches.start.call _ () (keepsConforming_arrive hbuild)
  have hprobe : (Call.wouldFire ⟨1, 1⟩).KeepsConforming
      ((Call.fire ⟨0, 0⟩).perform built ()) () := by
    refine ⟨(by simp), fun {run} hattempt _ => (keepsConforming_serve hbuild).conforms hattempt ?_⟩
    cases hbuild
    rw [← Option.some.inj hattempt]
    exact .inl rfl
  obtain ⟨-, hforetells, -, hothers⟩ :=
    probe_predicts_firing (Bank.hasDistinctFields_of_range rfl)
      (Bank.conforms_of_range (by decide) (by decide) rfl) isDeterministic_queue.rules
      (fun _ hmem => (isReproducible_queue hmem).succeeds) hbuild harrived hprobe ()
  have hsaid : (((Call.fire ⟨0, 0⟩).perform built ()).wouldFire () ⟨1, 1⟩).result =
      .ok (some (.vars (.ofList ["waiting"]))) := by
    cases hbuild
    rfl
  obtain ⟨rule, state, hrule, -, hserved⟩ := hforetells.change.1 hsaid
  have hname : rule.name = "serve(1)" := by
    cases hbuild
    rw [← Option.some.inj hrule]
    rfl
  rw [hname] at hserved
  refine ⟨built, hbuild, hsaid, ⟨state, hserved⟩, (hothers ⟨0, 0⟩ () ()).history.trans ?_⟩
  cases hbuild
  rfl

end Controller

end TransitionEngine
