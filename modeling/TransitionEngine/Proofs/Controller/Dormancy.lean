import TransitionEngine.Proofs.Controller.Consistency
import TransitionEngine.Proofs.Controller.Rules
import TransitionEngine.Proofs.Program.Overwriting

/-!
# Sleeping rules

A rule that sleeps may be passed over: as long as it sleeps, the variables that it sleeps on are saved as
they were when it went to sleep, and firing it would change nothing. For its effect depends on those
variables alone, and whatever changes one of them wakes it.
-/

namespace TransitionEngine

variable {Outside : Type} {declarations : List VariableDeclaration}
  {rules : List (RuleDeclaration Outside)}

/-- The effects of the instances are repeatable and write only what they read, and the domain, if there
is one, can be evaluated. -/
structure RuleBody.IsTracked (valid : Bank → Prop) (body : RuleBody Outside) : Prop where
  repeatable {effect : Outside → Effect Unit} (heffect : body.HasEffect effect) :
    Effect.Repeatable effect
  writesOnlyRead {effect : Outside → Effect Unit} (heffect : body.HasEffect effect) :
    Effect.WritesOnlyRead valid effect
  domainSucceeds : body.DomainSucceeds valid

theorem RuleBody.isTracked_overwrite (valid : Bank → Prop) (name : String) (value : Value) :
    IsTracked valid (.single fun _ : Outside => Effect.overwrite name value) := by
  refine ⟨?_, ?_, trivial⟩
  · rintro _ rfl
    exact Effect.repeatable_overwrite name value
  · rintro _ rfl
    exact Effect.writesOnlyRead_overwrite valid name value

/-- When the code of the call succeeds, every value conforms, and after a probe even when it fails; and
no state comes from outside. -/
structure Call.KeepsConforming (call : Call Outside) (controller : Controller Outside)
    (outside : Outside) : Prop where
  internal (state : SavedState) : call ≠ .restoreState state
  conforms {run : Run Unit} (hattempt : call.attempt? controller outside = some run)
    (hkept : run.outcome = .ok () ∨ call.isProbe = true) : run.bank.Conforms

theorem Call.KeepsConforming.succeedsConforming {call : Call Outside}
    {controller : Controller Outside} {outside : Outside}
    (hkeeps : call.KeepsConforming controller outside) :
    call.SucceedsConforming controller outside :=
  ⟨hkeeps.internal, fun _ hattempt hsucceeded => hkeeps.conforms hattempt (.inl hsucceeded)⟩

/-- The variables are saved as the current entry says, and every instance that sleeps would change
nothing. -/
structure Core.IsSettled (valid : Bank → Prop) (rules : List (RuleDeclaration Outside))
    (core : Core Outside) : Prop where
  admissible : valid core.bank
  live : core.bank.save = core.history.current.state
  hasRules : core.HasRulesOf rules
  quiet {id : RuleId} {rule : Rule Outside} {readset : NameSet}
    (hrule : core.rule? id = some rule) (hread : rule.readset = some readset) :
    Effect.Quiet rule.effect readset core.bank

namespace Controller

variable {controller : Controller Outside} {outside : Outside} {call : Call Outside}
  {core : Core Outside}

theorem hasRulesOf_of_leaves (hrules : controller.core.HasRulesOf rules)
    (hleaves : controller.Leaves outside call core) : core.HasRulesOf rules := by
  have hrulesAt (bank : Bank) (history : History) :
      Core.HasRulesOf rules ⟨bank, history, controller.rulesets⟩ := hrules
  cases hleaves with
  | nothing | unchanged | undone | stuck => exact hrules
  | slept => exact (hrulesAt _ controller.history).sleep _ _
  | committed | restarted | rewound | replaced => exact (hrulesAt _ _).report _ _

theorem hasRulesOf_of_reaches {permitted : Call Outside → Controller Outside → Outside → Prop}
    {start : Controller Outside} (hstart : start.core.HasRulesOf rules)
    (hreached : Reaches permitted start controller) : controller.core.HasRulesOf rules := by
  induction hreached with
  | start => exact hstart
  | call _ call outside _ ih => exact hasRulesOf_of_leaves ih (leaves_perform call _ outside)

theorem conforms_of_leaves (hdistinct : ∀ declared ∈ declarations, declared.type.DistinctFields)
    (hconsistent : controller.core.IsConsistent declarations)
    (hconforms : controller.bank.Conforms) (hkeeps : call.KeepsConforming controller outside)
    (hleaves : controller.Leaves outside call core) : core.bank.Conforms := by
  have hrestored {before bank : Bank} {state : SavedState}
      (hbefore : before.declarations = controller.bank.declarations)
      (hrestore : before.restore state = .ok bank) : bank.Conforms := by
    refine Bank.conforms_of_restore (fun declared hmem => hdistinct declared ?_) hrestore
    rwa [hbefore.trans hconsistent.declared] at hmem
  cases hleaves with
  | nothing => exact hconforms
  | unchanged hattempt hkept => exact hkeeps.conforms hattempt hkept
  | slept _ hattempt hsucceeded => exact hkeeps.conforms hattempt (.inl hsucceeded)
  | undone hbefore hrestore => exact hrestored hbefore hrestore
  | committed hattempt hsucceeded => exact hkeeps.conforms hattempt (.inl hsucceeded)
  | restarted hattempt hsucceeded => exact hkeeps.conforms hattempt (.inl hsucceeded)
  | rewound hbefore _ hrestore => exact hrestored hbefore hrestore
  | stuck hbefore hhistory hrestore =>
      exact absurd hrestore (restore_ne_error_of_isStored hconsistent.isStored hbefore hhistory _)
  | replaced _ hrestore => exact hrestored rfl hrestore

/-- An instance that sleeps after a call slept before it, on variables that the call did not change, or
it was fired by the call and nothing at all was changed. -/
theorem rule?_of_leaves (hrules : controller.core.HasRulesOf rules)
    (hdomains : ∀ declaration ∈ rules,
      declaration.body.DomainSucceeds (Bank.Fits declarations))
    (hbefore : controller.core.IsConsistent declarations)
    (hafter : core.IsConsistent declarations) (hconforms : core.bank.Conforms)
    (hleaves : controller.Leaves outside call core) {id : RuleId} {rule : Rule Outside}
    {readset : NameSet} (hrule : core.rule? id = some rule) (hread : rule.readset = some readset) :
    (controller.rule? id = some rule ∧
        ∀ name, name ∈ readset → controller.bank.document? name = core.bank.document? name) ∨
      ∃ old, controller.rule? id = some old ∧ rule = old.sleep readset ∧
        ((old.effect outside).run controller.bank ∅).outcome = .ok () ∧
        ((old.effect outside).run controller.bank ∅).readset = readset ∧
        controller.bank.save = core.bank.save ∧
        core.bank = ((old.effect outside).run controller.bank ∅).bank := by
  have hdeclared : controller.bank.declarations = core.bank.declarations :=
    hbefore.declared.trans hafter.declared.symm
  have hfits : core.bank.Fits declarations := ⟨hafter.declared, hconforms⟩
  have hsame (hhistory : core.history = controller.history) :
      controller.bank.save = core.bank.save := by
    have hlive := hafter.live
    rw [hhistory] at hlive
    exact hbefore.live.trans hlive.symm
  have hdocuments (hhistory : core.history = controller.history) :
      ∀ name, name ∈ readset → controller.bank.document? name = core.bank.document? name :=
    fun name _ => (Bank.save_eq_iff hdeclared).1 (hsame hhistory) name
  have hrulesAt (bank : Bank) (history : History) :
      Core.HasRulesOf rules ⟨bank, history, controller.rulesets⟩ := hrules
  cases hleaves with
  | nothing | unchanged | undone => exact .inl ⟨hrule, hdocuments rfl⟩
  | @slept slept old hold _ hsucceeded _ =>
      by_cases heq : id = slept
      · subst heq
        obtain rfl := Option.some.inj (hrule.symm.trans (Core.rule?_sleep_self hold))
        obtain rfl := Option.some.inj hread
        exact .inr ⟨old, hold, rfl, hsucceeded, rfl, hsame rfl, rfl⟩
      · rw [Core.rule?_sleep_of_ne heq] at hrule
        exact .inl ⟨hrule, hdocuments rfl⟩
  | @committed run message _ _ =>
      obtain ⟨hkept, haffects⟩ := (hrulesAt _ _).rule?_of_report hdomains hfits hrule hread
      have hlive : controller.bank.save = controller.current.state := hbefore.live
      rw [← hlive, Bank.affects_between_save_eq_false_iff] at haffects
      refine .inl ⟨hkept, fun name hname => ?_⟩
      exact (Bank.get?_save_eq_iff hdeclared name).1 (haffects name hname)
  | restarted | rewound | replaced =>
      have hnone := (hrulesAt _ _).readset_of_report_everything hdomains hfits hrule
      rw [hread] at hnone
      cases hnone
  | stuck hbank hhistory hrestore =>
      exact absurd hrestore (restore_ne_error_of_isStored hbefore.isStored hbank hhistory _)

theorem isSettled_of_leaves (hdistinct : ∀ declared ∈ declarations, declared.type.DistinctFields)
    (htracked : ∀ declaration ∈ rules, declaration.body.IsTracked (Bank.Fits declarations))
    (hconsistent : controller.core.IsConsistent declarations)
    (hsettled : controller.core.IsSettled (Bank.Fits declarations) rules)
    (hkeeps : call.KeepsConforming controller outside)
    (hleaves : controller.Leaves outside call core) :
    core.IsSettled (Bank.Fits declarations) rules := by
  obtain ⟨⟨-, hconforms⟩, -, hrules, hquiet⟩ := hsettled
  have hafter := isConsistent_of_leaves hconsistent hkeeps.succeedsConforming hleaves
  have hconforms' := conforms_of_leaves hdistinct hconsistent hconforms hkeeps hleaves
  have hrules' := hasRulesOf_of_leaves hrules hleaves
  refine ⟨⟨hafter.declared, hconforms'⟩, hafter.live, hrules', fun {id rule readset} hrule hread => ?_⟩
  have hdeclared := hconsistent.declared.trans hafter.declared.symm
  obtain ⟨⟨declaration, hdeclaration, heffect⟩, -⟩ := hrules'.of_rule? hrule
  have hrepeat := (htracked declaration hdeclaration).repeatable heffect
  -- It is enough that the rule was quiet before on variables that were not changed.
  have hkept (hbefore : Effect.Quiet rule.effect readset controller.bank)
      (hsame : ∀ name, name ∈ readset →
        controller.bank.document? name = core.bank.document? name) :
      Effect.Quiet rule.effect readset core.bank :=
    hbefore.of_agreeOn hrepeat ((htracked declaration hdeclaration).writesOnlyRead heffect)
      ⟨hafter.declared, hconforms'⟩
      (Bank.AgreeOn.of_document?_eq hdeclared hconforms hconforms' hsame)
  rcases rule?_of_leaves hrules (fun declaration hmem => (htracked declaration hmem).3)
    hconsistent hafter hconforms' hleaves hrule hread with
    ⟨hbefore, hsame⟩ | ⟨old, hold, rfl, hsucceeded, hreads, hsame, hbank⟩
  · exact hkept (hquiet hbefore hread) hsame
  · refine hkept ?_ fun name _ => (Bank.save_eq_iff hdeclared).1 hsame name
    rw [← hreads]
    exact hrepeat.quiet_of_run hsucceeded (hbank ▸ hsame.symm)

theorem hasRulesOf_of_build {setup : ControllerSetup Outside} {model : Model Outside}
    {built : Controller Outside} (hbuild : (setup.build model outside).result = .ok built) :
    built.core.HasRulesOf model.rules ∧
      ∀ id rule, built.rule? id = some rule → rule.readset = none := by
  obtain ⟨rulesets, hrulesets, hcore⟩ := core_of_build hbuild
  have hmade {ruleset : Ruleset Outside} (hmem : ruleset ∈ rulesets) :=
    Success.exists_of_mem_right (Success.mapM_eq_ok_iff.1 hrulesets) hmem
  have hbuilt : built.rulesets = rulesets := congrArg Core.rulesets hcore
  constructor
  · intro ruleset hmem
    change ruleset ∈ built.rulesets at hmem
    rw [hbuilt] at hmem
    obtain ⟨declaration, hdeclaration, hruleset⟩ := hmade hmem
    obtain ⟨hbody, hsound, -⟩ := Ruleset.isSound_ofDeclaration hruleset
    exact ⟨⟨declaration, hdeclaration, hbody.symm⟩, hsound⟩
  · intro id rule hrule
    obtain ⟨ruleset, hruleset, hrule⟩ := Option.bind_eq_some_iff.1 hrule
    obtain ⟨declaration, -, hmade⟩ := hmade (hbuilt ▸ List.mem_of_getElem? hruleset)
    exact (Ruleset.isSound_ofDeclaration hmade).2.2 rule (List.mem_of_getElem? hrule)

theorem isSettled_of_build {valid : Bank → Prop} {setup : ControllerSetup Outside}
    {model : Model Outside} (hvalid : valid model.bank) {built : Controller Outside}
    (hbuild : (setup.build model outside).result = .ok built) :
    built.core.IsSettled valid model.rules := by
  obtain ⟨hrules, hawake⟩ := hasRulesOf_of_build hbuild
  obtain ⟨rulesets, -, hcore⟩ := core_of_build hbuild
  refine ⟨?_, ?_, hrules, fun {id rule readset} hrule hread => ?_⟩
  · rwa [hcore]
  · rw [hcore]
    rfl
  · rw [hawake id rule hrule] at hread
    cases hread

def sleeps (controller : Controller Outside) (id : RuleId) : Bool :=
  (controller.rule? id).any (!·.isActive)

theorem sleeps_eq_isSome (hrules : controller.core.HasRulesOf rules) {id : RuleId}
    {rule : Rule Outside} (hrule : controller.rule? id = some rule) :
    controller.sleeps id = rule.readset.isSome := by
  obtain ⟨-, hsound⟩ := hrules.of_rule? hrule
  rw [sleeps, hrule, Option.any_some, hsound]
  cases rule.readset <;> rfl

/-- What is quiet on the live values leaves no difference to the current entry. -/
theorem isEmpty_between_of_quiet (hlive : controller.saveState = controller.current.state)
    {effect : Outside → Effect Unit} {readset : NameSet}
    (hquiet : Effect.Quiet effect readset controller.bank) (outside : Outside) :
    (Changeset.between controller.current.state
      ((effect outside).run controller.bank ∅).bank.save).isEmpty = true := by
  obtain ⟨-, -, hsave⟩ := hquiet outside
  rw [← hlive, hsave]
  exact Bank.isEmpty_between_save_iff.2 rfl

theorem fire_of_quiet (hlive : controller.saveState = controller.current.state) {id : RuleId}
    {rule : Rule Outside} (hrule : controller.rule? id = some rule) {readset : NameSet}
    (hquiet : Effect.Quiet rule.effect readset controller.bank) (outside : Outside) :
    (controller.fire outside id).result = .ok .none := by
  obtain ⟨⟨_, houtcome⟩, -, -⟩ := hquiet outside
  have hempty := isEmpty_between_of_quiet hlive hquiet outside
  rw [fire_of_unchanged hrule rfl houtcome hempty]
  exact congrArg Except.ok (Changeset.eq_none_of_isEmpty hempty)

end Controller

/-- With the bank in which it went to sleep noted for every instance that sleeps now. -/
def noteSleep (slept : RuleId → Option Bank) (before after : Controller Outside) :
    RuleId → Option Bank := fun id =>
  if after.sleeps id && !before.sleeps id then some after.bank else slept id

theorem noteSleep_of_sleeps {slept : RuleId → Option Bank} {before after : Controller Outside}
    {id : RuleId} (hsleeps : before.sleeps id = true) : noteSleep slept before after id = slept id := by
  rw [noteSleep, hsleeps, Bool.not_true, Bool.and_false]
  exact if_neg Bool.false_ne_true

theorem noteSleep_of_dozes_off {slept : RuleId → Option Bank} {before after : Controller Outside}
    {id : RuleId} (hbefore : before.sleeps id = false) (hafter : after.sleeps id = true) :
    noteSleep slept before after id = some after.bank := by
  rw [noteSleep, hbefore, hafter]
  rfl

/-- The controllers that permitted calls lead to, with the bank in which each instance that sleeps was
put to sleep. -/
inductive Course (permitted : Call Outside → Controller Outside → Outside → Prop)
    (start : Controller Outside) : (RuleId → Option Bank) → Controller Outside → Prop
  | start : Course permitted start (fun _ => none) start
  | call {slept : RuleId → Option Bank} {controller : Controller Outside}
      (hcourse : Course permitted start slept controller) (call : Call Outside) (outside : Outside)
      (hpermitted : permitted call controller outside) :
      Course permitted start (noteSleep slept controller (call.perform controller outside))
        (call.perform controller outside)

/-- Every instance that sleeps went to sleep on a bank that had the documents of now under the names
that it sleeps on. -/
theorem Course.exists_slept {start controller : Controller Outside}
    {slept : RuleId → Option Bank}
    (hdistinct : ∀ declared ∈ declarations, declared.type.DistinctFields)
    (htracked : ∀ declaration ∈ rules, declaration.body.IsTracked (Bank.Fits declarations))
    (hconsistent : start.core.IsConsistent declarations)
    (hsettled : start.core.IsSettled (Bank.Fits declarations) rules)
    (hawake : ∀ id rule, start.rule? id = some rule → rule.readset = none)
    (hcourse : Course Call.KeepsConforming start slept controller) :
    controller.core.IsConsistent declarations ∧
      controller.core.IsSettled (Bank.Fits declarations) rules ∧
      ∀ id rule readset, controller.rule? id = some rule → rule.readset = some readset →
        ∃ bank, slept id = some bank ∧
          ∀ name, name ∈ readset → bank.document? name = controller.bank.document? name := by
  induction hcourse with
  | start =>
      refine ⟨hconsistent, hsettled, fun id rule readset hrule hread => ?_⟩
      rw [hawake id rule hrule] at hread
      cases hread
  | @call slept controller hcourse call outside hpermitted ih =>
      obtain ⟨hconsistent, hsettled, hslept⟩ := ih
      have hleaves := Controller.leaves_perform call controller outside
      have hconsistent' := Controller.isConsistent_of_leaves hconsistent
        hpermitted.succeedsConforming hleaves
      have hsettled' := Controller.isSettled_of_leaves hdistinct htracked hconsistent hsettled
        hpermitted hleaves
      refine ⟨hconsistent', hsettled', fun id rule readset hrule hread => ?_⟩
      have hsleeps := Controller.sleeps_eq_isSome hsettled'.hasRules hrule
      rw [hread, Option.isSome_some] at hsleeps
      rcases Controller.rule?_of_leaves hsettled.hasRules
        (fun declaration hmem => (htracked declaration hmem).domainSucceeds) hconsistent
        hconsistent' hsettled'.admissible.conforms hleaves hrule hread with
        ⟨hbefore, hsame⟩ | ⟨old, hold, rfl, -, hreads, hsame, -⟩
      · have hslumbered := Controller.sleeps_eq_isSome hsettled.hasRules hbefore
        rw [hread, Option.isSome_some] at hslumbered
        obtain ⟨bank, hbank, hdocuments⟩ := hslept id rule readset hbefore hread
        rw [noteSleep_of_sleeps hslumbered]
        refine ⟨bank, hbank, fun name hname => ?_⟩
        calc bank.document? name
            = controller.bank.document? name := hdocuments name hname
          _ = (call.perform controller outside).bank.document? name := hsame name hname
      · have hslumbered := Controller.sleeps_eq_isSome hsettled.hasRules hold
        cases hcase : old.readset with
        | none =>
            rw [hcase, Option.isSome_none] at hslumbered
            rw [noteSleep_of_dozes_off hslumbered hsleeps]
            exact ⟨_, rfl, fun _ _ => rfl⟩
        | some readset' =>
            -- Fired in its sleep, the rule has read what it slept on.
            obtain ⟨-, hreads', -⟩ := hsettled.quiet hold hcase outside
            obtain rfl : readset' = readset := hreads'.symm.trans hreads
            rw [hcase, Option.isSome_some] at hslumbered
            obtain ⟨bank, hbank, hdocuments⟩ := hslept id old readset' hold hcase
            have hdeclared : controller.bank.declarations =
                (call.perform controller outside).bank.declarations :=
              hconsistent.declared.trans hconsistent'.declared.symm
            rw [noteSleep_of_sleeps hslumbered]
            refine ⟨bank, hbank, fun name hname => ?_⟩
            calc bank.document? name
                = controller.bank.document? name := hdocuments name hname
              _ = (call.perform controller outside).bank.document? name :=
                  (Bank.save_eq_iff hdeclared).1 hsame name

/-- It is sound to pass over the instances that sleep. They are those that carry a readset; its variables
are saved as they were when the instance went to sleep; and firing it now changes nothing. -/
theorem Controller.sleep_is_sound {setup : ControllerSetup Outside} {model : Model Outside}
    (hdistinct : model.bank.HasDistinctFields) (hconforms : model.bank.Conforms)
    (htracked : ∀ declaration ∈ model.rules,
      declaration.body.IsTracked (Bank.Fits model.bank.declarations))
    {outside : Outside} {built controller : Controller Outside} {slept : RuleId → Option Bank}
    (hbuild : (setup.build model outside).result = .ok built)
    (hcourse : Course Call.KeepsConforming built slept controller) {id : RuleId}
    {rule : Rule Outside} (hrule : controller.rule? id = some rule) :
    (rule.isActive = false ↔ ∃ readset, rule.readset = some readset) ∧
      ∀ readset, rule.readset = some readset →
        (∃ bank, slept id = some bank ∧
          ∀ name, name ∈ readset → controller.bank.document? name = bank.document? name) ∧
        ∀ outside, (controller.fire outside id).result = .ok .none := by
  obtain ⟨-, hawake⟩ := Controller.hasRulesOf_of_build hbuild
  obtain ⟨-, hsettled, hslept⟩ := hcourse.exists_slept hdistinct htracked
    (Controller.isConsistent_of_build hconforms hbuild)
    (Controller.isSettled_of_build ⟨rfl, hconforms⟩ hbuild) hawake
  obtain ⟨-, hsound⟩ := hsettled.hasRules.of_rule? hrule
  constructor
  · rw [hsound]
    cases rule.readset <;> simp
  · intro readset hread
    obtain ⟨bank, hbank, hdocuments⟩ := hslept id rule readset hrule hread
    refine ⟨⟨bank, hbank, fun name hname => (hdocuments name hname).symm⟩, fun outside => ?_⟩
    exact Controller.fire_of_quiet hsettled.live hrule (hsettled.quiet hrule hread)
      outside

/-- A tank with a rule that drains it and one that arms its alarm. -/
def tank : Model Unit where
  bank := ⟨[.ofType "level" (.range 0 10), .ofType "alarm" .number], by decide⟩
  rules := [⟨"drain", .single fun _ => Effect.overwrite "level" (.number 0)⟩,
    ⟨"arm", .single fun _ => Effect.overwrite "alarm" (.number 1)⟩]
  invariants := []
  init? := none

theorem distinctFields_tank {declared : VariableDeclaration}
    (hmem : declared ∈ tank.bank.declarations) : declared.type.DistinctFields := by
  simp only [Bank.declarations, tank, List.map_cons, List.map_nil, List.mem_cons,
    List.not_mem_nil, or_false] at hmem
  rcases hmem with rfl | rfl
  · exact .range 0 10
  · exact .number

theorem conforms_tank {level alarm : Int64} (hlow : 0 ≤ level) (hhigh : level ≤ 10) {bank : Bank}
    (hentries : bank.entries = [⟨"level", .range 0 10, false, .number level⟩,
      ⟨"alarm", .number, false, .number alarm⟩]) : bank.Conforms := by
  intro entry hmem _
  rw [hentries] at hmem
  rcases List.mem_pair.1 hmem with rfl | rfl
  · exact .range hlow hhigh
  · exact .number alarm

/-- The empty tank is drained in vain, then the alarm is armed; the drain goes on sleeping. -/
theorem Controller.sleep_is_sound_tank :
    ∃ built controller slept rule, (ControllerSetup.standard.build tank ()).result = .ok built ∧
      Course Call.KeepsConforming built slept controller ∧
      controller.rule? ⟨0, 0⟩ = some rule ∧ rule.isActive = false ∧
      (controller.fire () ⟨0, 0⟩).result = .ok .none := by
  have htracked : ∀ declaration ∈ tank.rules,
      declaration.body.IsTracked (Bank.Fits tank.bank.declarations) := by
    intro declaration hmem
    rcases List.mem_pair.1 hmem with rfl | rfl
    · exact RuleBody.isTracked_overwrite _ "level" (.number 0)
    · exact RuleBody.isTracked_overwrite _ "alarm" (.number 1)
  obtain ⟨built, hbuild⟩ : ∃ built, (ControllerSetup.standard.build tank ()).result = .ok built :=
    ⟨_, rfl⟩
  have hdrain : (Call.fire ⟨0, 0⟩).KeepsConforming built () := by
    refine ⟨(by simp), fun {run} hattempt _ => ?_⟩
    cases hbuild
    have hentries : run.bank.entries = [⟨"level", .range 0 10, false, .number 0⟩,
        ⟨"alarm", .number, false, .number 0⟩] := by
      rw [← Option.some.inj hattempt]
      rfl
    exact conforms_tank (by decide) (by decide) hentries
  have harm : (Call.fire ⟨1, 0⟩).KeepsConforming ((Call.fire ⟨0, 0⟩).perform built ()) () := by
    refine ⟨(by simp), fun {run} hattempt _ => ?_⟩
    cases hbuild
    have hentries : run.bank.entries = [⟨"level", .range 0 10, false, .number 0⟩,
        ⟨"alarm", .number, false, .number 1⟩] := by
      rw [← Option.some.inj hattempt]
      rfl
    exact conforms_tank (by decide) (by decide) hentries
  have hcourse := (Course.start.call _ () hdrain).call _ () harm
  obtain ⟨rule, hrule, hinactive⟩ : ∃ rule, ((Call.fire ⟨1, 0⟩).perform
      ((Call.fire ⟨0, 0⟩).perform built ()) ()).rule? ⟨0, 0⟩ = some rule ∧
        rule.isActive = false := by
    cases hbuild
    exact ⟨_, rfl, rfl⟩
  obtain ⟨hsleeps, hquiet⟩ := Controller.sleep_is_sound
    (fun _ => distinctFields_tank) (conforms_tank (by decide) (by decide) rfl) htracked hbuild
    hcourse hrule
  obtain ⟨readset, hread⟩ := hsleeps.1 hinactive
  exact ⟨built, _, _, rule, hbuild, hcourse, hrule, hinactive, (hquiet readset hread).2 ()⟩

end TransitionEngine
