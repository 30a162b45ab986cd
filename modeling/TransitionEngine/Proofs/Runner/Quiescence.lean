import TransitionEngine.Proofs.Controller.Dormancy
import TransitionEngine.Runner.Basic

/-!
# Idle runs

A run that ends idle has put every instance to sleep. When the effects change only what they read,
and show every change in the documents, nothing is left that could change the state. A blind write
is what spoils this: a rule that overwrites a variable with what it holds already goes to sleep on
nothing, and nothing wakes it when another rule changes the variable.
-/

namespace TransitionEngine

variable {Outside State : Type} {valid : Bank → Prop} {rules : List (RuleDeclaration Outside)}

/-- The effects of the instances are repeatable, and neither they nor the domain can fail. -/
structure RuleBody.IsReliable (valid : Bank → Prop) (body : RuleBody Outside) : Prop where
  repeatable {effect : Outside → Effect Unit} (heffect : body.HasEffect effect) :
    Effect.Repeatable effect
  succeeds {effect : Outside → Effect Unit} (heffect : body.HasEffect effect) :
    Effect.SucceedsWithin valid effect
  domainSucceeds : body.DomainSucceeds valid

/-- Besides being reliable, the effects write only what they read, and show what they change. -/
structure RuleBody.IsTame (valid : Bank → Prop) (body : RuleBody Outside) : Prop
    extends body.IsReliable valid where
  writesOnlyRead {effect : Outside → Effect Unit} (heffect : body.HasEffect effect) :
    Effect.WritesOnlyRead valid effect
  showsChanges {effect : Outside → Effect Unit} (heffect : body.HasEffect effect) :
    Effect.ShowsChanges valid effect

theorem RuleBody.isTame_overwrite {declarations : List VariableDeclaration}
    {declared : VariableDeclaration} (hmem : declared ∈ declarations)
    (hvariable : declared.constant? = none) {value : Value}
    (hvalue : Conforms declared.type value) :
    IsTame (Bank.Fits declarations)
      (.single fun _ : Outside => .overwrite declared.name value) := by
  have htracked : IsTracked (Bank.Fits declarations)
      (.single fun _ : Outside => .overwrite declared.name value) :=
    isTracked_overwrite (Bank.Fits declarations) declared.name value
  have hsucceeds : Effect.SucceedsWithin (Bank.Fits declarations)
      fun _ : Outside => Effect.overwrite declared.name value :=
    Effect.succeedsWithin_overwrite hmem hvariable hvalue
  refine ⟨⟨htracked.repeatable, ?_, trivial⟩, htracked.writesOnlyRead, ?_⟩
  · rintro _ rfl
    exact hsucceeds
  · rintro _ rfl
    exact hsucceeds.showsChanges

/-- The calls that a runner makes. -/
def Call.Fires (call : Call Outside) (_ : Controller Outside) (_ : Outside) : Prop :=
  ∃ id, call = .fire id

namespace Controller

variable {controller : Controller Outside}

/-- No instance could change anything. -/
def IsQuiescent (controller : Controller Outside) : Prop :=
  ∀ id rule, controller.rule? id = some rule →
    ∀ outside, (controller.wouldFire outside id).result = .ok none

theorem wouldFire_of_quiet (hlive : controller.saveState = controller.current.state) {id : RuleId}
    {rule : Rule Outside} (hrule : controller.rule? id = some rule) {readset : NameSet}
    (hquiet : Effect.Quiet rule.effect readset controller.bank) (outside : Outside) :
    (controller.wouldFire outside id).result = .ok none := by
  obtain ⟨⟨_, houtcome⟩, -, -⟩ := hquiet outside
  have hempty := isEmpty_between_of_quiet hlive hquiet outside
  rw [wouldFire, Controller.rule, hrule]
  dsimp only
  rw [wouldChangeState]
  dsimp only
  rw [if_pos hempty, houtcome]
  rfl

theorem mem_activeRules_iff {id : RuleId} :
    id ∈ controller.activeRules ↔
      ∃ rule, controller.rule? id = some rule ∧ rule.isActive = true := by
  simp only [activeRules, List.mem_flatMap, List.mem_map, List.mem_filter, Prod.exists,
    List.mk_mem_zipIdx_iff_getElem?, rule?, Option.bind_eq_some_iff]
  constructor
  · rintro ⟨ruleset, position, hruleset, rule, index, ⟨hrule, hactive⟩, rfl⟩
    exact ⟨rule, ⟨ruleset, hruleset, hrule⟩, hactive⟩
  · rintro ⟨rule, ⟨ruleset, hruleset, hrule⟩, hactive⟩
    exact ⟨ruleset, id.ruleset, hruleset, rule, id.rule, ⟨hrule, hactive⟩, rfl⟩

section Fire

variable {id : RuleId} {rule : Rule Outside} {outside : Outside} {run : Run Unit}
  (hrule : controller.rule? id = some rule)
  (hrun : (rule.effect outside).run controller.bank ∅ = run)
  (htame : ∀ declaration ∈ rules, declaration.body.IsTame valid)
  (hsettled : controller.core.IsSettled valid rules)

include hrule hrun htame hsettled

/-- A quiet instance stays so when another is fired that keeps the documents which it reads. -/
theorem quiet_of_run_of_document?_eq {other : RuleId} {sleeper : Rule Outside} {readset : NameSet}
    (hother : controller.rule? other = some sleeper)
    (hquiet : Effect.Quiet sleeper.effect readset controller.bank)
    (hsame : ∀ name, name ∈ readset → controller.bank.document? name = run.bank.document? name) :
    Effect.Quiet sleeper.effect readset run.bank := by
  subst hrun
  obtain ⟨⟨declaration, hdeclaration, heffect⟩, -⟩ := hsettled.hasRules.of_rule? hrule
  obtain ⟨⟨declaration', hdeclaration', heffect'⟩, -⟩ := hsettled.hasRules.of_rule? hother
  have hfired := htame declaration hdeclaration
  have hsleeps := htame declaration' hdeclaration'
  have hvalid := ((hfired.succeeds heffect) outside controller.bank hsettled.admissible).2
  have hagree := (hfired.showsChanges heffect).agreeOn hsettled.admissible hsame
  exact hquiet.of_agreeOn (hsleeps.repeatable heffect') (hsleeps.writesOnlyRead heffect') hvalid
    hagree

theorem isSettled_fire_of_unchanged
    (hempty : (Changeset.between controller.current.state run.bank.save).isEmpty = true) :
    (controller.fire outside id).controller.core.IsSettled valid rules := by
  obtain ⟨⟨declaration, hdeclaration, heffect⟩, -⟩ := hsettled.hasRules.of_rule? hrule
  have hbody := htame declaration hdeclaration
  obtain ⟨⟨_, hsucceeded⟩, hvalid⟩ := hbody.succeeds heffect outside controller.bank
    hsettled.admissible
  rw [hrun] at hsucceeded hvalid
  have hlive : controller.bank.save = controller.current.state := hsettled.live
  have hsave : controller.bank.save = run.bank.save := by
    rw [← hlive] at hempty
    exact Bank.isEmpty_between_save_iff.1 hempty
  have hdeclared : controller.bank.declarations = run.bank.declarations := by
    rw [← hrun]
    exact (Effect.declarations_run ..).symm
  have hsame : ∀ name, controller.bank.document? name = run.bank.document? name :=
    (Bank.save_eq_iff hdeclared).1 hsave
  have hrules : Core.HasRulesOf rules ⟨run.bank, controller.history, controller.rulesets⟩ :=
    hsettled.hasRules
  rw [fire_of_unchanged hrule hrun hsucceeded hempty]
  dsimp only
  rw [core_sleepRule, core_withBank]
  refine ⟨hvalid, hsave.symm.trans hlive, hrules.sleep _ _, ?_⟩
  intro other sleeper readset hother hread
  by_cases heq : other = id
  · subst heq
    obtain rfl := Option.some.inj (hother.symm.trans (Core.rule?_sleep_self hrule))
    obtain rfl := Option.some.inj hread
    have hfired : Effect.Quiet rule.effect run.readset controller.bank := by
      subst hrun
      exact (hbody.repeatable heffect).quiet_of_run hsucceeded hsave.symm
    have hrested : Effect.Quiet rule.effect run.readset run.bank :=
      quiet_of_run_of_document?_eq hrule hrun htame hsettled hrule hfired fun name _ => hsame name
    exact hrested
  · have hother' := (Core.rule?_sleep_of_ne heq).symm.trans hother
    exact quiet_of_run_of_document?_eq hrule hrun htame hsettled hother'
      (hsettled.quiet hother' hread) fun name _ => hsame name

theorem isSettled_fire_of_changed
    (hchanged : (Changeset.between controller.current.state run.bank.save).isEmpty = false) :
    (controller.fire outside id).controller.core.IsSettled valid rules := by
  obtain ⟨⟨declaration, hdeclaration, heffect⟩, -⟩ := hsettled.hasRules.of_rule? hrule
  obtain ⟨⟨_, hsucceeded⟩, hvalid⟩ := (htame declaration hdeclaration).succeeds heffect outside
    controller.bank hsettled.admissible
  rw [hrun] at hsucceeded hvalid
  have hdeclared : controller.bank.declarations = run.bank.declarations := by
    rw [← hrun]
    exact (Effect.declarations_run ..).symm
  have hrules (history : History) :
      Core.HasRulesOf rules ⟨run.bank, history, controller.rulesets⟩ := hsettled.hasRules
  obtain ⟨message, hcore⟩ := core_fire_of_changed hrule hrun hsucceeded hchanged
  rw [hcore]
  refine ⟨hvalid, rfl, (hrules _).report _ _, fun {other sleeper readset} hother hread => ?_⟩
  -- What still sleeps after the report slept before, on variables that were not changed.
  obtain ⟨hother', haffects⟩ := (hrules _).rule?_of_report
    (fun declaration hmem => (htame declaration hmem).domainSucceeds) hvalid hother hread
  have hlive : controller.bank.save = controller.current.state := hsettled.live
  rw [← hlive, Bank.affects_between_save_eq_false_iff] at haffects
  apply quiet_of_run_of_document?_eq hrule hrun htame hsettled hother'
    (hsettled.quiet hother' hread)
  intro name hname
  exact (Bank.get?_save_eq_iff hdeclared name).1 (haffects name hname)

end Fire

/-- Firing a tame instance keeps the sleeping instances from being able to change anything. -/
theorem isSettled_fire (htame : ∀ declaration ∈ rules, declaration.body.IsTame valid)
    (hsettled : controller.core.IsSettled valid rules) (outside : Outside) (id : RuleId) :
    (controller.fire outside id).controller.core.IsSettled valid rules := by
  cases hrule : controller.rule? id with
  | none =>
      rw [fire, rule, hrule]
      exact hsettled
  | some rule =>
      generalize hrun : (rule.effect outside).run controller.bank ∅ = run
      cases hempty : (Changeset.between controller.current.state run.bank.save).isEmpty with
      | true => exact isSettled_fire_of_unchanged hrule hrun htame hsettled hempty
      | false => exact isSettled_fire_of_changed hrule hrun htame hsettled hempty

theorem isSettled_of_reaches {start : Controller Outside}
    (htame : ∀ declaration ∈ rules, declaration.body.IsTame valid)
    (hstart : start.core.IsSettled valid rules)
    (hreached : Reaches Call.Fires start controller) :
    controller.core.IsSettled valid rules := by
  induction hreached with
  | start => exact hstart
  | call hreached call outside hfires ih =>
      obtain ⟨id, rfl⟩ := hfires
      exact isSettled_fire htame ih outside id

theorem isQuiescent_of_activeRules_eq_nil (hsettled : controller.core.IsSettled valid rules)
    (hidle : controller.activeRules = []) : controller.IsQuiescent := by
  intro id rule hrule outside
  obtain ⟨-, hsound⟩ := hsettled.hasRules.of_rule? hrule
  cases hread : rule.readset with
  | none =>
      rw [Rule.IsSound, hread, Option.isNone_none] at hsound
      have hmem := mem_activeRules_iff.2 ⟨rule, hrule, hsound⟩
      rw [hidle] at hmem
      cases hmem
  | some readset =>
      exact wouldFire_of_quiet hsettled.live hrule (hsettled.quiet hrule hread) outside

end Controller

namespace Selector

/-- The selector stops only when there is nothing to pick. -/
def IsEager (selector : Selector Outside State) : Prop :=
  ∀ state candidates rulesets, (selector state candidates rulesets).1 = none → candidates = []

theorem isEager_roundRobin : (roundRobin : Selector Outside _).IsEager := by
  intro last candidates rulesets hstop
  cases candidates with
  | nil => rfl
  | cons first rest =>
      simp only [roundRobin, List.head?_cons] at hstop
      cases hfollowing : last.bind fun last => (first :: rest).find? (last.before ·) <;>
        simp [hfollowing] at hstop

theorem isEager_seeded : (seeded : Selector Outside _).IsEager := by
  intro state candidates rulesets hstop
  by_contra hsome
  have hcount : 0 < candidates.length := List.length_pos_iff.2 hsome
  have hempty : candidates.isEmpty = false := by simpa using hsome
  rw [seeded, hempty, if_neg Bool.false_ne_true] at hstop
  have hbeyond := List.getElem?_eq_none_iff.1 hstop
  have hbelow := Seeded.draw_lt (ChaCha.keyOfSeed state.seed) state.position 256 hcount
  omega

end Selector

namespace Runner

variable {runner : Runner Outside State} {built : Controller Outside}

/-- A step fires an instance, or does nothing to the controller. -/
theorem controller_step (runner : Runner Outside State) (outside : Outside) :
    (runner.step outside).runner.controller = runner.controller ∨
      ∃ id, (runner.step outside).runner.controller =
        (runner.controller.fire outside id).controller := by
  rw [step]
  dsimp only
  split
  · exact .inl rfl
  · rename_i id _
    split
    · exact .inl rfl
    · split
      · exact .inr ⟨id, rfl⟩
      · exact .inr ⟨id, rfl⟩

@[simp]
theorem selector_step (runner : Runner Outside State) (outside : Outside) :
    (runner.step outside).runner.selector = runner.selector := by
  rw [step]
  dsimp only
  split
  · rfl
  · split
    · rfl
    · split <;> rfl

theorem activeRules_of_step_idle (heager : runner.selector.IsEager) {outside : Outside}
    (hidle : (runner.step outside).result = .ok .idle) :
    (runner.step outside).runner.controller.activeRules = [] := by
  rw [step] at hidle ⊢
  dsimp only at hidle ⊢
  split at hidle
  · rename_i hstop
    exact heager _ _ _ hstop
  · split at hidle
    · cases hidle
    · split at hidle
      · cases hidle
      · split at hidle <;> cases Except.ok.inj hidle

theorem ofStep_eq_idle {result : Except EngineError StepOutcome}
    (hidle : Progress.ofStep result = .idle) : result = .ok .idle := by
  unfold Progress.ofStep at hidle
  split at hidle
  · rfl
  all_goals cases hidle

theorem reaches_step {start : Controller Outside}
    (hreached : Reaches Call.Fires start runner.controller) (outside : Outside) :
    Reaches Call.Fires start (runner.step outside).runner.controller := by
  rcases controller_step runner outside with hkept | ⟨id, hfired⟩
  · rwa [hkept]
  · rw [hfired]
    exact hreached.call (.fire id) outside ⟨id, rfl⟩

theorem reaches_loop {start : Controller Outside} {outside : Nat → Outside} {tally : Tally}
    {remaining : Nat} (hreached : Reaches Call.Fires start runner.controller) :
    Reaches Call.Fires start (runner.loop outside tally remaining).runner.controller := by
  induction remaining generalizing runner tally with
  | zero => exact hreached
  | succ remaining ih =>
      have hstepped := reaches_step hreached (outside tally.steps)
      rw [loop]
      dsimp only
      split
      · exact hstepped
      · exact hstepped
      · split
        · exact hstepped
        · exact ih hstepped

/-- The selector is eager, so a run that ends idle has nothing left to pick. -/
theorem activeRules_of_loop_idle {outside : Nat → Outside} {tally : Tally} {remaining : Nat}
    (heager : runner.selector.IsEager) {report : RunReport}
    (hresult : (runner.loop outside tally remaining).result = .ok report)
    (hidle : report.idle = true) :
    (runner.loop outside tally remaining).runner.controller.activeRules = [] := by
  induction remaining generalizing runner tally with
  | zero =>
      rw [← Except.ok.inj hresult] at hidle
      cases hidle
  | succ remaining ih =>
      rw [loop] at hresult ⊢
      dsimp only at hresult ⊢
      cases hprogress : Progress.ofStep (runner.step (outside tally.steps)).result with
      | idle => exact activeRules_of_step_idle heager (ofStep_eq_idle hprogress)
      | failed error =>
          rw [hprogress] at hresult
          cases hresult
      | counted committed notices =>
          rw [hprogress] at hresult
          dsimp only at hresult ⊢
          split at hresult
          · rw [← Except.ok.inj hresult] at hidle
            cases hidle
          · rename_i hcontinues
            rw [if_neg hcontinues]
            exact ih (by rwa [selector_step]) hresult

/-- A run is its steps, and a last word to the log. -/
theorem run_eq_loop (runner : Runner Outside State) (outside : Nat → Outside) :
    (runner.run outside).result =
        (runner.loop outside (.start runner) runner.config.maxSteps).result ∧
      (runner.run outside).runner =
        (runner.loop outside (.start runner) runner.config.maxSteps).runner := by
  rw [run]
  split <;> exact ⟨rfl, rfl⟩

theorem reaches_run {start : Controller Outside}
    (hreached : Reaches Call.Fires start runner.controller) (outside : Nat → Outside) :
    Reaches Call.Fires start (runner.run outside).runner.controller := by
  obtain ⟨-, hrunner⟩ := run_eq_loop runner outside
  rw [hrunner]
  exact reaches_loop hreached

theorem activeRules_of_idle {outside : Nat → Outside} (heager : runner.selector.IsEager)
    {report : RunReport} (hresult : (runner.run outside).result = .ok report)
    (hidle : report.idle = true) : (runner.run outside).runner.controller.activeRules = [] := by
  obtain ⟨hlooped, hrunner⟩ := run_eq_loop runner outside
  rw [hlooped] at hresult
  rw [hrunner]
  exact activeRules_of_loop_idle heager hresult hidle

theorem isQuiescent_of_idle {setup : ControllerSetup Outside} {model : Model Outside}
    (htame : ∀ declaration ∈ model.rules, declaration.body.IsTame valid)
    (hvalid : valid model.bank) {start : Outside}
    (hbuild : (setup.build model start).result = .ok built)
    (hused : Reaches Call.Fires built runner.controller) (heager : runner.selector.IsEager)
    {outside : Nat → Outside} {report : RunReport}
    (hresult : (runner.run outside).result = .ok report) (hidle : report.idle = true) :
    (runner.run outside).runner.controller.IsQuiescent := by
  have hstart := Controller.isSettled_of_build hvalid hbuild
  have hsettled := Controller.isSettled_of_reaches htame hstart (reaches_run hused outside)
  have hnone := activeRules_of_idle heager hresult hidle
  exact Controller.isQuiescent_of_activeRules_eq_nil hsettled hnone

end Runner

/-- However runners used the controller before, a run with this selector that ends idle leaves nothing
that could change the state. -/
def Selector.StopsQuiescent (selector : Selector Outside State) (built : Controller Outside) :
    Prop :=
  ∀ runner : Runner Outside State, runner.selector = selector →
    Reaches Call.Fires built runner.controller → ∀ outside report,
      (runner.run outside).result = .ok report → report.idle = true →
        (runner.run outside).runner.controller.IsQuiescent

/-- Under either selector of the engine an idle run of a tame model is a quiescent one. -/
theorem Runner.idle_is_quiescent {setup : ControllerSetup Outside} {model : Model Outside}
    (htame : ∀ declaration ∈ model.rules, declaration.body.IsTame valid)
    (hvalid : valid model.bank) {start : Outside} {built : Controller Outside}
    (hbuild : (setup.build model start).result = .ok built) :
    Selector.roundRobin.StopsQuiescent built ∧ Selector.seeded.StopsQuiescent built := by
  constructor
  · rintro runner hselector hused outside report hresult hidle
    have heager : runner.selector.IsEager := hselector ▸ Selector.isEager_roundRobin
    exact Runner.isQuiescent_of_idle htame hvalid hbuild hused heager hresult hidle
  · rintro runner hselector hused outside report hresult hidle
    have heager : runner.selector.IsEager := hselector ▸ Selector.isEager_seeded
    exact Runner.isQuiescent_of_idle htame hvalid hbuild hused heager hresult hidle

theorem tank_isTame {declaration : RuleDeclaration Unit} (hmem : declaration ∈ tank.rules) :
    declaration.body.IsTame (Bank.Fits tank.bank.declarations) := by
  rcases List.mem_pair.1 hmem with rfl | rfl
  · have hlevel : ⟨"level", .range 0 10, none⟩ ∈ tank.bank.declarations := List.mem_cons_self ..
    exact RuleBody.isTame_overwrite hlevel rfl (.range (by decide) (by decide))
  · have halarm : ⟨"alarm", .number, none⟩ ∈ tank.bank.declarations :=
      List.mem_cons_of_mem _ (List.mem_cons_self ..)
    exact RuleBody.isTame_overwrite halarm rfl (.number 1)

/-- The tank runs idle with its alarm armed; nothing could change it then. -/
theorem Runner.idle_is_quiescent_tank : ∃ (built : Controller Unit) (report : RunReport),
    (ControllerSetup.standard.build tank ()).result = .ok built ∧
      let runner : Runner Unit (Option RuleId) := ⟨built, Selector.roundRobin, none, .standard⟩
      (runner.run fun _ => ()).result = .ok report ∧ report.idle = true ∧
        (runner.run fun _ => ()).runner.controller.IsQuiescent := by
  obtain ⟨built, hbuild⟩ : ∃ built, (ControllerSetup.standard.build tank ()).result = .ok built :=
    ⟨_, rfl⟩
  have hfits : tank.bank.Fits tank.bank.declarations :=
    ⟨rfl, conforms_tank (by decide) (by decide) rfl⟩
  obtain ⟨hrobin, -⟩ := Runner.idle_is_quiescent (fun _ hmem => tank_isTame hmem) hfits hbuild
  obtain ⟨report, hresult, hidle⟩ : ∃ report,
      (Runner.run ⟨built, Selector.roundRobin, none, .standard⟩ fun _ => ()).result = .ok report ∧
        report.idle = true := by
    cases hbuild
    exact ⟨_, rfl, rfl⟩
  exact ⟨built, report, hbuild, hresult, hidle, hrobin _ rfl .start _ _ hresult hidle⟩

theorem Runner.not_stopsQuiescent (runner : Runner Outside State) (outside : Nat → Outside)
    (id : RuleId) (now : Outside) {report : RunReport}
    (hresult : (runner.run outside).result = .ok report) (hidle : report.idle = true)
    {rule : Rule Outside} (hrule : (runner.run outside).runner.controller.rule? id = some rule)
    {changes : Changeset} (hchanges :
      ((runner.run outside).runner.controller.wouldFire now id).result = .ok (some changes)) :
    ¬ runner.selector.StopsQuiescent runner.controller := by
  intro hstops
  have hquiescent := hstops runner rfl .start outside report hresult hidle
  rw [hquiescent id rule hrule now] at hchanges
  cases hchanges

/-- Two rules that write a variable without reading it. -/
def tugOfWar : Model Unit where
  bank := ⟨[.ofType "x" .number], by decide⟩
  rules := [⟨"zero", .single fun _ => Effect.assignVariable "x" (.number 0)⟩,
    ⟨"one", .single fun _ => Effect.assignVariable "x" (.number 1)⟩]
  invariants := []
  init? := none

/-- Notices an array in place of the set. -/
def look : Effect Unit :=
  .read "members" fun
    | .error error => .fail error
    | .ok members =>
        if members == .array ⟨0, []⟩ then Effect.overwrite "seen" (.number 1) else .done (.ok ())

/-- Two rules that read whatever they write, one of which puts an array in place of a set. -/
def disguise : Model Unit where
  bank := ⟨[.ofType "seen" .number, .ofType "members" (.orderedSet .number 0 1)], by decide⟩
  rules := [⟨"look", .single fun _ => look⟩,
    ⟨"swap", .single fun _ => Effect.overwrite "members" (.array ⟨0, []⟩)⟩]
  invariants := []
  init? := none

theorem repeatable_look : Effect.Repeatable fun _ : Unit => look := by
  intro outside outside'
  refine .read "members" fun held held' hheld => ?_
  cases hheld with
  | error error => exact .done _
  | @ok members members' hequal =>
      have hcongr : (members == .array ⟨0, []⟩) = (members' == .array ⟨0, []⟩) :=
        BEq.congr_left hequal
      dsimp only
      rw [hcongr]
      split
      · exact Effect.repeatable_overwrite "seen" (.number 1) outside outside'
      · exact .done _

theorem writesOnlyRead_look (valid : Bank → Prop) :
    Effect.WritesOnlyRead valid fun _ : Unit => look := by
  intro outside bank _ name hname
  simp only [look, Effect.run] at hname ⊢
  cases hread : (bank.read "members" ∅).1 with
  | error error => rfl
  | ok members =>
      rw [hread] at hname
      dsimp only at hname ⊢
      by_cases harray : (members == .array ⟨0, []⟩) = true
      · rw [if_pos harray] at hname ⊢
        exact Effect.get?_run_overwrite hname
      · rw [if_neg harray]
        rfl

theorem tugOfWar_isReliable {declaration : RuleDeclaration Unit}
    (hmem : declaration ∈ tugOfWar.rules) :
    declaration.body.IsReliable fun bank =>
      ∃ x, bank.entries = [⟨"x", .number, false, .number x⟩] := by
  have hassign (number : Int64) : RuleBody.IsReliable
      (fun bank => ∃ x, bank.entries = [⟨"x", .number, false, .number x⟩])
      (.single fun _ : Unit => .assignVariable "x" (.number number)) := by
    refine ⟨?_, ?_, trivial⟩
    · rintro _ rfl outside outside'
      exact .assign "x" BEq.rfl fun _ => .done _
    · rintro _ rfl outside ⟨entries, hdistinct⟩ ⟨x, rfl⟩
      exact ⟨⟨(), rfl⟩, number, rfl⟩
  rcases List.mem_pair.1 hmem with rfl | rfl
  · exact hassign 0
  · exact hassign 1

theorem disguise_isReliable {declaration : RuleDeclaration Unit}
    (hmem : declaration ∈ disguise.rules) :
    declaration.body.IsReliable (fun bank => ∃ seen members, bank.entries =
        [⟨"seen", .number, false, seen⟩, ⟨"members", .orderedSet .number 0 1, false, members⟩]) ∧
      ∀ effect, declaration.body.HasEffect effect → Effect.WritesOnlyRead (fun _ => True) effect := by
  rcases List.mem_pair.1 hmem with rfl | rfl
  · refine ⟨⟨?_, ?_, trivial⟩, ?_⟩
    · rintro _ rfl
      exact repeatable_look
    · rintro _ rfl outside ⟨entries, hdistinct⟩ ⟨seen, members, rfl⟩
      have hread {hdistinct} : Bank.read
          ⟨[⟨"seen", .number, false, seen⟩, ⟨"members", .orderedSet .number 0 1, false, members⟩],
            hdistinct⟩ "members" ∅ = (.ok members, NameSet.insert "members" ∅) := rfl
      simp only [look, Effect.run, hread]
      cases members == .array ⟨0, []⟩ with
      | false => exact ⟨⟨(), rfl⟩, seen, members, rfl⟩
      | true => exact ⟨⟨(), rfl⟩, _, members, rfl⟩
    · rintro _ rfl
      exact writesOnlyRead_look _
  · refine ⟨⟨?_, ?_, trivial⟩, ?_⟩
    · rintro _ rfl
      exact Effect.repeatable_overwrite "members" (.array ⟨0, []⟩)
    · rintro _ rfl outside ⟨entries, hdistinct⟩ ⟨seen, members, rfl⟩
      exact ⟨⟨(), rfl⟩, seen, _, rfl⟩
    · rintro _ rfl
      exact Effect.writesOnlyRead_overwrite _ "members" (.array ⟨0, []⟩)

/-- Two models on which an idle run does not end quiescent, though their effects are repeatable and
cannot fail: one writes blindly, the other hides a change behind an equal document. -/
theorem Runner.idle_is_not_quiescent :
    (∃ (valid : Bank → Prop) (built : Controller Unit), valid tugOfWar.bank ∧
      (∀ declaration ∈ tugOfWar.rules, declaration.body.IsReliable valid) ∧
      (ControllerSetup.standard.build tugOfWar ()).result = .ok built ∧
      ¬ Selector.roundRobin.StopsQuiescent built) ∧
    ∃ (valid : Bank → Prop) (built : Controller Unit), valid disguise.bank ∧
      (∀ declaration ∈ disguise.rules, declaration.body.IsReliable valid ∧
        ∀ effect, declaration.body.HasEffect effect → Effect.WritesOnlyRead (fun _ => True) effect) ∧
      (ControllerSetup.standard.build disguise ()).result = .ok built ∧
      ¬ Selector.roundRobin.StopsQuiescent built := by
  constructor
  · obtain ⟨built, hbuild⟩ : ∃ built,
        (ControllerSetup.standard.build tugOfWar ()).result = .ok built := ⟨_, rfl⟩
    refine ⟨_, built, ⟨0, rfl⟩, fun _ hmem => tugOfWar_isReliable hmem, hbuild, ?_⟩
    cases hbuild
    exact Runner.not_stopsQuiescent ⟨_, Selector.roundRobin, none, .standard⟩ (fun _ => ()) ⟨0, 0⟩ ()
      rfl rfl rfl rfl
  · obtain ⟨built, hbuild⟩ : ∃ built,
        (ControllerSetup.standard.build disguise ()).result = .ok built := ⟨_, rfl⟩
    refine ⟨_, built, ⟨_, _, rfl⟩, fun _ hmem => disguise_isReliable hmem, hbuild, ?_⟩
    cases hbuild
    exact Runner.not_stopsQuiescent ⟨_, Selector.roundRobin, none, .standard⟩ (fun _ => ()) ⟨0, 0⟩ ()
      rfl rfl rfl rfl

end TransitionEngine
