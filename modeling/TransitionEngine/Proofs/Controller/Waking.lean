import TransitionEngine.Proofs.Controller.Constants
import TransitionEngine.Proofs.Controller.Dormancy
import TransitionEngine.Proofs.Rule.Waking

/-!
# What wakes a sleeping instance

Some calls tell the rules that something may have changed: a commit says what, and whatever sets the
variables to a state says that it may be anything. All other calls leave every instance as it is, but for
the one that they fire. So an instance sleeps until a call tells of a change that touches what it sleeps
on, or what the domain of its family has read.
-/

namespace TransitionEngine

variable {Outside : Type}

namespace Controller

/-- The call tells the rules of these changes, on these variables. -/
inductive Reports (controller : Controller Outside) (outside : Outside) :
    Call Outside → Changeset → Bank → Prop
  | committed {call : Call Outside} {run : Run Unit}
      (hcommits : (Operation.call call).commits = true)
      (hattempt : call.attempt? controller outside = some run) (hsucceeded : run.outcome = .ok ())
      (hchanged : run.bank.save ≠ controller.current.state) :
      Reports controller outside call (.between controller.current.state run.bank.save) run.bank
  | probed {call : Call Outside} {run : Run Unit} {bank : Bank} (hprobe : call.isProbe = true)
      (hattempt : call.attempt? controller outside = some run)
      (hchanged : run.bank.save ≠ controller.current.state)
      (hrestore : run.bank.restore controller.current.state = .ok bank) :
      Reports controller outside call .everything bank
  | restored {index : Nat} {snapshot : Snapshot} {bank : Bank}
      (hentry : controller.history.entries[index]? = some snapshot)
      (hrestore : controller.bank.restore snapshot.state = .ok bank) :
      Reports controller outside (.restore index) .everything bank
  | replaced {state : SavedState} {bank : Bank}
      (hrestore : controller.bank.restore state = .ok bank) :
      Reports controller outside (.restoreState state) .everything bank
  | restarted (hsucceeded : (controller.runInit outside).outcome = .ok ()) :
      Reports controller outside .resetToStartingState .everything
        (controller.runInit outside).bank

/-- The call tells of a change that touches the readset, or what the domain of this instance's family has
read. -/
def Wakes (controller : Controller Outside) (outside : Outside) (call : Call Outside) (id : RuleId)
    (readset : NameSet) : Prop :=
  ∃ changes bank, controller.Reports outside call changes bank ∧
    (changes.affects readset = true ∨ ∃ ruleset,
      controller.rulesets[id.ruleset]? = some ruleset ∧ changes.affects ruleset.readset = true)

/-- The instance is awake and remembers no reads. Its name and its effect are those that it had. -/
def HasWoken (after : Controller Outside) (id : RuleId) (rule : Rule Outside) : Prop :=
  ∃ woken, after.rule? id = some woken ∧ woken.isActive = true ∧ woken.readset = none ∧
    woken.name = rule.name ∧ woken.effect = rule.effect

/-- There is a family at this position, and its domain was evaluated again on the variables as they are
after. It has one instance for each of the elements, and all of them are awake. -/
def RemakesFamily (before after : Controller Outside) (outside : Outside) (position : Nat) : Prop :=
  ∃ family next domain effect elements, before.rulesets[position]? = some family ∧
    family.body = .family domain effect ∧
    (domain outside).run after.bank ∅ = ⟨.ok elements, next.readset⟩ ∧
    after.rulesets[position]? = some next ∧ next.name = family.name ∧ next.body = family.body ∧
    next.rules = (List.range elements.length).map fun index =>
      { name := family.name ++ "(" ++ toString index ++ ")"
        isActive := true
        readset := none
        effect := effect index }

variable {entries : List VariableDeclaration} {controller : Controller Outside} {outside : Outside}
  {call : Call Outside}

/-- A rule that stands alone is no family. -/
theorem not_remakesFamily_of_single {after : Controller Outside} {position : Nat}
    {ruleset : Ruleset Outside} {effect : Outside → Effect Unit}
    (hruleset : controller.rulesets[position]? = some ruleset)
    (hsingle : ruleset.body = .single effect) :
    ¬controller.RemakesFamily after outside position := by
  rintro ⟨family, _, _, _, _, hfamily, hbody, -⟩
  obtain rfl := Option.some.inj (hfamily.symm.trans hruleset)
  cases hsingle.symm.trans hbody

/-! ### Which rulesets a call leaves -/

theorem exists_wouldChangeState {run : Run Unit} (hprobe : call.isProbe = true)
    (hattempt : call.attempt? controller outside = some run) :
    ∃ mutator, mutator.run controller.bank ∅ = run ∧
      call.perform controller outside =
        (controller.wouldChangeState outside mutator).controller := by
  cases call with
  | wouldChangeState mutator => exact ⟨mutator, Option.some.inj hattempt, rfl⟩
  | wouldFire id =>
      obtain ⟨rule, hrule, hrun⟩ := Option.map_eq_some_iff.1 hattempt
      refine ⟨rule.effect outside, hrun, ?_⟩
      rw [Call.perform, wouldFire, Controller.rule, hrule]
  | fire _ | fireByName _ | tryChangeState _ | restore _ | restoreState _ | resetToStartingState
  | checkInvariants => cases hprobe

/-- A probe whose change cannot be taken back tells no rule of it. -/
theorem wouldChangeState_of_stuck {mutator : Effect Unit} {run : Run Unit} {error : ValueError}
    (hrun : mutator.run controller.bank ∅ = run)
    (hrestore : run.bank.restore controller.current.state = .error error) (outside : Outside) :
    (controller.wouldChangeState outside mutator).controller = controller.withBank run.bank := by
  have hstuck : (controller.withBank run.bank).restoreState outside controller.current.state =
      ⟨.error (.value error), controller.withBank run.bank, []⟩ := restoreState_of_error hrestore
  rw [wouldChangeState, hrun]
  dsimp only
  rw [hstuck]
  split
  · rfl
  · split <;> rfl

/-- An entry that the variables cannot be set to is refused before any rule is told. -/
theorem rulesets_restore_of_error {index : Nat} {snapshot : Snapshot} {error : ValueError}
    (hentry : controller.history.entries[index]? = some snapshot)
    (hrestore : controller.bank.restore snapshot.state = .error error) (outside : Outside) :
    (controller.restore outside index).controller.rulesets = controller.rulesets := by
  obtain ⟨hindex, rfl⟩ := History.current_truncate_of_getElem? hentry
  have hcore : (controller.restore outside index).controller.core = _ :=
    core_restore controller outside hindex
  rw [hrestore] at hcore
  exact congrArg Core.rulesets hcore

section Declared

variable (hdeclares : controller.core.Declares entries)

include hdeclares

theorem rulesets_of_reports {changes : Changeset} {bank : Bank}
    (hreports : controller.Reports outside call changes bank) :
    (call.perform controller outside).bank = bank ∧
      (call.perform controller outside).rulesets =
        (Ruleset.reportAll changes outside bank controller.rulesets).2 := by
  cases hreports with
  | @committed _ run hcommits hattempt hsucceeded hchanged =>
      obtain ⟨outcome, houtcome, hsettles⟩ := settles_outcome hcommits controller outside
      rw [← Call.controller_outcome, houtcome]
      cases hsettles with
      | committed hattempt' _ _ description =>
          obtain rfl := Option.some.inj (hattempt'.symm.trans hattempt)
          exact ⟨bank_commit .., rulesets_commit ..⟩
      | kept hsame =>
          have hempty := hsame run hattempt hsucceeded
          exact absurd ((isEmpty_between_iff_of_declares hdeclares run.bank).1 hempty) hchanged
  | @probed _ run _ hprobe hattempt hchanged hrestore =>
      obtain ⟨mutator, hrun, hperform⟩ := exists_wouldChangeState hprobe hattempt
      have hdiffers :
          (Changeset.between controller.current.state run.bank.save).isEmpty = false :=
        Bool.eq_false_iff.2 (mt (isEmpty_between_iff_of_declares hdeclares run.bank).1 hchanged)
      obtain ⟨notices, -, hprobed⟩ := wouldChangeState_of_changed hrun hdiffers hrestore outside
      rw [hperform, hprobed]
      exact ⟨rfl, rfl⟩
  | @restored index _ _ hentry hrestore =>
      obtain ⟨hindex, rfl⟩ := History.current_truncate_of_getElem? hentry
      have hcore : (controller.restore outside index).controller.core = _ :=
        core_restore controller outside hindex
      rw [hrestore] at hcore
      exact ⟨congrArg Core.bank hcore, congrArg Core.rulesets hcore⟩
  | replaced hrestore =>
      rw [Call.perform, restoreState_eq_reportChanges hrestore]
      exact ⟨rfl, rfl⟩
  | restarted hsucceeded =>
      have hcore := core_resetToStartingState hsucceeded
      exact ⟨congrArg Core.bank hcore, congrArg Core.rulesets hcore⟩

section Silent

variable (hnone : ∀ changes bank, ¬controller.Reports outside call changes bank) {id : RuleId}

include hnone

theorem rule?_of_uncommitted (hcommits : (Operation.call call).commits = true)
    (hfires : call.fires? controller ≠ some id) :
    (call.perform controller outside).rule? id = controller.rule? id := by
  obtain ⟨outcome, houtcome, hsettles⟩ := settles_outcome hcommits controller outside
  rw [← Call.controller_outcome, houtcome]
  cases hsettles with
  | @committed run hattempt hsucceeded hdiffers _ =>
      have hchanged : run.bank.save ≠ controller.current.state :=
        mt (isEmpty_between_iff_of_declares hdeclares run.bank).2 (by simp [hdiffers])
      exact absurd (.committed hcommits hattempt hsucceeded hchanged) (hnone _ _)
  | kept _ _ hothers => exact hothers id hfires

theorem rule?_of_probed {run : Run Unit} (hprobe : call.isProbe = true)
    (hattempt : call.attempt? controller outside = some run) :
    (call.perform controller outside).rule? id = controller.rule? id := by
  obtain ⟨mutator, hrun, hperform⟩ := exists_wouldChangeState hprobe hattempt
  rw [hperform]
  cases hsame : (Changeset.between controller.current.state run.bank.save).isEmpty with
  | true =>
      rw [wouldChangeState_of_unchanged hrun hsame]
      rfl
  | false =>
      have hchanged : run.bank.save ≠ controller.current.state :=
        mt (isEmpty_between_iff_of_declares hdeclares run.bank).2 (by simp [hsame])
      cases hrestore : run.bank.restore controller.current.state with
      | ok bank => exact absurd (.probed hprobe hattempt hchanged hrestore) (hnone _ _)
      | error error =>
          rw [wouldChangeState_of_stuck hrun hrestore]
          rfl

/-- A call that tells of no change leaves every instance as it is but the one that it fires. -/
theorem rule?_of_not_reports (hfires : call.fires? controller ≠ some id) :
    (call.perform controller outside).rule? id = controller.rule? id := by
  cases call with
  | fire _ | fireByName _ | tryChangeState _ =>
      exact rule?_of_uncommitted hdeclares hnone rfl hfires
  | wouldChangeState mutator => exact rule?_of_probed hdeclares hnone rfl rfl
  | wouldFire tried =>
      cases hrule : controller.rule? tried with
      | none => rw [Call.perform, wouldFire, Controller.rule, hrule]
      | some rule =>
          have hattempt : (Call.wouldFire tried).attempt? controller outside =
              some ((rule.effect outside).run controller.bank ∅) := by
            rw [Call.attempt?, runRule?, hrule, Option.map_some]
          exact rule?_of_probed hdeclares hnone rfl hattempt
  | restore index =>
      rw [Call.perform]
      by_cases hindex : index < controller.history.length
      · have hentry := History.getElem?_entries_eq_current_truncate hindex
        cases hrestore : controller.bank.restore (controller.history.truncate index).current.state with
        | ok bank => exact absurd (.restored hentry hrestore) (hnone _ _)
        | error error =>
            rw [Controller.rule?, rulesets_restore_of_error hentry hrestore outside, Controller.rule?]
      · rw [restore, if_neg hindex]
  | restoreState state =>
      rw [Call.perform, restoreState]
      cases hrestore : controller.bank.restore state with
      | ok bank => exact absurd (.replaced hrestore) (hnone _ _)
      | error error => rfl
  | resetToStartingState =>
      rw [Call.perform, resetToStartingState, reset_model]
      cases hsucceeded : (controller.runInit outside).outcome with
      | ok _ => exact absurd (.restarted hsucceeded) (hnone _ _)
      | error error => rfl
  | checkInvariants => exact congrArg (Core.rule? · id) (core_checkInvariants controller outside)

end Silent

/-! ### Sleeping and waking -/

section Asleep

variable {id : RuleId} {rule : Rule Outside} {readset : NameSet}
  (hrule : controller.rule? id = some rule) (hread : rule.readset = some readset)

include hrule hread

/-- An instance sleeps on while it is not fired, and nothing is told that touches its reads. -/
theorem rule?_of_not_wakes (hfires : call.fires? controller ≠ some id)
    (hwakes : ¬controller.Wakes outside call id readset) :
    (call.perform controller outside).rule? id = some rule := by
  by_cases hreports : ∃ changes bank, controller.Reports outside call changes bank
  · obtain ⟨changes, bank, hreports⟩ := hreports
    obtain ⟨ruleset, hruleset, hrule⟩ := Option.bind_eq_some_iff.1 hrule
    have huntouched : changes.affects readset = false :=
      Bool.eq_false_iff.2 fun haffects => hwakes ⟨changes, bank, hreports, .inl haffects⟩
    have hdomain : changes.affects ruleset.readset = false := Bool.eq_false_iff.2 fun haffects =>
      hwakes ⟨changes, bank, hreports, .inr ⟨ruleset, hruleset, haffects⟩⟩
    obtain ⟨next, hnext, htold⟩ : ∃ next,
        (Ruleset.reportAll changes outside bank controller.rulesets).2[id.ruleset]? = some next ∧
          (next = ruleset ∨ ruleset.report changes outside bank = .ok next) :=
      Ruleset.exists_getElem?_reportAll hruleset
    rw [Controller.rule?, (rulesets_of_reports hdeclares hreports).2, hnext, Option.bind_some]
    rcases htold with rfl | hreport
    · exact hrule
    · exact Ruleset.kept_of_report hreport hrule hread huntouched hdomain
  · have hnone : ∀ changes bank, ¬controller.Reports outside call changes bank :=
      fun changes bank hreport => hreports ⟨changes, bank, hreport⟩
    rw [rule?_of_not_reports hdeclares hnone hfires, hrule]

/-- Where no domain fails, an instance is woken by what touches its reads, or made anew with its
family. -/
theorem woken_of_wakes (hasleep : rule.isActive = false)
    (hdomains : (Operation.call call).DomainsSucceed controller outside)
    (hwakes : controller.Wakes outside call id readset) :
    (call.perform controller outside).HasWoken id rule ∨
      controller.RemakesFamily (call.perform controller outside) outside id.ruleset := by
  obtain ⟨changes, bank, hreports, htouches⟩ := hwakes
  obtain ⟨hbank, hrulesets⟩ := rulesets_of_reports hdeclares hreports
  obtain ⟨ruleset, hruleset, hrule⟩ := Option.bind_eq_some_iff.1 hrule
  -- No ruleset before this one keeps the report from it.
  have htold : ∀ other ∈ controller.rulesets,
      ∃ told, other.report changes outside bank = .ok told := by
    intro other hmem
    have hdomain := hdomains other hmem
    rw [Operation.outcome, Call.controller_outcome, hbank] at hdomain
    exact Ruleset.exists_report hdomain rfl outside
  obtain ⟨next, hreport⟩ := htold ruleset (List.mem_of_getElem? hruleset)
  have hnext := Ruleset.getElem?_reportAll_of_told hruleset
    (fun other hmem => htold other (List.mem_of_mem_take hmem)) hreport
  rw [← hrulesets] at hnext
  have htouches : changes.affects readset = true ∨ changes.affects ruleset.readset = true := by
    refine htouches.imp_right ?_
    rintro ⟨found, hfound, haffects⟩
    obtain rfl := Option.some.inj (hfound.symm.trans hruleset)
    exact haffects
  rcases Ruleset.woken_of_report hreport hrule hread hasleep htouches with
    hwoken | ⟨⟨domain, effect, hbody⟩, hremade⟩
  · left
    have hafter : (call.perform controller outside).rule? id = some rule.wake := by
      rw [Controller.rule?, hnext, Option.bind_some, hwoken]
    exact ⟨rule.wake, hafter, rfl, rfl, rfl, rfl⟩
  · right
    obtain ⟨elements, houtcome, rfl⟩ := Ruleset.exists_elements_of_regenerate hbody hremade
    refine ⟨ruleset, _, domain, effect, elements, hruleset, hbody, ?_, hnext, rfl, rfl, rfl⟩
    rw [hbank, ← houtcome]

end Asleep

/-- A change that touches nothing that is cached in a ruleset leaves the ruleset as it is. -/
theorem getElem?_rulesets_of_untouched {changes : Changeset} {bank : Bank}
    (hreports : controller.Reports outside call changes bank) {position : Nat}
    {ruleset : Ruleset Outside} (hruleset : controller.rulesets[position]? = some ruleset)
    (hsound : ruleset.IsSound) (hdomain : changes.affects ruleset.readset = false)
    (huntouched : ∀ rule ∈ ruleset.rules, ∀ readset, rule.readset = some readset →
      changes.affects readset = false) :
    (call.perform controller outside).rulesets[position]? = some ruleset := by
  obtain ⟨next, hnext, htold⟩ : ∃ next,
      (Ruleset.reportAll changes outside bank controller.rulesets).2[position]? = some next ∧
        (next = ruleset ∨ ruleset.report changes outside bank = .ok next) :=
    Ruleset.exists_getElem?_reportAll hruleset
  rw [(rulesets_of_reports hdeclares hreports).2, hnext]
  rcases htold with rfl | hreport
  · rfl
  · rw [hsound.report_eq_self hdomain huntouched outside bank] at hreport
    rw [Except.ok.inj hreport]

end Declared

/-- An instance that sleeps is left as it is until it is fired or a call wakes it. Such a call makes it
active again, or makes its family anew, whatever the call then returns. An entry that the variables cannot
be set to wakes no instance. And whatever a call tells of, a ruleset in which nothing is cached that this
touches stays as it is. -/
theorem sleeps_until_woken {setup : ControllerSetup Outside} {model : Model Outside}
    {built slept : Controller Outside} (hbuild : (setup.build model outside).result = .ok built)
    {permitted : Call Outside → Controller Outside → Outside → Prop}
    (hslept : Reaches permitted built slept) {id : RuleId} {rule : Rule Outside}
    {readset : NameSet} (hrule : slept.rule? id = some rule) (hread : rule.readset = some readset)
    (hreached : Reaches (fun call controller outside => call.fires? controller ≠ some id ∧
      ¬controller.Wakes outside call id readset) slept controller) :
    rule.isActive = false ∧ controller.rule? id = some rule ∧
      (∀ call outside, (Operation.call call).DomainsSucceed controller outside →
        controller.Wakes outside call id readset →
          (call.perform controller outside).HasWoken id rule ∨
            controller.RemakesFamily (call.perform controller outside) outside id.ruleset) ∧
      (∀ outside index snapshot error, controller.history.entries[index]? = some snapshot →
        controller.bank.restore snapshot.state = .error error →
          (controller.restore outside index).controller.rulesets = controller.rulesets) ∧
      ∀ call outside changes bank, controller.Reports outside call changes bank →
        ∀ (position : Nat) (ruleset : Ruleset Outside),
          controller.rulesets[position]? = some ruleset →
          changes.affects ruleset.readset = false →
          (∀ cached ∈ ruleset.rules, ∀ readset, cached.readset = some readset →
            changes.affects readset = false) →
          (call.perform controller outside).rulesets[position]? = some ruleset := by
  have hrules : slept.core.HasRulesOf model.rules :=
    hasRulesOf_of_reaches (hasRulesOf_of_build hbuild).1 hslept
  have hdeclares : slept.core.Declares model.bank.declarations :=
    declares_of_reaches (declares_of_build hbuild) hslept
  have hasleep : rule.isActive = false := by
    rw [(hrules.of_rule? hrule).2, hread]
    rfl
  have hkept : controller.rule? id = some rule := by
    induction hreached with
    | start => exact hrule
    | call hreached call outside hpasses ih =>
        exact rule?_of_not_wakes (declares_of_reaches hdeclares hreached) ih hread hpasses.1
          hpasses.2
  have hdeclares := declares_of_reaches hdeclares hreached
  refine ⟨hasleep, hkept, fun call outside hdomains hwakes => ?_,
    fun outside index snapshot error hentry hrestore => ?_, ?_⟩
  · exact woken_of_wakes hdeclares hkept hread hasleep hdomains hwakes
  · exact rulesets_restore_of_error hentry hrestore outside
  · intro call outside changes bank hreports position ruleset hruleset hdomain huntouched
    have hsound : ruleset.IsSound :=
      (hasRulesOf_of_reaches hrules hreached ruleset (List.mem_of_getElem? hruleset)).2
    exact getElem?_rulesets_of_untouched hdeclares hreports hruleset hsound hdomain huntouched

/-- Sets the level in place, even to one that is above the brim. -/
def fillTank (level : Int64) : Effect (Option String) :=
  .update "level" (fun _ => .number level) fun _ => .done (.ok none)

/-- The empty tank is drained in vain. -/
def drained (built : Controller Unit) : Controller Unit :=
  (Call.fire ⟨0, 0⟩).perform built ()

def armed (built : Controller Unit) : Controller Unit :=
  (Call.fire ⟨1, 0⟩).perform (drained built) ()

section Tank

variable {built : Controller Unit}
  (hbuild : (ControllerSetup.standard.build tank ()).result = .ok built)

include hbuild

theorem exists_asleep_drained : ∃ drain rule, (drained built).rulesets[0]? = some drain ∧
    drain.readset = ∅ ∧ drain.rules = [rule] ∧ (drained built).rule? ⟨0, 0⟩ = some rule ∧
    rule.readset = some (.ofList ["level"]) := by
  cases hbuild
  exact ⟨_, _, rfl, rfl, rfl, rfl, rfl⟩

/-- Arming the alarm does not touch the level. -/
theorem not_wakes_arm :
    ¬(drained built).Wakes () (.fire ⟨1, 0⟩) ⟨0, 0⟩ (.ofList ["level"]) := by
  rintro ⟨changes, bank, hreports, htouches⟩
  cases hreports with
  | committed _ hattempt _ _ =>
      cases hbuild
      obtain rfl := Option.some.inj hattempt
      rcases htouches with haffects | ⟨ruleset, hruleset, haffects⟩
      · cases haffects
      · obtain rfl := Option.some.inj hruleset
        cases haffects
  | probed hprobe => cases hprobe

theorem wakes_fill :
    (armed built).Wakes () (.tryChangeState (fillTank 5)) ⟨0, 0⟩ (.ofList ["level"]) := by
  cases hbuild
  refine ⟨_, _, .committed rfl rfl rfl fun hsame => ?_, .inl rfl⟩
  cases congrArg (SavedState.get? · "level") hsame

theorem reports_arm : ∃ changes bank, (drained built).Reports () (.fire ⟨1, 0⟩) changes bank ∧
    changes.affects ∅ = false ∧ changes.affects (.ofList ["level"]) = false := by
  cases hbuild
  refine ⟨_, _, .committed rfl rfl rfl fun hsame => ?_, rfl, rfl⟩
  cases congrArg (SavedState.get? · "alarm") hsame

theorem domainsSucceed_fill :
    (Operation.call (.tryChangeState (fillTank 5))).DomainsSucceed (armed built) () := by
  cases hbuild
  intro ruleset hmem
  rcases List.mem_pair.1 hmem with rfl | rfl <;> trivial

theorem not_remakesFamily_fill (after : Controller Unit) :
    ¬(armed built).RemakesFamily after () 0 := by
  cases hbuild
  exact not_remakesFamily_of_single rfl rfl

end Tank

/-- The drain sleeps on the level while the alarm is armed, until the tank is filled. -/
theorem sleeps_until_woken_tank :
    ∃ built, (ControllerSetup.standard.build tank ()).result = .ok built ∧
      (armed built).rulesets[0]? = (drained built).rulesets[0]? ∧
      ∃ rule, (drained built).rule? ⟨0, 0⟩ = some rule ∧ rule.isActive = false ∧
        (armed built).rule? ⟨0, 0⟩ = some rule ∧
        ((Call.tryChangeState (fillTank 5)).perform (armed built) ()).HasWoken ⟨0, 0⟩ rule := by
  obtain ⟨built, hbuild⟩ :
      ∃ built, (ControllerSetup.standard.build tank ()).result = .ok built := ⟨_, rfl⟩
  obtain ⟨drain, rule, hdrain, hnothing, honly, hrule, hread⟩ := exists_asleep_drained hbuild
  have hslept : Reaches (fun _ _ _ => True) built (drained built) :=
    Reaches.start.call (.fire ⟨0, 0⟩) () trivial
  have hfires : (Call.fire ⟨1, 0⟩).fires? (drained built) ≠ some ⟨0, 0⟩ := by
    simp [Call.fires?]
  obtain ⟨hasleep, hkept, hwoken, -⟩ := sleeps_until_woken hbuild hslept hrule hread
    (Reaches.start.call (.fire ⟨1, 0⟩) () ⟨hfires, not_wakes_arm hbuild⟩)
  obtain ⟨-, -, -, -, hstays⟩ := sleeps_until_woken hbuild hslept hrule hread .start
  obtain ⟨changes, bank, hreports, hdomain, huntouched⟩ := reports_arm hbuild
  refine ⟨built, hbuild, ?_, rule, hrule, hasleep, hkept, ?_⟩
  · rw [hdrain]
    refine hstays _ () changes bank hreports 0 drain hdrain ?_ fun cached hmem readset hcached => ?_
    · rw [hnothing, hdomain]
    · rw [honly] at hmem
      rw [List.mem_singleton.1 hmem, hread] at hcached
      rw [← Option.some.inj hcached, huntouched]
  · exact (hwoken _ () (domainsSucceed_fill hbuild) (wakes_fill hbuild)).resolve_right
      (not_remakesFamily_fill hbuild _)

/-- The alarm is armed twice, the second time in vain, and then the tank is filled above the brim. -/
def overfilled (built : Controller Unit) : Controller Unit :=
  let alarmed := (Call.fire ⟨1, 0⟩).perform ((Call.fire ⟨1, 0⟩).perform built ()) ()
  (Call.tryChangeState (fillTank 11)).perform alarmed ()

/-- The overfilled tank is in the history, but the variables cannot be set to it again. Going back to it
wakes nothing, and the rule that arms the alarm sleeps on. -/
theorem sleeps_through_restore :
    ∃ built rule, (ControllerSetup.standard.build tank ()).result = .ok built ∧
      (∃ snapshot, (overfilled built).history.entries[2]? = some snapshot) ∧
      (overfilled built).rule? ⟨1, 0⟩ = some rule ∧ rule.isActive = false ∧
      rule.readset = some (.ofList ["alarm"]) ∧
      let restored := (Call.restore 2).perform (overfilled built) ()
      (Operation.call (.restore 2)).DomainsSucceed (overfilled built) () ∧
        restored.rule? ⟨1, 0⟩ = some rule ∧ ¬restored.HasWoken ⟨1, 0⟩ rule ∧
        ¬(overfilled built).RemakesFamily restored () 1 := by
  refine ⟨_, _, rfl, ⟨_, rfl⟩, rfl, rfl, rfl, ?_, rfl, ?_, not_remakesFamily_of_single rfl rfl⟩
  · intro ruleset hmem
    rcases List.mem_pair.1 hmem with rfl | rfl <;> trivial
  · rintro ⟨woken, hwoken, hactive, -⟩
    obtain rfl := Option.some.inj hwoken
    cases hactive

end Controller

end TransitionEngine
