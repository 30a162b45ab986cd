import TransitionEngine.Proofs.Controller.Attribution
import TransitionEngine.Proofs.Controller.Committing
import TransitionEngine.Proofs.Runner.Stepping

/-!
# The last round

When no active instance could change anything, a run finds this out in one round. Each step puts the
instance that it fires to sleep and wakes none, since nothing is committed: so there is one candidate
less after every step, each active instance is fired once in whatever order, and then the run is idle.
-/

namespace TransitionEngine

variable {Outside State α : Type}

/-- A notion of two banks being the same, under which they are saved the same. -/
structure Bank.IsSameness (same : Bank → Bank → Prop) : Prop where
  equivalence : Equivalence same
  save_eq {left right : Bank} (hsame : same left right) : left.save = right.save

theorem Bank.isSameness_eq : IsSameness Eq :=
  ⟨eq_equivalence, congrArg save⟩

theorem Bank.isSameness_agree : IsSameness Agree :=
  ⟨⟨AgreeOn.refl, Agree.symm, Agree.trans⟩, Agree.save_eq⟩

/-- On banks that are the same the effect comes to the same, and leaves the same behind, whatever the
outside. -/
def Effect.IsDeterministicUpTo (same : Bank → Bank → Prop) (effect : Outside → Effect α) : Prop :=
  ∀ outside outside' left right, same left right →
    ((effect outside).run left ∅).outcome = ((effect outside').run right ∅).outcome ∧
      same ((effect outside).run left ∅).bank ((effect outside').run right ∅).bank

theorem RuleId.Ascending.nodup {ids : List RuleId} (hascending : Ascending ids) : ids.Nodup :=
  hascending.imp fun hbefore heq => by
    rw [heq, before_self] at hbefore
    cases hbefore

/-- Ascending lists of the same ids are the same. -/
theorem RuleId.Ascending.eq_of_mem_iff {left right : List RuleId} (hleft : Ascending left)
    (hright : Ascending right) (hmem : ∀ id, id ∈ left ↔ id ∈ right) : left = right := by
  have hperm : left.Perm right :=
    (List.perm_ext_iff_of_nodup hleft.nodup hright.nodup).2 hmem
  refine hperm.eq_of_pairwise (fun first second _ _ hbefore hafter => ?_) hleft hright
  have hself := before_trans hbefore hafter
  rw [before_self] at hself
  cases hself

namespace Controller

/-- The live state is that of the current entry, and the active instances, which are deterministic, all
succeed and leave the variables the same. -/
structure IsAtRest (same : Bank → Bank → Prop) (controller : Controller Outside) : Prop where
  live : controller.saveState = controller.current.state
  deterministic {id : RuleId} {rule : Rule Outside} (hrule : controller.rule? id = some rule)
    (hactive : rule.isActive = true) : Effect.IsDeterministicUpTo same rule.effect
  unchanged {id : RuleId} (hmem : id ∈ controller.activeRules) : ∃ outside changes,
    (controller.fire outside id).result = .ok changes ∧
      same controller.bank (controller.fire outside id).controller.bank

theorem rule?_sleepRule_self (controller : Controller Outside) (id : RuleId) (readset : NameSet) :
    (controller.sleepRule id readset).rule? id =
      (controller.rule? id).map (·.sleep readset) := by
  rw [rule?, rule?, Controller.sleepRule]
  dsimp only
  rw [List.getElem?_modify_eq]
  cases controller.rulesets[id.ruleset]? with
  | none => rfl
  | some ruleset => exact List.getElem?_modify_eq ..

/-- Firing the active instance succeeds and does nothing but put it to sleep: the active instances are
those from before without this one. -/
structure FiresToSleep (same : Bank → Bank → Prop) (controller : Controller Outside)
    (outside : Outside) (id : RuleId) : Prop where
  active : id ∈ controller.activeRules
  result : (controller.fire outside id).result = .ok .none
  slept : ∃ bank readset, same controller.bank bank ∧
    (controller.fire outside id).controller = (controller.withBank bank).sleepRule id readset
  activeRules : (controller.fire outside id).controller.activeRules = controller.activeRules.erase id

/-- Putting an instance to sleep takes it from the active ones, and no other. -/
theorem activeRules_sleepRule (controller : Controller Outside) (id : RuleId) (readset : NameSet) :
    (controller.sleepRule id readset).activeRules = controller.activeRules.erase id := by
  have hascending := controller.ascending_activeRules
  refine (ascending_activeRules _).eq_of_mem_iff (hascending.sublist List.erase_sublist) ?_
  intro other
  rw [hascending.nodup.mem_erase_iff, mem_activeRules_iff, mem_activeRules_iff]
  by_cases heq : other = id
  · subst heq
    refine iff_of_false ?_ fun hother => hother.1 rfl
    rintro ⟨sleeping, hsleeping, hactive⟩
    rw [rule?_sleepRule_self] at hsleeping
    obtain ⟨rule, -, rfl⟩ := Option.map_eq_some_iff.1 hsleeping
    cases hactive
  · rw [rule?_sleepRule_of_ne controller heq, and_iff_right heq]

section Rest

variable {same : Bank → Bank → Prop} {controller : Controller Outside} {id : RuleId}

/-- A firing whose effect succeeds leaves the variables as the effect does. -/
theorem bank_of_fire {outside : Outside} {rule : Rule Outside} {run : Run Unit}
    (hrule : controller.rule? id = some rule)
    (hrun : (rule.effect outside).run controller.bank ∅ = run) (hsucceeded : run.outcome = .ok ()) :
    (controller.fire outside id).controller.bank = run.bank := by
  cases hsame : (Changeset.between controller.current.state run.bank.save).isEmpty with
  | true =>
      rw [fire_of_unchanged hrule hrun hsucceeded hsame]
      rfl
  | false =>
      obtain ⟨message, hcore⟩ := core_fire_of_changed hrule hrun hsucceeded hsame
      exact congrArg Core.bank hcore

namespace IsAtRest

variable (hrest : controller.IsAtRest same) (hsame : Bank.IsSameness same)

include hrest hsame

/-- Also on another bank that is the same, and whatever the outside, an active instance leaves the
variables the same. -/
theorem run_active {rule : Rule Outside} (hrule : controller.rule? id = some rule)
    (hactive : rule.isActive = true) {bank : Bank} (hbank : same controller.bank bank)
    (outside : Outside) :
    ((rule.effect outside).run bank ∅).outcome = .ok () ∧
      same controller.bank ((rule.effect outside).run bank ∅).bank := by
  obtain ⟨seen, changes, hfired, hkept⟩ :=
    hrest.unchanged (mem_activeRules_iff.2 ⟨rule, hrule, hactive⟩)
  have hsucceeded := outcome_of_fire hrule rfl hfired
  obtain ⟨houtcome, hbanks⟩ := hrest.deterministic hrule hactive seen outside _ _ hbank
  rw [bank_of_fire hrule rfl hsucceeded] at hkept
  exact ⟨houtcome ▸ hsucceeded, hsame.equivalence.trans hkept hbanks⟩

theorem firesToSleep (hmem : id ∈ controller.activeRules) (outside : Outside) :
    controller.FiresToSleep same outside id := by
  obtain ⟨rule, hrule, hactive⟩ := mem_activeRules_iff.1 hmem
  obtain ⟨hsucceeded, hbank⟩ := hrest.run_active hsame hrule hactive
    (hsame.equivalence.refl _) outside
  have hempty : (Changeset.between controller.current.state
      ((rule.effect outside).run controller.bank ∅).bank.save).isEmpty = true := by
    rw [← hrest.live]
    exact Bank.isEmpty_between_save_iff.2 (hsame.save_eq hbank)
  have hfired := fire_of_unchanged hrule rfl hsucceeded hempty
  rw [Changeset.eq_none_of_isEmpty hempty] at hfired
  refine ⟨hmem, congrArg Outcome.result hfired, ⟨_, _, hbank, congrArg _ hfired⟩, ?_⟩
  rw [hfired, activeRules_sleepRule]
  rfl

/-- The others would still change nothing after one of them was put to sleep. -/
theorem sleepRule {bank : Bank} (hbank : same controller.bank bank) (readset : NameSet) :
    ((controller.withBank bank).sleepRule id readset).IsAtRest same := by
  have hlive : ((controller.withBank bank).sleepRule id readset).saveState =
      ((controller.withBank bank).sleepRule id readset).current.state :=
    (hsame.save_eq hbank).symm.trans hrest.live
  have hawake {other : RuleId} {rule : Rule Outside}
      (hrule : ((controller.withBank bank).sleepRule id readset).rule? other = some rule)
      (hactive : rule.isActive = true) : controller.rule? other = some rule := by
    have hmem := mem_activeRules_iff.2 ⟨rule, hrule, hactive⟩
    rw [activeRules_sleepRule, (ascending_activeRules _).nodup.mem_erase_iff] at hmem
    rw [rule?_sleepRule_of_ne _ hmem.1] at hrule
    exact hrule
  refine ⟨hlive, fun hrule hactive => hrest.deterministic (hawake hrule hactive) hactive, ?_⟩
  intro other hmem
  obtain ⟨rule, hrule, hactive⟩ := mem_activeRules_iff.1 hmem
  obtain ⟨outside, -⟩ :=
    hrest.unchanged (mem_activeRules_iff.2 ⟨rule, hawake hrule hactive, hactive⟩)
  obtain ⟨hsucceeded, hleft⟩ := hrest.run_active hsame (hawake hrule hactive) hactive hbank outside
  have hempty : (Changeset.between
      ((controller.withBank bank).sleepRule id readset).current.state
      ((rule.effect outside).run bank ∅).bank.save).isEmpty = true := by
    rw [← hlive]
    exact Bank.isEmpty_between_save_iff.2
      ((hsame.save_eq hbank).symm.trans (hsame.save_eq hleft))
  have hfired := fire_of_unchanged hrule rfl hsucceeded hempty
  refine ⟨outside, _, congrArg Outcome.result hfired, ?_⟩
  rw [hfired]
  exact hsame.equivalence.trans (hsame.equivalence.symm hbank) hleft

end IsAtRest

/-- The history, the rules and what the last check found are kept. -/
theorem kept_of_firesToSleep {outside : Outside} (hfires : controller.FiresToSleep same outside id) :
    let fired := (controller.fire outside id).controller
    fired.history = controller.history ∧
      fired.rulesets.map Ruleset.awake = controller.rulesets.map Ruleset.awake ∧
      fired.invariantsHold = controller.invariantsHold := by
  obtain ⟨bank, readset, -, hslept⟩ := hfires.slept
  dsimp only
  rw [hslept]
  exact ⟨rfl, Core.map_awake_sleep controller.core id readset, rfl⟩

end Rest

end Controller

namespace Runner

variable {runner : Runner Outside State} {same : Bank → Bank → Prop} {outside : Nat → Outside}
  {count : Nat}

/-- So many steps were taken, each of which fired another of the active instances, and all that came of
them is that these sleep. -/
structure IsInRound (same : Bank → Bank → Prop) (runner : Runner Outside State)
    (outside : Nat → Outside) (count : Nat) : Prop where
  goesOn : runner.GoesOn outside count
  tally : runner.tallyAt outside count =
    ⟨count, 0, .ofList [runner.controller.current.state.fingerprint], false⟩
  rest : (runner.after outside count).controller.IsAtRest same
  bank : same runner.controller.bank (runner.after outside count).controller.bank
  history : (runner.after outside count).controller.history = runner.controller.history
  rulesets : (runner.after outside count).controller.rulesets.map Ruleset.awake =
    runner.controller.rulesets.map Ruleset.awake
  invariantsHold : (runner.after outside count).controller.invariantsHold = true
  picks : ((List.range count).map (runner.pickAt outside) ++
      (runner.after outside count).controller.activeRules.map some).Perm
    (runner.controller.activeRules.map some)

/-- The active instances become fewer by one with every step. -/
theorem IsInRound.length_activeRules (hround : runner.IsInRound same outside count) :
    count + (runner.after outside count).controller.activeRules.length =
      runner.controller.activeRules.length := by
  simpa using hround.picks.length_eq

section Round

variable (hsame : Bank.IsSameness same) (hprovided : runner.selector.IsProvided)

include hsame hprovided

/-- As long as an instance is active, the next step fires one to sleep. -/
theorem IsInRound.exists_pick (hround : runner.IsInRound same outside count)
    (hcount : count < runner.controller.activeRules.length) : ∃ id,
      runner.pickAt outside count = some id ∧
      (runner.after outside count).controller.FiresToSleep same (outside count) id ∧
      (runner.after outside (count + 1)).controller =
        ((runner.after outside count).controller.fire (outside count) id).controller ∧
      runner.progressAt outside count = .counted false [] := by
  cases hpick : runner.pickAt outside count with
  | none =>
      have heager := hprovided.isEager
      rw [← selector_after count] at heager
      have hlength := hround.length_activeRules
      rw [heager _ _ _ hpick, List.length_nil] at hlength
      omega
  | some id =>
      have hfaithful := hprovided.isFaithful
      rw [← selector_after count] at hfaithful
      obtain ⟨rule, hrule, -⟩ := exists_rule_of_choice hfaithful hpick
      have hfires := hround.rest.firesToSleep hsame (hfaithful _ _ _ _ hpick) (outside count)
      obtain ⟨hresult, hrunner, -⟩ := step_of_rule hpick hrule (outside count)
      refine ⟨id, rfl, hfires, congrArg Runner.controller hrunner, ?_⟩
      rw [progressAt, stepAt, hresult, hfires.result]
      rfl

theorem IsInRound.succ (hround : runner.IsInRound same outside count)
    (hcount : count < runner.controller.activeRules.length) :
    runner.IsInRound same outside (count + 1) := by
  obtain ⟨id, hpick, hfires, hcontroller, hprogress⟩ := hround.exists_pick hsame hprovided hcount
  obtain ⟨bank, readset, hbank, hslept⟩ := hfires.slept
  obtain ⟨hhistory, hrulesets, hinvariants⟩ := Controller.kept_of_firesToSleep hfires
  rw [← hcontroller] at hslept hhistory hrulesets hinvariants
  have hholds := hinvariants.trans hround.invariantsHold
  have hhistory := hhistory.trans hround.history
  refine ⟨hround.goesOn.succ ⟨_, _, hprogress⟩ ?_, ?_, ?_, ?_, hhistory,
    hrulesets.trans hround.rulesets, hholds, ?_⟩
  · rw [stopsAt, hholds, Bool.not_true, Bool.and_false]
  · have hseen (print : String) :
        (NameSet.ofList [print]).insert print = NameSet.ofList [print] := by
      ext name
      simp
    have hcurrent : (runner.after outside (count + 1)).controller.current =
        runner.controller.current := congrArg History.current hhistory
    rw [tallyAt, hround.tally, hprogress, Tally.count, hholds, hcurrent]
    exact congrArg (Tally.mk (count + 1) 0 · false) (hseen _)
  · rw [hslept]
    exact hround.rest.sleepRule hsame hbank readset
  · rw [hslept]
    exact hsame.equivalence.trans hround.bank hbank
  · have herase := (List.perm_cons_erase hfires.active).symm.map some
    rw [List.map_cons] at herase
    rw [hcontroller, hfires.activeRules, List.range_succ, List.map_append, List.map_singleton, hpick,
      List.append_assoc, List.singleton_append]
    exact (herase.append_left _).trans hround.picks

theorem isInRound (hrest : runner.controller.IsAtRest same)
    (hholds : runner.controller.invariantsHold = true)
    (hcount : count ≤ runner.controller.activeRules.length) :
    runner.IsInRound same outside count := by
  induction count with
  | zero =>
      exact ⟨fun _ hstep => absurd hstep (Nat.not_lt_zero _), rfl, hrest, hsame.equivalence.refl _, rfl,
        rfl, hholds, .refl _⟩
  | succ count ih => exact (ih (Nat.le_of_succ_le hcount)).succ hsame hprovided hcount

end Round

/-- When no active instance could change anything, a run that may take more steps than there are active
instances ends in one round. Each step fires one of them to sleep, in whatever order, and each is fired
once. Then the run is idle, with the variables, the history and the instances as they were, except that
now all of them sleep. -/
theorem run_ends_in_one_round (hsame : Bank.IsSameness same)
    (hprovided : runner.selector.IsProvided) (hrest : runner.controller.IsAtRest same)
    (hholds : runner.controller.invariantsHold = true)
    (hmore : runner.controller.activeRules.length < runner.config.maxSteps)
    (outside : Nat → Outside) :
    let active := runner.controller.activeRules
    let left := (runner.run outside).runner.controller
    (runner.run outside).result = .ok
        { steps := active.length, transitions := 0, idle := true, distinctStates := 1,
          violated := false } ∧
      (active.Nodup ∧
        ((List.range active.length).map (runner.pickAt outside)).Perm (active.map some)) ∧
      (same runner.controller.bank left.bank ∧ left.history = runner.controller.history ∧
        left.rulesets.map Ruleset.awake = runner.controller.rulesets.map Ruleset.awake ∧
        ∀ id rule, left.rule? id = some rule → rule.isActive = false) ∧
      ∀ step < active.length, ∃ id, runner.pickAt outside step = some id ∧
        (runner.after outside step).controller.FiresToSleep same (outside step) id ∧
        (runner.after outside (step + 1)).controller =
          ((runner.after outside step).controller.fire (outside step) id).controller := by
  intro active left
  have hround : runner.IsInRound same outside active.length :=
    isInRound hsame hprovided hrest hholds (Nat.le_refl _)
  have hnone : (runner.after outside active.length).controller.activeRules = [] :=
    List.length_eq_zero_iff.1 (Nat.add_eq_left.1 hround.length_activeRules)
  have hpicks := hround.picks
  rw [hnone, List.map_nil, List.append_nil] at hpicks
  have hidle : runner.progressAt outside active.length = .idle := by
    have hfaithful := hprovided.isFaithful
    rw [← selector_after active.length] at hfaithful
    have hstops : (runner.after outside active.length).choice.1 = none :=
      Option.eq_none_iff_forall_ne_some.2 fun id hpick => by
        have hmem := hfaithful _ _ _ _ hpick
        rw [hnone] at hmem
        cases hmem
    rw [progressAt, stepAt, step_of_none hstops]
    rfl
  obtain ⟨hresult, hleft⟩ := run_of_idle hround.goesOn hmore hidle
  refine ⟨?_, ⟨(Controller.ascending_activeRules _).nodup, hpicks⟩, ?_, fun step hstep => ?_⟩
  · rw [hresult, hround.tally]
    rfl
  · change left = _ at hleft
    rw [hleft]
    refine ⟨hround.bank, hround.history, hround.rulesets, fun id rule hrule => ?_⟩
    rw [Bool.eq_false_iff]
    intro hactive
    have hmem := Controller.mem_activeRules_iff.2 ⟨rule, hrule, hactive⟩
    rw [hnone] at hmem
    cases hmem
  · have hbefore : runner.IsInRound same outside step :=
      isInRound hsame hprovided hrest hholds (Nat.le_of_lt hstep)
    obtain ⟨id, hpick, hfires, hcontroller, -⟩ := hbefore.exists_pick hsame hprovided hstep
    exact ⟨id, hpick, hfires, hcontroller⟩

/-- The dial stands where it would be turned back to. Looking at it and turning it back take one step
each, whichever was picked last. -/
theorem run_ends_in_one_round_dial : ∃ built : Controller Unit,
    (ControllerSetup.standard.build Controller.dial ()).result = .ok built ∧
      let runner : Runner Unit (Option RuleId) :=
        ⟨built, Selector.roundRobin, some ⟨0, 0⟩, .standard⟩
      (runner.run fun _ => ()).result = .ok ⟨2, 0, true, 1, false⟩ ∧
        ([0, 1].map (runner.pickAt fun _ => ())).Perm [some ⟨0, 0⟩, some ⟨1, 0⟩] := by
  obtain ⟨built, hbuild⟩ :
      ∃ built, (ControllerSetup.standard.build Controller.dial ()).result = .ok built := ⟨_, rfl⟩
  let runner : Runner Unit (Option RuleId) := ⟨built, Selector.roundRobin, some ⟨0, 0⟩, .standard⟩
  have hprovided : runner.selector.IsProvided := .roundRobin
  have hrest : runner.controller.IsAtRest Bank.Agree := by
    refine ⟨?_, fun {id rule} hrule _ => ?_, fun {id} hmem => ?_⟩
    · cases hbuild
      rfl
    · obtain ⟨⟨declaration, hdeclaration, heffect⟩, -⟩ :=
        (Controller.hasRulesOf_of_build hbuild).1.of_rule? hrule
      exact (Controller.isDeterministic_dial.rules hdeclaration).effects heffect
    · cases hbuild
      rcases List.mem_pair.1 hmem with rfl | rfl
      · exact ⟨(), _, rfl, .of_eq rfl⟩
      · exact ⟨(), _, rfl, .of_eq rfl⟩
  have hholds : runner.controller.invariantsHold = true := by
    cases hbuild
    rfl
  have hactive : runner.controller.activeRules = [⟨0, 0⟩, ⟨1, 0⟩] := by
    cases hbuild
    rfl
  have hmore : runner.controller.activeRules.length < runner.config.maxSteps := by
    rw [hactive]
    change 2 < RunConfig.standard.maxSteps
    decide
  obtain ⟨hresult, ⟨-, hpicks⟩, -⟩ :=
    run_ends_in_one_round Bank.isSameness_agree hprovided hrest hholds hmore fun _ => ()
  rw [hactive] at hresult hpicks
  exact ⟨built, hbuild, hresult, hpicks⟩

end Runner

end TransitionEngine
