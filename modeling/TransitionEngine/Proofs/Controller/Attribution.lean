import TransitionEngine.Proofs.Controller.Accounts
import TransitionEngine.Proofs.Controller.Determinism

/-!
# What a firing is told to have changed

A firing is told what differs from the current entry of the history, and not from the variables as it
found them. The two are the same except after a state was set from outside, which the history does
not tell: until the next call that moves anything, a firing is also told what was set then. So it may
be told to have changed what it only read, and a rule that took the variables back to the current
entry is put to sleep as if it had changed nothing.
-/

namespace TransitionEngine

variable {Outside : Type}

namespace Controller

/-- The controllers that calls lead to. They have gone astray when a state was set from outside, and
no call since then has changed anything. The code of the calls leaves conforming values. -/
inductive Strays (start : Controller Outside) : Bool → Controller Outside → Prop
  | start : Strays start false start
  | set {astray : Bool} {controller : Controller Outside}
      (hstrays : Strays start astray controller) (state : SavedState) (outside : Outside) :
      Strays start true ((Call.restoreState state).perform controller outside)
  | kept {astray : Bool} {controller : Controller Outside}
      (hstrays : Strays start astray controller) {call : Call Outside} {outside : Outside}
      (hsucceeds : call.SucceedsConforming controller outside)
      (hkept : (call.perform controller outside).core = controller.core) :
      Strays start astray (call.perform controller outside)
  | moved {astray : Bool} {controller : Controller Outside}
      (hstrays : Strays start astray controller) {call : Call Outside} {outside : Outside}
      (hsucceeds : call.SucceedsConforming controller outside)
      (hmoved : (call.perform controller outside).core ≠ controller.core) :
      Strays start false (call.perform controller outside)

/-- The changes are those that the firing of the rule made to the variables, by which it may have
gone to sleep and nobody else. -/
structure Attributes (before : Controller Outside) (id : RuleId) (changes : Changeset)
    (after : Controller Outside) : Prop where
  names : ∃ names, changes = .vars names ∧
    ∀ name, name ∈ names ↔ before.saveState.get? name ≠ after.saveState.get? name
  sleeper {other : RuleId} {rule sleeping : Rule Outside} (hbefore : before.rule? other = some rule)
    (hactive : rule.isActive = true) (hafter : after.rule? other = some sleeping)
    (hasleep : sleeping.isActive = false) : other = id ∧ after.saveState = before.saveState
  idle (hsame : after.saveState = before.saveState) : after.history = before.history

section Attribution

variable {controller : Controller Outside} {outside : Outside} {id : RuleId}

/-- A firing that succeeds either changes nothing in comparison to the current entry, and the rule
goes to sleep, or is committed and reported. -/
theorem fire_cases {changes : Changeset}
    (hfired : (controller.fire outside id).result = .ok changes) :
    ∃ bank : Bank, changes = .between controller.current.state bank.save ∧
      ((changes.isEmpty = true ∧ ∃ readset, (controller.fire outside id).controller.core =
          { controller.core with bank }.sleep id readset) ∨
        (changes.isEmpty = false ∧ ∃ message, (controller.fire outside id).controller.core =
          Core.report ⟨bank, controller.history.push message bank.save, controller.rulesets⟩
            outside changes)) := by
  cases hrule : controller.rule? id with
  | none =>
      rw [fire, rule, hrule] at hfired
      cases hfired
  | some rule =>
      generalize hrun : (rule.effect outside).run controller.bank ∅ = run
      have houtcome := outcome_of_fire hrule hrun hfired
      refine ⟨run.bank, ?_⟩
      cases hsame : (Changeset.between controller.current.state run.bank.save).isEmpty with
      | true =>
          rw [fire_of_unchanged hrule hrun houtcome hsame] at hfired ⊢
          obtain rfl := Except.ok.inj hfired
          exact ⟨rfl, .inl ⟨hsame, run.readset, rfl⟩⟩
      | false =>
          obtain ⟨message, hcore⟩ := core_fire_of_changed hrule hrun houtcome hsame
          rw [fire_of_changed hrule hrun houtcome hsame] at hfired
          obtain rfl := changes_of_commit hfired
          exact ⟨rfl, .inr ⟨hsame, message, hcore⟩⟩

/-- As long as the variables are as the current entry says, a firing is told what it changed. -/
theorem attributes_fire (hlive : controller.saveState = controller.current.state)
    {changes : Changeset} (hfired : (controller.fire outside id).result = .ok changes) :
    controller.Attributes id changes (controller.fire outside id).controller := by
  obtain ⟨bank, rfl, hcases⟩ := fire_cases hfired
  have hsave : (controller.fire outside id).controller.saveState = bank.save := by
    rcases hcases with ⟨-, readset, hcore⟩ | ⟨-, message, hcore⟩
    · exact congrArg (·.bank.save) hcore
    · exact congrArg (·.bank.save) hcore
  have hempty : (Changeset.between controller.current.state bank.save).isEmpty = true ↔
      bank.save = controller.saveState := by
    rw [← hlive]
    exact Bank.isEmpty_between_save_iff.trans eq_comm
  constructor
  · refine ⟨_, rfl, fun name => ?_⟩
    rw [hsave, ← hlive]
    exact Bank.mem_changedNames_save_iff
  · intro other rule sleeping hbefore hactive hafter hasleep
    -- A report puts nobody to sleep, so only the fired rule itself can have gone to sleep.
    have hwoken : controller.rule? other ≠ some sleeping := by
      intro hslept
      obtain rfl := Option.some.inj (hbefore.symm.trans hslept)
      rw [hactive] at hasleep
      cases hasleep
    rcases hcases with ⟨hsame, readset, hcore⟩ | ⟨-, message, hcore⟩
    · by_cases heq : other = id
      · exact ⟨heq, hsave.trans (hempty.1 hsame)⟩
      · have hslept := congrArg (·.rule? other) hcore
        dsimp only at hslept
        rw [Core.rule?_sleep_of_ne heq] at hslept
        exact absurd (hslept.symm.trans hafter) hwoken
    · have hslept := congrArg (·.rule? other) hcore
      exact absurd (Core.rule?_of_report_asleep (hslept.symm.trans hafter) hasleep) hwoken
  · intro hsame
    rcases hcases with ⟨-, readset, hcore⟩ | ⟨hchanged, -⟩
    · exact congrArg Core.history hcore
    · rw [hempty.2 (hsave.symm.trans hsame)] at hchanged
      cases hchanged

end Attribution

section Strays

variable {declarations : List VariableDeclaration} {start controller : Controller Outside}
  {astray : Bool}

/-- Every sequence of calls has gone astray or has not. -/
theorem exists_strays_of_reaches (hreached : Reaches (fun call controller outside =>
      (∃ state, call = .restoreState state) ∨ call.SucceedsConforming controller outside)
      start controller) : ∃ astray, Strays start astray controller := by
  induction hreached with
  | start => exact ⟨false, .start⟩
  | @call controller _ call outside hpermitted ih =>
      obtain ⟨astray, hstrays⟩ := ih
      rcases hpermitted with ⟨state, rfl⟩ | hsucceeds
      · exact ⟨true, hstrays.set state outside⟩
      · by_cases hkept : (call.perform controller outside).core = controller.core
        · exact ⟨astray, hstrays.kept hsucceeds hkept⟩
        · exact ⟨false, hstrays.moved hsucceeds hkept⟩

theorem isStored_of_strays (hstart : start.core.IsConsistent declarations)
    (hstrays : Strays start astray controller) :
    controller.core.IsStored declarations ∧
      (astray = false → controller.saveState = controller.current.state) := by
  induction hstrays with
  | start => exact ⟨hstart.isStored, fun _ => hstart.live⟩
  | @set _ controller _ state outside ih =>
      refine ⟨isStored_of_leaves ih.1 (fun _ hattempt => ?_) (leaves_perform _ controller outside),
        nofun⟩
      cases hattempt
  | @kept astray controller _ call outside hsucceeds hkept ih =>
      refine ⟨isStored_of_leaves ih.1 hsucceeds.2 (leaves_perform call controller outside), ?_⟩
      intro hfaithful
      change (call.perform controller outside).core.bank.save =
        (call.perform controller outside).core.history.current.state
      rw [hkept]
      exact ih.2 hfaithful
  | @moved _ controller _ call outside hsucceeds hmoved ih =>
      -- Whatever else moves anything ends at the current entry, wherever it started from.
      have hleaves := leaves_perform call controller outside
      refine ⟨isStored_of_leaves ih.1 hsucceeds.2 hleaves, fun _ => ?_⟩
      rcases live_of_leaves ih.1 hleaves with hkept | hlive | ⟨state, hcall⟩
      · exact absurd hkept hmoved
      · exact hlive
      · exact absurd hcall (hsucceeds.1 state)

/-- A firing is always told what differs from the current entry. Unless the controller has gone
astray, the variables are as that entry says, and then this is what the firing changed. -/
theorem fire_tells_change {setup : ControllerSetup Outside} {model : Model Outside}
    {outside : Outside} (hconforms : model.bank.Conforms)
    (hbuild : (setup.build model outside).result = .ok start)
    (hstrays : Strays start astray controller) :
    (astray = false → controller.saveState = controller.current.state) ∧
      ∀ outside id changes, (controller.fire outside id).result = .ok changes →
        let fired := (controller.fire outside id).controller
        changes = .between controller.current.state fired.saveState ∧
          (controller.saveState = controller.current.state →
            controller.Attributes id changes fired) := by
  refine ⟨(isStored_of_strays (isConsistent_of_build hconforms hbuild) hstrays).2, ?_⟩
  intro outside id changes hfired
  refine ⟨?_, fun hlive => attributes_fire hlive hfired⟩
  obtain ⟨bank, rfl, hcases⟩ := fire_cases hfired
  rcases hcases with ⟨-, readset, hcore⟩ | ⟨-, message, hcore⟩
  · exact congrArg (fun core => Changeset.between _ core.bank.save) hcore.symm
  · exact congrArg (fun core => Changeset.between _ core.bank.save) hcore.symm

end Strays

/-- A dial that can be looked at, and turned back. -/
def dial : Model Unit where
  bank := ⟨[.ofType "position" (.range 0 9)], by decide⟩
  rules := [⟨"look", .single fun _ => .read "position" fun _ => .done (.ok ())⟩,
    ⟨"turn back", .single fun _ => Effect.overwrite "position" (.number 0)⟩]
  invariants := []
  init? := none

theorem isDeterministic_dial : dial.IsDeterministic where
  rules hmem := by
    rcases List.mem_pair.1 hmem with rfl | rfl
    · refine ⟨fun heffect => ?_, trivial⟩
      rw [heffect]
      apply Effect.Repeatable.isDeterministic
      exact fun _ _ => .read "position" fun _ _ _ => .done _
    · refine ⟨fun heffect => ?_, trivial⟩
      rw [heffect]
      exact (Effect.repeatable_overwrite "position" _).isDeterministic
  checks hmem := by cases hmem
  init hinit := by cases hinit

/-- The dial at five. -/
def turnedTo5 : SavedState :=
  .ofEntries [("position", .ofInt64 5)]

section Dial

variable {built : Controller Unit}
  (hbuild : (ControllerSetup.standard.build dial ()).result = .ok built)

include hbuild

theorem succeedsConforming_look :
    (Call.fire ⟨0, 0⟩).SucceedsConforming ((Call.restoreState turnedTo5).perform built ()) () := by
  refine ⟨(by simp), fun run hattempt _ => ?_⟩
  cases hbuild
  have hentries : run.bank.entries = [⟨"position", .range 0 9, false, .number 5⟩] := by
    rw [← Option.some.inj hattempt]
    rfl
  exact Bank.conforms_of_range (by decide) (by decide) hentries

theorem succeedsConforming_turnBack :
    (Call.fire ⟨1, 0⟩).SucceedsConforming ((Call.restoreState turnedTo5).perform built ()) () := by
  refine ⟨(by simp), fun run hattempt _ => ?_⟩
  cases hbuild
  have hentries : run.bank.entries = [⟨"position", .range 0 9, false, .number 0⟩] := by
    rw [← Option.some.inj hattempt]
    rfl
  exact Bank.conforms_of_range (by decide) (by decide) hentries

end Dial

/-- The dial was turned from outside. Looking at it puts that into the history, and then turning it
back is told to change the position. -/
theorem fire_tells_change_dial :
    ∃ built, (ControllerSetup.standard.build dial ()).result = .ok built ∧
      let turned := (Call.restoreState turnedTo5).perform built ()
      let looked := (Call.fire ⟨0, 0⟩).perform turned ()
      let fired := looked.fire () ⟨1, 0⟩
      Strays built false looked ∧ fired.result = .ok (.vars (.ofList ["position"])) ∧
        looked.Attributes ⟨1, 0⟩ (.vars (.ofList ["position"])) fired.controller := by
  obtain ⟨built, hbuild⟩ : ∃ built, (ControllerSetup.standard.build dial ()).result = .ok built :=
    ⟨_, rfl⟩
  have hlooked : Strays built false
      ((Call.fire ⟨0, 0⟩).perform ((Call.restoreState turnedTo5).perform built ()) ()) := by
    refine (Strays.start.set turnedTo5 ()).moved (succeedsConforming_look hbuild) fun hkept => ?_
    have hlength := congrArg (·.history.length) hkept
    cases hbuild
    cases hlength
  have hfired : (((Call.fire ⟨0, 0⟩).perform ((Call.restoreState turnedTo5).perform built ()) ()).fire
      () ⟨1, 0⟩).result = .ok (.vars (.ofList ["position"])) := by
    cases hbuild
    rfl
  obtain ⟨hlive, htells⟩ :=
    fire_tells_change (Bank.conforms_of_range (by decide) (by decide) rfl) hbuild hlooked
  exact ⟨built, hbuild, hlooked, hfired, (htells () ⟨1, 0⟩ _ hfired).2 (hlive rfl)⟩

/-- The dial was turned from outside. Looking at it is told to change the position and committed, and
turning it back is told to change nothing, so that it goes to sleep. -/
theorem fire_mistells_change :
    dial.IsDeterministic ∧
      ∃ built, (ControllerSetup.standard.build dial ()).result = .ok built ∧
        let turned := (Call.restoreState turnedTo5).perform built ()
        let looked := turned.fire () ⟨0, 0⟩
        let turnedBack := turned.fire () ⟨1, 0⟩
        (Call.fire ⟨0, 0⟩).SucceedsConforming turned () ∧
        (Call.fire ⟨1, 0⟩).SucceedsConforming turned () ∧
        (looked.result = .ok (.vars (.ofList ["position"])) ∧
          looked.controller.saveState = turned.saveState ∧
          looked.controller.history.length = turned.history.length + 1) ∧
        (turnedBack.result = .ok .none ∧
          turnedBack.controller.saveState ≠ turned.saveState ∧
          (turnedBack.controller.rule? ⟨1, 0⟩).map (·.isActive) = some false) := by
  obtain ⟨built, hbuild⟩ : ∃ built, (ControllerSetup.standard.build dial ()).result = .ok built :=
    ⟨_, rfl⟩
  refine ⟨isDeterministic_dial, built, hbuild, succeedsConforming_look hbuild,
    succeedsConforming_turnBack hbuild, ?_, ?_⟩
  · cases hbuild
    exact ⟨rfl, rfl, rfl⟩
  · cases hbuild
    refine ⟨rfl, fun hsame => ?_, rfl⟩
    have hget := congrArg (·.get? "position") hsame
    cases hget

end Controller

end TransitionEngine
