import Mathlib.Data.List.Forall2
import TransitionEngine.Proofs.Success
import TransitionEngine.Rule

/-!
# Reporting a change to the rules

A rule that still sleeps after a change was reported slept before, at the same place and on the same
variables, and the change touches none of them. The instances of a family whose domain may have changed
are made anew, and those are awake.
-/

namespace TransitionEngine

variable {Outside : Type}

namespace RuleBody

/-- The effects of the instances that the body can have. -/
def HasEffect (effect : Outside → Effect Unit) : RuleBody Outside → Prop
  | .single effect' => effect = effect'
  | .family _ effects => ∃ position, effect = effects position

/-- On these banks the domain, if there is one, can be evaluated. -/
def DomainSucceeds (valid : Bank → Prop) : RuleBody Outside → Prop
  | .single _ => True
  | .family domain _ => ∀ outside bank, valid bank →
      ∃ elements, ((domain outside).run bank ∅).outcome = .ok elements

theorem DomainSucceeds.mono {body : RuleBody Outside} {valid narrower : Bank → Prop}
    (hsucceeds : body.DomainSucceeds valid) (himp : ∀ bank, narrower bank → valid bank) :
    body.DomainSucceeds narrower := by
  cases body with
  | single effect => trivial
  | family domain effect => exact fun outside bank hbank => hsucceeds outside bank (himp bank hbank)

end RuleBody

namespace Rule

/-- A rule is active exactly when it sleeps on nothing. -/
def IsSound (rule : Rule Outside) : Prop :=
  rule.isActive = rule.readset.isNone

@[simp]
theorem isSound_fresh (name : String) (effect : Outside → Effect Unit) :
    (fresh name effect).IsSound := rfl

@[simp]
theorem isSound_wake (rule : Rule Outside) : rule.wake.IsSound := rfl

@[simp]
theorem isSound_sleep (rule : Rule Outside) (readset : NameSet) :
    (rule.sleep readset).IsSound := rfl

/-- A sound rule is woken when the change touches what it sleeps on, and is else left alone. -/
theorem wakeIf_of_readset {rule : Rule Outside} (hsound : rule.IsSound) (changes : Changeset) :
    rule.wakeIf changes =
      if rule.readset.any changes.affects then rule.wake else rule := by
  rw [IsSound] at hsound
  rw [wakeIf, hsound]
  cases rule.readset <;> simp

theorem isSound_wakeIf {rule : Rule Outside} (hsound : rule.IsSound) (changes : Changeset) :
    (rule.wakeIf changes).IsSound := by
  rw [wakeIf_of_readset hsound]
  split
  · exact isSound_wake rule
  · exact hsound

@[simp]
theorem effect_wakeIf (rule : Rule Outside) (changes : Changeset) :
    (rule.wakeIf changes).effect = rule.effect := by
  unfold wakeIf
  split <;> rfl

/-- Waking puts no rule to sleep. -/
theorem wakeIf_of_asleep {rule : Rule Outside} {changes : Changeset}
    (hasleep : (rule.wakeIf changes).isActive = false) : rule.wakeIf changes = rule := by
  unfold wakeIf at hasleep ⊢
  split at hasleep
  · cases hasleep
  · rename_i hkept
    exact if_neg hkept

theorem readset_wakeIf_eq_some {rule : Rule Outside} (hsound : rule.IsSound) {changes : Changeset}
    {readset : NameSet} (hread : (rule.wakeIf changes).readset = some readset) :
    rule.wakeIf changes = rule ∧ changes.affects readset = false := by
  rw [wakeIf_of_readset hsound] at hread ⊢
  split at hread
  · cases hread
  · rename_i haffects
    rw [hread, Option.any_some, Bool.not_eq_true] at haffects
    exact ⟨if_neg (by simp [hread, haffects]), haffects⟩

end Rule

namespace Ruleset

/-- Every instance is sound and does what the body says. -/
def IsSound (ruleset : Ruleset Outside) : Prop :=
  ∀ rule ∈ ruleset.rules, ruleset.body.HasEffect rule.effect ∧ rule.IsSound

variable {ruleset next : Ruleset Outside} {outside : Outside} {bank : Bank} {changes : Changeset}

theorem regenerate_eq_ok_iff : ruleset.regenerate outside bank = .ok next ↔
    (∃ effect, ruleset.body = .single effect ∧
      next = { ruleset with rules := ruleset.rules.map Rule.wake }) ∨
    ∃ domain effect elements, ruleset.body = .family domain effect ∧
      ((domain outside).run bank ∅).outcome = .ok elements ∧
      next = { ruleset with
        rules := (List.range elements.length).map (instanceAt ruleset.name effect)
        readset := ((domain outside).run bank ∅).readset } := by
  unfold regenerate
  cases hbody : ruleset.body with
  | single effect => simp [eq_comm]
  | family domain effect =>
      cases houtcome : ((domain outside).run bank ∅).outcome <;> simp [houtcome, eq_comm]

theorem exists_elements_of_regenerate {domain : Outside → Query (List Value)}
    {effect : Nat → Outside → Effect Unit} (hbody : ruleset.body = .family domain effect)
    (hregenerate : ruleset.regenerate outside bank = .ok next) :
    ∃ elements, ((domain outside).run bank ∅).outcome = .ok elements ∧
      next = { ruleset with
        rules := (List.range elements.length).map (instanceAt ruleset.name effect)
        readset := ((domain outside).run bank ∅).readset } := by
  rcases regenerate_eq_ok_iff.1 hregenerate with
    ⟨_, hsingle, -⟩ | ⟨_, _, elements, hfamily, houtcome, hnext⟩
  · cases hbody.symm.trans hsingle
  · cases hbody.symm.trans hfamily
    exact ⟨elements, houtcome, hnext⟩

theorem body_regenerate (hregenerate : ruleset.regenerate outside bank = .ok next) :
    next.body = ruleset.body := by
  rcases regenerate_eq_ok_iff.1 hregenerate with ⟨_, -, rfl⟩ | ⟨_, _, _, -, -, rfl⟩ <;> rfl

theorem exists_regenerate {valid : Bank → Prop} (hdomain : ruleset.body.DomainSucceeds valid)
    (hvalid : valid bank) (outside : Outside) :
    ∃ next, ruleset.regenerate outside bank = .ok next := by
  cases hbody : ruleset.body with
  | single effect => exact ⟨_, regenerate_eq_ok_iff.2 (.inl ⟨effect, hbody, rfl⟩)⟩
  | family domain effect =>
      rw [hbody] at hdomain
      obtain ⟨elements, houtcome⟩ := hdomain outside bank hvalid
      exact ⟨_, regenerate_eq_ok_iff.2 (.inr ⟨domain, effect, elements, hbody, houtcome, rfl⟩)⟩

/-- After a regeneration every instance is awake. -/
theorem awake_of_mem_regenerate (hregenerate : ruleset.regenerate outside bank = .ok next)
    {rule : Rule Outside} (hmem : rule ∈ next.rules) :
    rule.isActive = true ∧ rule.readset = none := by
  rcases regenerate_eq_ok_iff.1 hregenerate with ⟨_, -, rfl⟩ | ⟨_, _, _, -, -, rfl⟩
  · obtain ⟨_, -, rfl⟩ := List.mem_map.1 hmem
    exact ⟨rfl, rfl⟩
  · obtain ⟨_, -, rfl⟩ := List.mem_map.1 hmem
    exact ⟨rfl, rfl⟩

theorem readset_of_mem_regenerate (hregenerate : ruleset.regenerate outside bank = .ok next)
    {rule : Rule Outside} (hmem : rule ∈ next.rules) : rule.readset = none :=
  (awake_of_mem_regenerate hregenerate hmem).2

theorem IsSound.regenerate (hsound : ruleset.IsSound)
    (hregenerate : ruleset.regenerate outside bank = .ok next) : next.IsSound := by
  intro rule hmem
  rw [body_regenerate hregenerate]
  rcases regenerate_eq_ok_iff.1 hregenerate with ⟨_, -, rfl⟩ | ⟨_, _, _, hbody, -, rfl⟩
  · obtain ⟨old, hold, rfl⟩ := List.mem_map.1 hmem
    exact ⟨(hsound old hold).1, old.isSound_wake⟩
  · obtain ⟨position, -, rfl⟩ := List.mem_map.1 hmem
    rw [hbody]
    exact ⟨⟨position, rfl⟩, Rule.isSound_fresh ..⟩

/-- When anything may have changed, every ruleset is regenerated. -/
theorem report_everything (ruleset : Ruleset Outside) (outside : Outside) (bank : Bank) :
    ruleset.report .everything outside bank = ruleset.regenerate outside bank := rfl

theorem body_report (hreport : ruleset.report changes outside bank = .ok next) :
    next.body = ruleset.body := by
  unfold report at hreport
  split at hreport
  · exact body_regenerate hreport
  · rw [← Except.ok.inj hreport]

theorem exists_report {valid : Bank → Prop} (hdomain : ruleset.body.DomainSucceeds valid)
    (hvalid : valid bank) (outside : Outside) :
    ∃ next, ruleset.report changes outside bank = .ok next := by
  unfold report
  split
  · exact exists_regenerate hdomain hvalid outside
  · exact ⟨_, rfl⟩

theorem IsSound.report (hsound : ruleset.IsSound)
    (hreport : ruleset.report changes outside bank = .ok next) : next.IsSound := by
  unfold Ruleset.report at hreport
  split at hreport
  · exact hsound.regenerate hreport
  · rw [← Except.ok.inj hreport]
    intro rule hmem
    obtain ⟨old, hold, rfl⟩ := List.mem_map.1 hmem
    rw [Rule.effect_wakeIf]
    exact ⟨(hsound old hold).1, Rule.isSound_wakeIf (hsound old hold).2 changes⟩

/-- An instance that sleeps after the report slept before, and the change does not touch it. -/
theorem IsSound.getElem?_of_report (hsound : ruleset.IsSound)
    (hreport : ruleset.report changes outside bank = .ok next) {position : Nat}
    {rule : Rule Outside} (hrule : next.rules[position]? = some rule) {readset : NameSet}
    (hread : rule.readset = some readset) :
    ruleset.rules[position]? = some rule ∧ changes.affects readset = false := by
  unfold Ruleset.report at hreport
  split at hreport
  · rw [readset_of_mem_regenerate hreport (List.mem_of_getElem? hrule)] at hread
    cases hread
  · rw [← Except.ok.inj hreport, List.getElem?_map] at hrule
    obtain ⟨old, hold, rfl⟩ := Option.map_eq_some_iff.1 hrule
    obtain ⟨hkept, haffects⟩ :=
      Rule.readset_wakeIf_eq_some (hsound old (List.mem_of_getElem? hold)).2 hread
    exact ⟨hold.trans (congrArg some hkept.symm), haffects⟩

/-- A report puts no instance to sleep. -/
theorem getElem?_of_report_asleep (hreport : ruleset.report changes outside bank = .ok next)
    {position : Nat} {rule : Rule Outside} (hrule : next.rules[position]? = some rule)
    (hasleep : rule.isActive = false) : ruleset.rules[position]? = some rule := by
  unfold report at hreport
  split at hreport
  · rw [(awake_of_mem_regenerate hreport (List.mem_of_getElem? hrule)).1] at hasleep
    cases hasleep
  · rw [← Except.ok.inj hreport, List.getElem?_map] at hrule
    obtain ⟨old, hold, rfl⟩ := Option.map_eq_some_iff.1 hrule
    exact hold.trans (congrArg some (Rule.wakeIf_of_asleep hasleep).symm)

/-- Every ruleset behind the report of a change is as it was, or was told of the change. -/
theorem getElem?_reportAll {rulesets : List (Ruleset Outside)} {position : Nat}
    (hnext : (reportAll changes outside bank rulesets).2[position]? = some next) :
    ∃ ruleset, rulesets[position]? = some ruleset ∧
      (next = ruleset ∨ ruleset.report changes outside bank = .ok next) := by
  induction rulesets generalizing position with
  | nil => cases hnext
  | cons first rest ih =>
      rw [reportAll] at hnext
      cases hfirst : first.report changes outside bank with
      | error error =>
          rw [hfirst] at hnext
          exact ⟨next, hnext, .inl rfl⟩
      | ok told =>
          rw [hfirst] at hnext
          cases position with
          | zero => exact ⟨first, rfl, .inr (hfirst.trans (congrArg _ (Option.some.inj hnext)))⟩
          | succ position => exact ih hnext

theorem mem_reportAll {rulesets : List (Ruleset Outside)}
    (hmem : next ∈ (reportAll changes outside bank rulesets).2) :
    next ∈ rulesets ∨ ∃ ruleset ∈ rulesets, ruleset.report changes outside bank = .ok next := by
  obtain ⟨position, hnext⟩ := List.mem_iff_getElem?.1 hmem
  obtain ⟨ruleset, hruleset, rfl | hreport⟩ := getElem?_reportAll hnext
  · exact .inl (List.mem_of_getElem? hruleset)
  · exact .inr ⟨ruleset, List.mem_of_getElem? hruleset, hreport⟩

/-- Only a domain can make a report fail. -/
theorem exists_outcome_of_report {error : EngineError}
    (hreport : ruleset.report changes outside bank = .error error) :
    ∃ domain effect, ruleset.body = .family domain effect ∧
      ((domain outside).run bank ∅).outcome = .error error := by
  unfold report at hreport
  split at hreport
  · unfold regenerate at hreport
    split at hreport
    · cases hreport
    · rename_i domain effect hbody
      dsimp only at hreport
      split at hreport
      · rename_i failure houtcome
        obtain rfl := Except.error.inj hreport
        exact ⟨domain, effect, hbody, houtcome⟩
      · cases hreport
  · cases hreport

theorem exists_report_of_reportAll {rulesets : List (Ruleset Outside)} {error : EngineError}
    (hfailed : (reportAll changes outside bank rulesets).1 = .error error) :
    ∃ ruleset ∈ rulesets, ruleset.report changes outside bank = .error error := by
  induction rulesets with
  | nil => cases hfailed
  | cons first rest ih =>
      rw [reportAll] at hfailed
      cases hfirst : first.report changes outside bank with
      | error failure =>
          rw [hfirst] at hfailed
          obtain rfl := Except.error.inj hfailed
          exact ⟨first, List.mem_cons_self .., hfirst⟩
      | ok told =>
          rw [hfirst] at hfailed
          obtain ⟨ruleset, hmem, hreport⟩ := ih hfailed
          exact ⟨ruleset, List.mem_cons_of_mem _ hmem, hreport⟩

theorem forall₂_reportAll {rulesets : List (Ruleset Outside)} {valid : Bank → Prop}
    (hdomains : ∀ ruleset ∈ rulesets, ruleset.body.DomainSucceeds valid) (hvalid : valid bank) :
    List.Forall₂ (fun ruleset next => ruleset.report changes outside bank = .ok next) rulesets
      (reportAll changes outside bank rulesets).2 := by
  induction rulesets with
  | nil => exact .nil
  | cons first rest ih =>
      obtain ⟨hfirst, hrest⟩ := List.forall_mem_cons.1 hdomains
      obtain ⟨told, hreport⟩ : ∃ told, first.report changes outside bank = .ok told :=
        exists_report hfirst hvalid outside
      rw [reportAll, hreport]
      exact .cons hreport (ih hrest)

theorem isSound_ofDeclaration {declaration : RuleDeclaration Outside}
    (hmade : ofDeclaration declaration outside bank = .ok ruleset) :
    ruleset.body = declaration.body ∧ ruleset.IsSound ∧
      ∀ rule ∈ ruleset.rules, rule.readset = none := by
  unfold ofDeclaration at hmade
  split at hmade
  · rename_i effect hbody
    rw [← Except.ok.inj hmade]
    refine ⟨rfl, fun rule hmem => ?_, fun rule hmem => ?_⟩
    · rw [List.mem_singleton.1 hmem, hbody]
      exact ⟨rfl, Rule.isSound_fresh ..⟩
    · rw [List.mem_singleton.1 hmem]
      rfl
  · refine ⟨body_regenerate hmade, ?_, fun rule hmem => readset_of_mem_regenerate hmade hmem⟩
    refine IsSound.regenerate (fun rule hmem => ?_) hmade
    cases hmem

end Ruleset

end TransitionEngine
