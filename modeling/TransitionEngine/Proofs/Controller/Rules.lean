import TransitionEngine.Proofs.Changeset
import TransitionEngine.Proofs.Controller.Calls
import TransitionEngine.Proofs.Rule.Reporting

/-!
# The rules of a controller

However a controller is used, its instances come from the declared rules, and a report of a change or
the firing of another instance is all that happens to the sleep of one.
-/

namespace TransitionEngine

variable {Outside : Type} {rules : List (RuleDeclaration Outside)}

theorem Ruleset.IsSound.sleepAt {ruleset : Ruleset Outside} (hsound : ruleset.IsSound)
    (position : Nat) (readset : NameSet) :
    IsSound { ruleset with rules := ruleset.rules.modify position (·.sleep readset) } := by
  intro rule hmem
  obtain ⟨index, hrule⟩ := List.mem_iff_getElem?.1 hmem
  rw [List.getElem?_modify] at hrule
  obtain ⟨old, hold, rfl⟩ := Option.map_eq_some_iff.1 hrule
  obtain ⟨heffect, hrule⟩ := hsound old (List.mem_of_getElem? hold)
  by_cases heq : position = index
  · rw [if_pos heq]
    exact ⟨heffect, old.isSound_sleep readset⟩
  · rw [if_neg heq]
    exact ⟨heffect, hrule⟩

namespace Core

/-- Every ruleset is that of a declared rule. -/
def HasRulesOf (rules : List (RuleDeclaration Outside)) (core : Core Outside) : Prop :=
  ∀ ruleset ∈ core.rulesets,
    (∃ declaration ∈ rules, declaration.body = ruleset.body) ∧ ruleset.IsSound

variable {core : Core Outside} {id : RuleId} {readset : NameSet}

theorem HasRulesOf.of_rule? (hrules : core.HasRulesOf rules) {rule : Rule Outside}
    (hrule : core.rule? id = some rule) :
    (∃ declaration ∈ rules, declaration.body.HasEffect rule.effect) ∧ rule.IsSound := by
  obtain ⟨ruleset, hruleset, hrule⟩ := Option.bind_eq_some_iff.1 hrule
  obtain ⟨⟨declaration, hdeclaration, hbody⟩, hsound⟩ :=
    hrules ruleset (List.mem_of_getElem? hruleset)
  obtain ⟨heffect, hrule⟩ := hsound rule (List.mem_of_getElem? hrule)
  exact ⟨⟨declaration, hdeclaration, hbody ▸ heffect⟩, hrule⟩

theorem HasRulesOf.report (hrules : core.HasRulesOf rules) (outside : Outside)
    (changes : Changeset) : (core.report outside changes).HasRulesOf rules := by
  intro next hnext
  rcases Ruleset.mem_reportAll hnext with hold | ⟨ruleset, hruleset, hreport⟩
  · exact hrules next hold
  · obtain ⟨hdeclared, hsound⟩ := hrules ruleset hruleset
    rw [Ruleset.body_report hreport]
    exact ⟨hdeclared, hsound.report hreport⟩

theorem HasRulesOf.sleep (hrules : core.HasRulesOf rules) (id : RuleId) (readset : NameSet) :
    (core.sleep id readset).HasRulesOf rules := by
  intro next hnext
  obtain ⟨position, hnext⟩ := List.mem_iff_getElem?.1 hnext
  rw [Core.sleep] at hnext
  dsimp only at hnext
  rw [List.getElem?_modify] at hnext
  obtain ⟨ruleset, hruleset, rfl⟩ := Option.map_eq_some_iff.1 hnext
  obtain ⟨hdeclared, hsound⟩ := hrules ruleset (List.mem_of_getElem? hruleset)
  by_cases heq : id.ruleset = position
  · rw [if_pos heq]
    exact ⟨hdeclared, hsound.sleepAt id.rule readset⟩
  · rw [if_neg heq]
    exact ⟨hdeclared, hsound⟩

theorem rule?_sleep_self {rule : Rule Outside} (hrule : core.rule? id = some rule) :
    (core.sleep id readset).rule? id = some (rule.sleep readset) := by
  obtain ⟨ruleset, hruleset, hrule⟩ := Option.bind_eq_some_iff.1 hrule
  rw [rule?, Core.sleep]
  dsimp only
  rw [List.getElem?_modify_eq, hruleset]
  simp [hrule]

theorem rule?_sleep_of_ne {other : RuleId} (hne : other ≠ id) :
    (core.sleep id readset).rule? other = core.rule? other := by
  rw [rule?, rule?, Core.sleep]
  dsimp only
  rw [List.getElem?_modify]
  cases hruleset : core.rulesets[other.ruleset]? with
  | none => rfl
  | some ruleset =>
      by_cases heq : id.ruleset = other.ruleset
      · have hposition : id.rule ≠ other.rule := by
          intro hrule
          apply hne
          cases id
          cases other
          simp_all
        simp [heq, hposition]
      · simp [heq]

/-- An instance that sleeps after a report slept before it, whatever fails. -/
theorem rule?_of_report_asleep {outside : Outside} {changes : Changeset} {rule : Rule Outside}
    (hrule : (core.report outside changes).rule? id = some rule)
    (hasleep : rule.isActive = false) : core.rule? id = some rule := by
  obtain ⟨next, hnext, hrule⟩ := Option.bind_eq_some_iff.1 hrule
  obtain ⟨ruleset, hruleset, rfl | hreport⟩ := Ruleset.getElem?_reportAll hnext
  · exact Option.bind_eq_some_iff.2 ⟨next, hruleset, hrule⟩
  · have hslept := Ruleset.getElem?_of_report_asleep hreport hrule hasleep
    exact Option.bind_eq_some_iff.2 ⟨ruleset, hruleset, hslept⟩

/-- Where no domain fails, an instance that sleeps after a report slept before it, and the change does
not touch what it sleeps on. -/
theorem HasRulesOf.rule?_of_report (hrules : core.HasRulesOf rules) {valid : Bank → Prop}
    (hdomains : ∀ declaration ∈ rules, declaration.body.DomainSucceeds valid)
    (hvalid : valid core.bank) {outside : Outside} {changes : Changeset} {rule : Rule Outside}
    (hrule : (core.report outside changes).rule? id = some rule)
    (hread : rule.readset = some readset) :
    core.rule? id = some rule ∧ changes.affects readset = false := by
  have hsucceed : ∀ ruleset ∈ core.rulesets, ruleset.body.DomainSucceeds valid := by
    intro ruleset hmem
    obtain ⟨⟨declaration, hdeclaration, hbody⟩, -⟩ := hrules ruleset hmem
    exact hbody ▸ hdomains declaration hdeclaration
  have hreported : List.Forall₂
      (fun ruleset next => ruleset.report changes outside core.bank = .ok next) core.rulesets
      (core.report outside changes).rulesets :=
    Ruleset.forall₂_reportAll hsucceed hvalid
  obtain ⟨next, hnext, hrule⟩ := Option.bind_eq_some_iff.1 hrule
  obtain ⟨ruleset, hruleset, hreport⟩ := Success.exists_getElem?_of_forall₂ hreported hnext
  obtain ⟨-, hsound⟩ := hrules ruleset (List.mem_of_getElem? hruleset)
  obtain ⟨hkept, haffects⟩ := hsound.getElem?_of_report hreport hrule hread
  exact ⟨Option.bind_eq_some_iff.2 ⟨ruleset, hruleset, hkept⟩, haffects⟩

/-- A report that anything may have changed leaves no instance asleep. -/
theorem HasRulesOf.readset_of_report_everything (hrules : core.HasRulesOf rules)
    {valid : Bank → Prop}
    (hdomains : ∀ declaration ∈ rules, declaration.body.DomainSucceeds valid)
    (hvalid : valid core.bank) {outside : Outside} {rule : Rule Outside}
    (hrule : (core.report outside .everything).rule? id = some rule) : rule.readset = none := by
  cases hread : rule.readset with
  | none => rfl
  | some readset =>
      obtain ⟨-, haffects⟩ := hrules.rule?_of_report hdomains hvalid hrule hread
      cases haffects

end Core

end TransitionEngine
