import TransitionEngine.Proofs.Rule.Freshness

/-!
# Making rulesets anew

A regeneration asks a ruleset for its declaration alone: whichever rules slept, and whatever its domain
gave before, it makes what the declaration makes of the bank. So a change that may concern everything
leaves the rulesets that a new controller would have.
-/

namespace TransitionEngine

variable {Outside : Type}

/-- What the domain of a family gives depends on the variables alone. -/
def RuleBody.DomainIgnoresOutside : RuleBody Outside → Prop
  | .single _ => True
  | .family domain _ => ∀ outside outside' bank,
      (domain outside).run bank ∅ = (domain outside').run bank ∅

namespace Ruleset

/-- The ruleset is, but for the sleep of its rules, what its declaration made of some bank. -/
def IsMade (ruleset : Ruleset Outside) : Prop :=
  ∃ outside bank, ofDeclaration ruleset.declaration outside bank = .ok ruleset.awake

variable {ruleset next : Ruleset Outside} {declared : RuleDeclaration Outside} {outside : Outside}
  {bank : Bank} {changes : Changeset}

theorem ofDeclaration_congr (hignores : declared.body.DomainIgnoresOutside)
    (outside outside' : Outside) (bank : Bank) :
    ofDeclaration declared outside bank = ofDeclaration declared outside' bank := by
  obtain ⟨name, body⟩ := declared
  cases body with
  | single effect => rfl
  | family domain effect =>
      rw [ofDeclaration, ofDeclaration, regenerate, regenerate]
      dsimp only
      rw [hignores outside outside' bank]

theorem awake_of_mem_ofDeclaration (hmade : ofDeclaration declared outside bank = .ok ruleset)
    {rule : Rule Outside} (hmem : rule ∈ ruleset.rules) :
    rule.isActive = true ∧ rule.readset = none := by
  obtain ⟨-, hsound, hnone⟩ := isSound_ofDeclaration hmade
  have hread := hnone rule hmem
  refine ⟨?_, hread⟩
  rw [(hsound rule hmem).2, hread]
  rfl

theorem isMade_of_ofDeclaration (hmade : ofDeclaration declared outside bank = .ok ruleset) :
    ruleset.IsMade := by
  refine ⟨outside, bank, ?_⟩
  rw [declaration_ofDeclaration hmade, awake_of_ofDeclaration hmade, hmade]

theorem IsMade.of_awake_eq (hmade : ruleset.IsMade) (hsame : next.awake = ruleset.awake) :
    next.IsMade := by
  obtain ⟨outside, bank, hmade⟩ := hmade
  have hdeclaration : next.declaration = ruleset.declaration :=
    congrArg (fun ruleset => ruleset.declaration) hsame
  exact ⟨outside, bank, by rw [hdeclaration, hmade, hsame]⟩

theorem isMade_of_map_awake_eq {rulesets others : List (Ruleset Outside)}
    (hsame : others.map awake = rulesets.map awake) (hmade : ∀ ruleset ∈ rulesets, ruleset.IsMade) :
    ∀ ruleset ∈ others, ruleset.IsMade := by
  intro next hmem
  have hawake := List.mem_map_of_mem hmem (f := awake)
  rw [hsame] at hawake
  obtain ⟨ruleset, hruleset, hsame⟩ := List.mem_map.1 hawake
  exact (hmade ruleset hruleset).of_awake_eq hsame.symm

theorem IsMade.regenerate_eq (hmade : ruleset.IsMade) (outside : Outside) (bank : Bank) :
    ruleset.regenerate outside bank = ofDeclaration ruleset.declaration outside bank := by
  obtain ⟨made, old, hmade⟩ := hmade
  obtain ⟨name, body, rules, readset⟩ := ruleset
  cases body with
  | single effect => exact hmade.symm
  | family domain effect => rfl

theorem IsMade.report (hmade : ruleset.IsMade)
    (hreport : ruleset.report changes outside bank = .ok next) : next.IsMade := by
  unfold Ruleset.report at hreport
  split at hreport
  · rw [hmade.regenerate_eq] at hreport
    exact isMade_of_ofDeclaration hreport
  · obtain rfl := Except.ok.inj hreport
    exact hmade.of_awake_eq (awake_map_wakeIf ruleset changes)

theorem isMade_reportAll {rulesets : List (Ruleset Outside)}
    (hmade : ∀ ruleset ∈ rulesets, ruleset.IsMade) (changes : Changeset) (outside : Outside)
    (bank : Bank) : ∀ ruleset ∈ (reportAll changes outside bank rulesets).2, ruleset.IsMade := by
  intro ruleset hmem
  rcases mem_reportAll hmem with hmem | ⟨told, htold, hreport⟩
  · exact hmade ruleset hmem
  · exact (hmade told htold).report hreport

theorem reportAll_of_forall₂ {rulesets told : List (Ruleset Outside)}
    (htold : List.Forall₂ (fun ruleset next => ruleset.report changes outside bank = .ok next)
      rulesets told) : reportAll changes outside bank rulesets = (.ok (), told) := by
  induction htold with
  | nil => rfl
  | cons hreport _ ih => rw [reportAll, hreport, ih]

/-- When anything may have changed, the rulesets become what their declarations make of the bank. -/
theorem reportAll_everything {rulesets remade : List (Ruleset Outside)}
    (hmade : ∀ ruleset ∈ rulesets, ruleset.IsMade)
    (hremade : (rulesets.map declaration).mapM (ofDeclaration · outside bank) = .ok remade) :
    reportAll .everything outside bank rulesets = (.ok (), remade) := by
  have hall := List.forall₂_map_left_iff.1 (Success.mapM_eq_ok_iff.1 hremade)
  have hboth := (List.forall₂_and_left _ _).2 ⟨hmade, hall⟩
  refine reportAll_of_forall₂ (hboth.imp fun ruleset next ⟨hmade, hmakes⟩ => ?_)
  rw [report_everything, hmade.regenerate_eq, hmakes]

end Ruleset

end TransitionEngine
