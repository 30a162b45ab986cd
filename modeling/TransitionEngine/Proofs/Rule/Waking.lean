import TransitionEngine.Proofs.Rule.Freshness

/-!
# Which instances a report wakes

A ruleset that is told of a change wakes the instances that sleep on what it touches. When its domain
has read what the change touches, all of them are woken, and those of a family are made anew. Several
rulesets are told one after the other, up to the first whose domain fails: that one and those behind it
are left as they were.
-/

namespace TransitionEngine

variable {Outside : Type}

namespace Rule

/-- An instance that sleeps on what the change touches is woken. -/
theorem wakeIf_of_affects {rule : Rule Outside} (hasleep : rule.isActive = false)
    {readset : NameSet} (hread : rule.readset = some readset) {changes : Changeset}
    (haffects : changes.affects readset = true) : rule.wakeIf changes = rule.wake := by
  rw [wakeIf, hasleep, hread]
  exact if_pos haffects

theorem wakeIf_of_untouched {rule : Rule Outside} {readset : NameSet}
    (hread : rule.readset = some readset) {changes : Changeset}
    (haffects : changes.affects readset = false) : rule.wakeIf changes = rule := by
  rw [wakeIf, hread]
  exact if_neg (by simp [haffects])

end Rule

namespace Ruleset

/-- The change touches what the domain of the family has read, and evaluating it again fails. -/
def FailsOn (changes : Changeset) (outside : Outside) (bank : Bank) (error : EngineError)
    (ruleset : Ruleset Outside) : Prop :=
  changes.affects ruleset.readset = true ∧ ∃ domain effect, ruleset.body = .family domain effect ∧
    ((domain outside).run bank ∅).outcome = .error error

variable {ruleset next : Ruleset Outside} {outside : Outside} {bank : Bank} {changes : Changeset}
  {error : EngineError}

theorem not_failsOn_of_single {effect : Outside → Effect Unit}
    (hbody : ruleset.body = .single effect) (error : EngineError) :
    ¬ruleset.FailsOn changes outside bank error := by
  rintro ⟨-, domain, effects, hfamily, -⟩
  rw [hbody] at hfamily
  cases hfamily

theorem report_eq_error_iff :
    ruleset.report changes outside bank = .error error ↔
      ruleset.FailsOn changes outside bank error := by
  constructor
  · intro hreport
    refine ⟨?_, exists_outcome_of_report hreport⟩
    by_contra haffects
    rw [report, if_neg haffects] at hreport
    cases hreport
  · rintro ⟨haffects, domain, effect, hbody, houtcome⟩
    rw [report, if_pos haffects, regenerate, hbody]
    dsimp only
    rw [houtcome]

theorem exists_report_of_not_failsOn
    (hsucceeds : ∀ error, ¬ruleset.FailsOn changes outside bank error) :
    ∃ next, ruleset.report changes outside bank = .ok next := by
  cases hreport : ruleset.report changes outside bank with
  | error error => exact absurd (report_eq_error_iff.1 hreport) (hsucceeds error)
  | ok next => exact ⟨next, rfl⟩

section Asleep

variable {position : Nat} {rule : Rule Outside} {readset : NameSet}
  (hreport : ruleset.report changes outside bank = .ok next)
  (hrule : ruleset.rules[position]? = some rule) (hread : rule.readset = some readset)

include hreport hrule hread

/-- An instance that sleeps on what the change touches is woken, and so is every instance when the
domain has read what the change touches; in a family they are then made anew. -/
theorem woken_of_report (hasleep : rule.isActive = false)
    (htouches : changes.affects readset = true ∨ changes.affects ruleset.readset = true) :
    next.rules[position]? = some rule.wake ∨
      (∃ domain effect, ruleset.body = .family domain effect) ∧
        ruleset.regenerate outside bank = .ok next := by
  by_cases hdomain : changes.affects ruleset.readset = true
  · rw [report, if_pos hdomain] at hreport
    rcases regenerate_eq_ok_iff.1 hreport with
      ⟨effect, -, rfl⟩ | ⟨domain, effect, elements, hbody, -, -⟩
    · left
      rw [List.getElem?_map, hrule, Option.map_some]
    · exact .inr ⟨⟨domain, effect, hbody⟩, hreport⟩
  · rw [report, if_neg hdomain] at hreport
    obtain rfl := Except.ok.inj hreport
    left
    rw [List.getElem?_map, hrule, Option.map_some,
      Rule.wakeIf_of_affects hasleep hread (htouches.resolve_right hdomain)]

theorem kept_of_report (huntouched : changes.affects readset = false)
    (hdomain : changes.affects ruleset.readset = false) : next.rules[position]? = some rule := by
  rw [report, if_neg (by simp [hdomain])] at hreport
  obtain rfl := Except.ok.inj hreport
  rw [List.getElem?_map, hrule, Option.map_some, Rule.wakeIf_of_untouched hread huntouched]

theorem active_of_report (hasleep : rule.isActive = false)
    (htouches : changes.affects readset = true ∨ changes.affects ruleset.readset = true)
    {woken : Rule Outside} (hwoken : next.rules[position]? = some woken) :
    woken.isActive = true := by
  rcases woken_of_report hreport hrule hread hasleep htouches with hwake | ⟨-, hregenerate⟩
  · rw [hwake] at hwoken
    rw [← Option.some.inj hwoken]
    rfl
  · exact (awake_of_mem_regenerate hregenerate (List.mem_of_getElem? hwoken)).1

end Asleep

/-- A change that touches neither the domain nor what any instance sleeps on leaves the ruleset as
it is. -/
theorem IsSound.report_eq_self (hsound : ruleset.IsSound)
    (hdomain : changes.affects ruleset.readset = false)
    (huntouched : ∀ rule ∈ ruleset.rules, ∀ readset, rule.readset = some readset →
      changes.affects readset = false) (outside : Outside) (bank : Bank) :
    ruleset.report changes outside bank = .ok ruleset := by
  have hrules : ruleset.rules.map (Rule.wakeIf changes) = ruleset.rules := by
    refine (List.map_congr_left fun rule hmem => ?_).trans (List.map_id _)
    rw [Rule.wakeIf_of_readset (hsound rule hmem).2]
    cases hread : rule.readset with
    | none => rfl
    | some readset => exact if_neg (by simp [huntouched rule hmem readset hread])
  rw [Ruleset.report, if_neg (by simp [hdomain]), hrules]

/-! ### One after the other -/

/-- No ruleset is lost: each of them is left as it is, or told of the change. -/
theorem exists_getElem?_reportAll {rulesets : List (Ruleset Outside)} {position : Nat}
    (hruleset : rulesets[position]? = some ruleset) :
    ∃ next, (reportAll changes outside bank rulesets).2[position]? = some next ∧
      (next = ruleset ∨ ruleset.report changes outside bank = .ok next) := by
  have hlength : (reportAll changes outside bank rulesets).2.length = rulesets.length := by
    have hdeclarations := congrArg List.length
      (map_declaration_reportAll changes outside bank rulesets)
    rwa [List.length_map, List.length_map] at hdeclarations
  have hbound := (List.getElem?_eq_some_iff.1 hruleset).1
  have hnext := List.getElem?_eq_getElem (hlength ▸ hbound :
    position < (reportAll changes outside bank rulesets).2.length)
  obtain ⟨found, hfound, hreport⟩ := getElem?_reportAll hnext
  obtain rfl := Option.some.inj (hfound.symm.trans hruleset)
  exact ⟨_, hnext, hreport⟩

section ReportAll

variable {rulesets : List (Ruleset Outside)} {position : Nat}
  (hruleset : rulesets[position]? = some ruleset)
  (hearlier : ∀ other ∈ rulesets.take position,
    ∃ told, other.report changes outside bank = .ok told)

include hruleset hearlier

/-- A ruleset is told when no domain fails before it. -/
theorem getElem?_reportAll_of_told (hreport : ruleset.report changes outside bank = .ok next) :
    (reportAll changes outside bank rulesets).2[position]? = some next := by
  induction rulesets generalizing position with
  | nil => cases hruleset
  | cons first rest ih =>
      rw [reportAll]
      cases position with
      | zero =>
          obtain rfl := Option.some.inj hruleset
          rw [hreport]
          rfl
      | succ position =>
          obtain ⟨⟨told, hfirst⟩, hrest⟩ := List.forall_mem_cons.1 hearlier
          rw [hfirst]
          exact ih hruleset hrest

/-- The first domain that fails ends the report, before its ruleset is changed. -/
theorem reportAll_of_failed (hfails : ruleset.report changes outside bank = .error error) :
    (reportAll changes outside bank rulesets).1 = .error error ∧
      ∀ index, position ≤ index →
        (reportAll changes outside bank rulesets).2[index]? = rulesets[index]? := by
  induction rulesets generalizing position with
  | nil => cases hruleset
  | cons first rest ih =>
      rw [reportAll]
      cases position with
      | zero =>
          obtain rfl := Option.some.inj hruleset
          rw [hfails]
          exact ⟨rfl, fun _ _ => rfl⟩
      | succ position =>
          obtain ⟨⟨told, hfirst⟩, hrest⟩ := List.forall_mem_cons.1 hearlier
          rw [hfirst]
          obtain ⟨hresult, hbehind⟩ := ih hruleset hrest
          refine ⟨hresult, fun index hindex => ?_⟩
          cases index with
          | zero => cases hindex
          | succ index => exact hbehind index (Nat.le_of_succ_le_succ hindex)

end ReportAll

end Ruleset

end TransitionEngine
