import TransitionEngine.Proofs.Program.Querying
import TransitionEngine.Proofs.Rule.Reporting

/-!
# Rulesets that are up to date

A ruleset is fresh for a bank when, but for the sleep of its rules, its declaration would make the
same of that bank now. The domain of a family depends on what it read when it was last evaluated, so
a ruleset stays fresh while that keeps its values, and a report of whatever changes one of them
makes its instances anew.
-/

namespace TransitionEngine

variable {Outside : Type}

/-- A change of one element that cannot be seen through a map changes nothing of the mapped list. -/
theorem map_modify_of_kept {α β : Type} {f : α → β} {change : α → α}
    (hkept : ∀ element, f (change element) = f element) (list : List α) (position : Nat) :
    (list.modify position change).map f = list.map f := by
  apply List.ext_getElem?
  intro index
  rw [List.getElem?_map, List.getElem?_modify, List.getElem?_map]
  cases list[index]? with
  | none => rfl
  | some element =>
      rw [Option.map_eq_map, Option.map_some, Option.map_some, Option.map_some]
      split
      · rw [hkept]
      · rfl

/-- What the domain of a family gives depends on the values that it reads, and on nothing else. -/
def RuleBody.DomainRepeats : RuleBody Outside → Prop
  | .single _ => True
  | .family domain _ => Query.Repeatable domain

/-- Where a domain succeeds, it succeeds on equal values. -/
theorem RuleBody.DomainSucceeds.of_agree {body : RuleBody Outside} {left right : Bank}
    (hsucceeds : body.DomainSucceeds (· = left)) (hrepeats : body.DomainRepeats)
    (hagree : left.Agree right) : body.DomainSucceeds (· = right) := by
  cases body with
  | single effect => trivial
  | family domain effect =>
      rintro outside _ rfl
      obtain ⟨elements, houtcome⟩ := hsucceeds outside left rfl
      refine ⟨elements, ?_⟩
      rw [(hrepeats outside outside).run hagree ∅ fun _ _ => trivial, houtcome]

namespace Rule

@[simp]
theorem name_wake (rule : Rule Outside) : rule.wake.name = rule.name := rfl

@[simp]
theorem wake_wake (rule : Rule Outside) : rule.wake.wake = rule.wake := rfl

@[simp]
theorem wake_sleep (rule : Rule Outside) (readset : NameSet) :
    (rule.sleep readset).wake = rule.wake := rfl

@[simp]
theorem wake_wakeIf (rule : Rule Outside) (changes : Changeset) :
    (rule.wakeIf changes).wake = rule.wake := by
  unfold wakeIf
  split <;> rfl

end Rule

namespace Ruleset

/-- The ruleset with every instance awake. -/
def awake (ruleset : Ruleset Outside) : Ruleset Outside :=
  { ruleset with rules := ruleset.rules.map Rule.wake }

def declaration (ruleset : Ruleset Outside) : RuleDeclaration Outside :=
  ⟨ruleset.name, ruleset.body⟩

/-- The ruleset is, but for the sleep of its rules, what the declaration makes of the bank. -/
def IsFresh (declared : RuleDeclaration Outside) (bank : Bank) (ruleset : Ruleset Outside) : Prop :=
  ∀ outside, ofDeclaration declared outside bank = .ok ruleset.awake

variable {ruleset next : Ruleset Outside} {declared : RuleDeclaration Outside} {outside : Outside}
  {left right bank : Bank} {changes : Changeset}

@[simp]
theorem awake_awake (ruleset : Ruleset Outside) : ruleset.awake.awake = ruleset.awake := by
  simp [awake, Function.comp_def]

@[simp]
theorem awake_map_wakeIf (ruleset : Ruleset Outside) (changes : Changeset) :
    awake { ruleset with rules := ruleset.rules.map (Rule.wakeIf changes) } = ruleset.awake := by
  simp [awake, Function.comp_def]

@[simp]
theorem awake_sleepAt (ruleset : Ruleset Outside) (position : Nat) (readset : NameSet) :
    awake { ruleset with rules := ruleset.rules.modify position (·.sleep readset) } =
      ruleset.awake := by
  rw [awake, awake, map_modify_of_kept fun rule => rule.wake_sleep readset]

theorem declaration_regenerate (hregenerate : ruleset.regenerate outside bank = .ok next) :
    next.declaration = ruleset.declaration := by
  rcases regenerate_eq_ok_iff.1 hregenerate with ⟨_, -, rfl⟩ | ⟨_, _, _, -, -, rfl⟩ <;> rfl

theorem declaration_report (hreport : ruleset.report changes outside bank = .ok next) :
    next.declaration = ruleset.declaration := by
  unfold report at hreport
  split at hreport
  · exact declaration_regenerate hreport
  · rw [← Except.ok.inj hreport, declaration, declaration]

theorem declaration_ofDeclaration (hmade : ofDeclaration declared outside bank = .ok ruleset) :
    ruleset.declaration = declared := by
  unfold ofDeclaration at hmade
  split at hmade
  · rw [← Except.ok.inj hmade]
    rfl
  · exact declaration_regenerate hmade

theorem map_declaration_reportAll (changes : Changeset) (outside : Outside) (bank : Bank)
    (rulesets : List (Ruleset Outside)) :
    (reportAll changes outside bank rulesets).2.map declaration = rulesets.map declaration := by
  induction rulesets with
  | nil => rfl
  | cons first rest ih =>
      rw [reportAll]
      cases hfirst : first.report changes outside bank with
      | error error => rfl
      | ok told =>
          dsimp only
          rw [List.map_cons, List.map_cons, declaration_report hfirst, ih]

/-- What a declaration makes is awake. -/
theorem awake_of_ofDeclaration (hmade : ofDeclaration declared outside bank = .ok ruleset) :
    ruleset.awake = ruleset := by
  have hrules : ruleset.rules.map Rule.wake = ruleset.rules := by
    unfold ofDeclaration at hmade
    split at hmade
    · rw [← Except.ok.inj hmade]
      rfl
    · rcases regenerate_eq_ok_iff.1 hmade with ⟨_, -, rfl⟩ | ⟨_, _, _, -, -, rfl⟩
      · rfl
      · rw [List.map_map]
        rfl
  rw [awake, hrules]

theorem ofDeclaration_family_eq_ok_iff {name : String} {domain : Outside → Query (List Value)}
    {effect : Nat → Outside → Effect Unit} :
    ofDeclaration ⟨name, .family domain effect⟩ outside bank = .ok ruleset ↔
      ∃ elements, ((domain outside).run bank ∅).outcome = .ok elements ∧
        ruleset = ⟨name, .family domain effect,
          (List.range elements.length).map (instanceAt name effect),
          ((domain outside).run bank ∅).readset⟩ := by
  rw [ofDeclaration, regenerate]
  dsimp only
  cases ((domain outside).run bank ∅).outcome <;> simp [eq_comm]

theorem IsFresh.declaration_eq (hfresh : ruleset.IsFresh declared bank) (outside : Outside) :
    ruleset.declaration = declared := by
  have hdeclared : ruleset.awake.declaration = declared :=
    declaration_ofDeclaration (hfresh outside)
  exact hdeclared

section Fresh

variable (hrepeats : declared.body.DomainRepeats)

include hrepeats

theorem isFresh_of_ofDeclaration (hmade : ofDeclaration declared outside left = .ok ruleset)
    (hagree : left.AgreeOn (· ∈ ruleset.readset) right) : ruleset.IsFresh declared right := by
  intro outside'
  rw [awake_of_ofDeclaration hmade]
  obtain ⟨name, body⟩ := declared
  cases body with
  | single effect => exact hmade
  | family domain effect =>
      obtain ⟨elements, houtcome, rfl⟩ := ofDeclaration_family_eq_ok_iff.1 hmade
      have hsame : (domain outside').run right ∅ = (domain outside).run left ∅ :=
        (hrepeats outside outside').run hagree ∅ fun _ hread => hread
      refine ofDeclaration_family_eq_ok_iff.2 ⟨elements, ?_, ?_⟩
      · rw [hsame, houtcome]
      · rw [hsame]

/-- A ruleset stays fresh while what its domain read keeps its values. -/
theorem IsFresh.of_agreeOn (hfresh : ruleset.IsFresh declared left)
    (hagree : left.AgreeOn (· ∈ ruleset.readset) right) : ruleset.IsFresh declared right := by
  intro outside
  have hkept := isFresh_of_ofDeclaration hrepeats (hfresh outside) hagree outside
  rwa [awake_of_ofDeclaration (hfresh outside)] at hkept

theorem IsFresh.regenerate (hfresh : ruleset.IsFresh declared left)
    (hregenerate : ruleset.regenerate outside right = .ok next) : next.IsFresh declared right := by
  obtain rfl := hfresh.declaration_eq outside
  rcases regenerate_eq_ok_iff.1 hregenerate with
    ⟨effect, hbody, rfl⟩ | ⟨domain, effect, elements, hbody, houtcome, rfl⟩
  · intro outside'
    have hsame : ofDeclaration ruleset.declaration outside' right =
        ofDeclaration ruleset.declaration outside' left := by
      rw [ofDeclaration, ofDeclaration, declaration, hbody]
    exact (hsame.trans (hfresh outside')).trans (congrArg Except.ok ruleset.awake_awake.symm)
  · have hmade : ofDeclaration ruleset.declaration outside right = .ok
        ⟨ruleset.name, ruleset.body,
          (List.range elements.length).map (instanceAt ruleset.name effect),
          ((domain outside).run right ∅).readset⟩ := by
      rw [declaration, hbody]
      exact ofDeclaration_family_eq_ok_iff.2 ⟨elements, houtcome, rfl⟩
    exact isFresh_of_ofDeclaration hrepeats hmade (.refl right)

/-- A ruleset is fresh again after the report of a change that touches whatever of its reads has
changed. -/
theorem IsFresh.report (hfresh : ruleset.IsFresh declared left)
    (hagree : changes.affects ruleset.readset = false →
      left.AgreeOn (· ∈ ruleset.readset) right)
    (hreport : ruleset.report changes outside right = .ok next) : next.IsFresh declared right := by
  unfold Ruleset.report at hreport
  split at hreport
  · exact hfresh.regenerate hrepeats hreport
  · rename_i haffects
    have hkept := hfresh.of_agreeOn hrepeats (hagree (by simpa using haffects))
    intro outside'
    rw [← Except.ok.inj hreport, awake_map_wakeIf]
    exact hkept outside'

end Fresh

/-- When no domain fails, all rulesets are fresh again after the report. -/
theorem isFresh_reportAll {rules : List (RuleDeclaration Outside)}
    {rulesets : List (Ruleset Outside)}
    (hfresh : List.Forall₂ (fun declared ruleset => ruleset.IsFresh declared left) rules rulesets)
    (hrepeats : ∀ declared ∈ rules, declared.body.DomainRepeats) {valid : Bank → Prop}
    (hdomains : ∀ declared ∈ rules, declared.body.DomainSucceeds valid) (hvalid : valid right)
    (hagree : ∀ readset, changes.affects readset = false →
      left.AgreeOn (· ∈ readset) right) (outside : Outside) :
    List.Forall₂ (fun declared ruleset => ruleset.IsFresh declared right) rules
      (reportAll changes outside right rulesets).2 := by
  induction hfresh with
  | nil => exact .nil
  | @cons declared ruleset _ _ hhead _ ih =>
      obtain ⟨hrepeat, hrepeats⟩ := List.forall_mem_cons.1 hrepeats
      obtain ⟨hdomain, hdomains⟩ := List.forall_mem_cons.1 hdomains
      obtain ⟨next, hreport⟩ : ∃ next, ruleset.report changes outside right = .ok next := by
        rw [← hhead.declaration_eq outside] at hdomain
        exact exists_report hdomain hvalid outside
      rw [reportAll, hreport]
      exact .cons (hhead.report hrepeat (hagree _) hreport) (ih hrepeats hdomains)

/-! ### Rulesets that differ in sleep alone -/

/-- Rulesets that are the same but for sleep make the same of a change, on banks that hold the same
values. -/
theorem map_awake_report_congr {other : Ruleset Outside} (hsame : ruleset.awake = other.awake)
    (hrepeats : ruleset.body.DomainRepeats) (hagree : left.Agree right)
    (outside outside' : Outside) :
    (ruleset.report changes outside left).map awake =
      (other.report changes outside' right).map awake := by
  obtain ⟨name, body, rules, readset⟩ := ruleset
  obtain ⟨name', body', rules', readset'⟩ := other
  have hawake := hsame
  simp only [awake, mk.injEq] at hsame
  obtain ⟨rfl, rfl, hrules, rfl⟩ := hsame
  rw [report, report]
  dsimp only
  split
  · rw [regenerate, regenerate]
    cases body with
    | single effect => rw [hrules]
    | family domain effect =>
        have hrun : (domain outside').run right ∅ = (domain outside).run left ∅ :=
          (hrepeats outside outside').run (hagree.on _) ∅ fun _ hread => hread
        dsimp only
        rw [hrun]
  · exact congrArg Except.ok <|
      (awake_map_wakeIf _ _).trans (hawake.trans (awake_map_wakeIf _ _).symm)

theorem reportAll_congr {rulesets others : List (Ruleset Outside)}
    (hsame : rulesets.map awake = others.map awake)
    (hrepeats : ∀ ruleset ∈ rulesets, ruleset.body.DomainRepeats) (hagree : left.Agree right)
    (outside outside' : Outside) :
    (reportAll changes outside left rulesets).1 = (reportAll changes outside' right others).1 ∧
      (reportAll changes outside left rulesets).2.map awake =
        (reportAll changes outside' right others).2.map awake := by
  induction rulesets generalizing others with
  | nil =>
      obtain rfl := List.map_eq_nil_iff.1 hsame.symm
      exact ⟨rfl, rfl⟩
  | cons ruleset rest ih =>
      cases others with
      | nil => cases hsame
      | cons other others =>
          obtain ⟨hhead, htail⟩ := List.cons.inj hsame
          obtain ⟨hrepeat, hrepeats⟩ := List.forall_mem_cons.1 hrepeats
          have hreport : (ruleset.report changes outside left).map awake =
              (other.report changes outside' right).map awake :=
            map_awake_report_congr hhead hrepeat hagree outside outside'
          obtain ⟨hresult, hrest⟩ := ih htail hrepeats
          rw [reportAll, reportAll]
          cases hleft : ruleset.report changes outside left <;>
            cases hright : other.report changes outside' right <;>
            rw [hleft, hright] at hreport
          · cases hreport
            exact ⟨rfl, by rw [List.map_cons, List.map_cons, hhead, htail]⟩
          · cases hreport
          · cases hreport
          · have hawake := Except.ok.inj hreport
            exact ⟨hresult, by dsimp only; rw [List.map_cons, List.map_cons, hawake, hrest]⟩

end Ruleset

end TransitionEngine
