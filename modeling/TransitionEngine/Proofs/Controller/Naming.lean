import TransitionEngine.Proofs.Controller.Restarting
import TransitionEngine.Proofs.Rule.Naming

/-!
# Finding an instance by its name

A name finds the first instance that has it. When a model is built its declared names are compared with each
other, but not with those that its families are going to generate, so two instances can share a name: that of
a single rule and that of a family which has become large enough. Nothing else makes a name ambiguous,
whatever is done to the controller and however often its families are made anew.
-/

namespace TransitionEngine

variable {Outside : Type}

theorem nodup_of_requireDistinct {names : List String} {cause : String → ConfigCause}
    (hdistinct : requireDistinct names cause = .ok ()) : names.Nodup := by
  unfold requireDistinct at hdistinct
  split at hdistinct
  · cases hdistinct
  · rename_i hnone
    exact (repeated?_eq_none_iff.1 hnone).1

section Built

variable {declarations : Declarations Outside} {start : Outside} {model : Model Outside}
  (hmodel : (declarations.build start).result = .ok model)

include hmodel

theorem Declarations.nodup_ruleNames_of_build : (declarations.rules.map (·.name)).Nodup := by
  unfold build at hmodel
  split at hmodel
  · cases hmodel
  · rename_i declared hdeclared
    obtain ⟨_, -, hrest⟩ := Success.bind_eq_ok_iff.1 hdeclared
    obtain ⟨_, hdistinct, -⟩ := Success.bind_eq_ok_iff.1 hrest
    exact nodup_of_requireDistinct hdistinct

theorem Model.rules_of_build : model.rules = declarations.rules := by
  obtain ⟨bank, -, hrun⟩ := Declarations.exists_of_build hmodel
  obtain ⟨started, hsame, -⟩ := runInit_eq
    ⟨bank, declarations.rules, declarations.invariants, declarations.init?⟩ start
  rw [hrun] at hsame
  exact congrArg Model.rules hsame

/-- Different rules of a model were declared by different names. -/
theorem Model.nodup_ruleNames_of_build : (model.rules.map (·.name)).Nodup := by
  rw [rules_of_build hmodel]
  exact Declarations.nodup_ruleNames_of_build hmodel

end Built

/-- The first element that gives something, with its position. -/
theorem exists_of_findSome?_zipIdx {α β : Type} {list : List α} {f : α × Nat → Option β} {result : β}
    (hfound : list.zipIdx.findSome? f = some result) :
    ∃ position element, list[position]? = some element ∧ f (element, position) = some result ∧
      ∀ index other, index < position → list[index]? = some other → f (other, index) = none := by
  obtain ⟨earlier, ⟨element, position⟩, later, hsplit, hresult, hearlier⟩ :=
    List.findSome?_eq_some_iff.1 hfound
  have hindexed (index : Nat) : list[index]?.map (·, index) =
      (earlier ++ (element, position) :: later)[index]? := by
    rw [← hsplit, List.getElem?_zipIdx, Nat.zero_add]
  have hhere : list[earlier.length]?.map (·, earlier.length) = some (element, position) := by
    rw [hindexed, List.getElem?_append_right (Nat.le_refl _), Nat.sub_self, List.getElem?_cons_zero]
  obtain ⟨held, helement, hposition⟩ := Option.map_eq_some_iff.1 hhere
  obtain ⟨rfl, rfl⟩ := Prod.mk.inj hposition
  refine ⟨_, held, helement, hresult, fun index other hlt hother => hearlier _ ?_⟩
  have hbefore := hindexed index
  rw [hother, Option.map_some, List.getElem?_append_left hlt] at hbefore
  exact List.mem_of_getElem? hbefore.symm

namespace Controller

variable {controller : Controller Outside} {name : String} {id found : RuleId} {rule : Rule Outside}

theorem rule?_eq_some_iff : controller.rule? id = some rule ↔
    ∃ ruleset, controller.rulesets[id.ruleset]? = some ruleset ∧ ruleset.rules[id.rule]? = some rule :=
  Option.bind_eq_some_iff

/-- A name that an instance has is found. -/
theorem exists_ruleId? (hrule : controller.rule? id = some rule) :
    ∃ found, controller.ruleId? rule.name = some found := by
  obtain ⟨ruleset, hruleset, hrule⟩ := rule?_eq_some_iff.1 hrule
  cases hfound : controller.ruleId? rule.name with
  | some found => exact ⟨found, rfl⟩
  | none =>
      have hnowhere := List.findSome?_eq_none_iff.1 hfound (ruleset, id.ruleset)
        (List.mem_zipIdx_iff_getElem?.2 hruleset)
      rw [Option.map_eq_none_iff, List.findIdx?_eq_none_iff] at hnowhere
      simpa using hnowhere rule (List.mem_of_getElem? hrule)

/-- What a name finds has this name, and no instance before it has. -/
theorem rule?_of_ruleId? (hfound : controller.ruleId? name = some found) :
    (∃ first, controller.rule? found = some first ∧ first.name = name) ∧
      ∀ id rule, controller.rule? id = some rule → rule.name = name →
        found = id ∨ found.before id = true := by
  obtain ⟨position, ruleset, hruleset, hmade, hearlier⟩ := exists_of_findSome?_zipIdx hfound
  obtain ⟨index, hindex, rfl⟩ := Option.map_eq_some_iff.1 hmade
  obtain ⟨hbound, hname, hsmaller⟩ := List.findIdx?_eq_some_iff_getElem.1 hindex
  constructor
  · refine ⟨ruleset.rules[index], ?_, of_decide_eq_true hname⟩
    exact rule?_eq_some_iff.2 ⟨ruleset, hruleset, List.getElem?_eq_getElem hbound⟩
  · intro id rule hrule hsame
    obtain ⟨other, hother, hrule⟩ := rule?_eq_some_iff.1 hrule
    rcases Nat.lt_trichotomy id.ruleset position with hlt | rfl | hgt
    · have hnone := hearlier id.ruleset other hlt hother
      rw [Option.map_eq_none_iff, List.findIdx?_eq_none_iff] at hnone
      exact absurd hsame (of_decide_eq_false (hnone rule (List.mem_of_getElem? hrule)))
    · obtain rfl := Option.some.inj (hruleset.symm.trans hother)
      obtain ⟨hpresent, rfl⟩ := List.getElem?_eq_some_iff.1 hrule
      rcases Nat.lt_trichotomy id.rule index with hlt | rfl | hgt
      · exact absurd (decide_eq_true hsame) (hsmaller id.rule hlt)
      · exact .inl rfl
      · exact .inr (RuleId.before_iff.2 (.inr ⟨rfl, hgt⟩))
    · exact .inr (RuleId.before_iff.2 (.inl hgt))

section IsMadeFrom

variable {model : Model Outside} (hmade : controller.IsMadeFrom model)
  (hnodup : (model.rules.map (·.name)).Nodup)

include hmade

/-- Every ruleset stands at the position of the rule that it was made from. -/
theorem IsMadeFrom.getElem?_rules {position : Nat} {ruleset : Ruleset Outside}
    (hruleset : controller.rulesets[position]? = some ruleset) :
    model.rules[position]? = some ruleset.declaration := by
  obtain ⟨⟨setup, hof⟩, -⟩ := hmade
  rw [← hof.rules, List.getElem?_map, hruleset, Option.map_some]

include hnodup

/-- Two instances of one name are the same instance, or the name is ambiguous by what was declared. -/
theorem IsMadeFrom.eq_or_isAmbiguous {other : RuleId} {twin : Rule Outside}
    (hrule : controller.rule? id = some rule) (htwin : controller.rule? other = some twin)
    (hsame : twin.name = rule.name) :
    other = id ∨ RuleDeclaration.IsAmbiguous model.rules rule.name := by
  obtain ⟨left, hleft, hrule⟩ := rule?_eq_some_iff.1 hrule
  obtain ⟨right, hright, htwin⟩ := rule?_eq_some_iff.1 htwin
  have hname : left.declaration.nameAt? id.rule = some rule.name :=
    (hmade.made left (List.mem_of_getElem? hleft)).nameAt? hrule
  have htwinName : right.declaration.nameAt? other.rule = some rule.name :=
    hsame ▸ (hmade.made right (List.mem_of_getElem? hright)).nameAt? htwin
  have hleftRule := hmade.getElem?_rules hleft
  have hrightRule := hmade.getElem?_rules hright
  by_cases hruleset : other.ruleset = id.ruleset
  · left
    rw [hruleset, hleft] at hright
    obtain rfl := Option.some.inj hright
    have hposition := RuleDeclaration.position_eq_of_nameAt? htwinName hname
    calc
      other = ⟨other.ruleset, other.rule⟩ := rfl
      _ = ⟨id.ruleset, id.rule⟩ := by rw [hruleset, hposition]
      _ = id := rfl
  · right
    have hdiffer : left.declaration.name ≠ right.declaration.name := by
      intro heq
      have hnames : (model.rules.map (·.name))[other.ruleset]? =
          (model.rules.map (·.name))[id.ruleset]? := by
        rw [List.getElem?_map, List.getElem?_map, hleftRule, hrightRule, Option.map_some,
          Option.map_some, heq]
      have hbound := (List.getElem?_eq_some_iff.1 hrightRule).1
      rw [← List.length_map (·.name)] at hbound
      exact hruleset ((List.getElem?_inj hbound hnodup).1 hnames)
    exact RuleDeclaration.isAmbiguous_of_nameAt? (List.mem_of_getElem? hleftRule)
      (List.mem_of_getElem? hrightRule) hdiffer hname htwinName

end IsMadeFrom

theorem fireByName_of_ruleId? (hfound : controller.ruleId? name = some found) (outside : Outside) :
    controller.fireByName outside name = controller.fire outside found := by
  rw [fireByName, hfound]

/-- However a controller was used, the name of an instance finds the first instance of this name, and firing
by the name fires just that one. Unless what was declared makes the name ambiguous, it is the instance
itself, and no other has the name. -/
theorem name_finds_instance {setup : ControllerSetup Outside} {model : Model Outside}
    {declarations : Declarations Outside} {loaded outside : Outside}
    (hmodel : (declarations.build loaded).result = .ok model) {built : Controller Outside}
    (hbuild : (setup.build model outside).result = .ok built)
    {permitted : Operation Outside → Controller Outside → Outside → Prop} {notices : List Notice}
    (hproceeds : Proceeds permitted built controller notices)
    (hrule : controller.rule? id = some rule) :
    ∃ found first, controller.ruleId? rule.name = some found ∧
      controller.rule? found = some first ∧ first.name = rule.name ∧
      (∀ other twin, controller.rule? other = some twin → twin.name = rule.name →
        found = other ∨ found.before other = true) ∧
      (∀ outside, controller.fireByName outside rule.name = controller.fire outside found) ∧
      (¬RuleDeclaration.IsAmbiguous model.rules rule.name →
        found = id ∧ ∀ other twin, controller.rule? other = some twin → twin.name = rule.name →
          other = id) := by
  have hmade := isMadeFrom_of_proceeds (isMadeFrom_of_build hbuild) hproceeds
  have hnodup := Model.nodup_ruleNames_of_build hmodel
  obtain ⟨found, hfound⟩ := exists_ruleId? hrule
  obtain ⟨⟨first, hfirst, hname⟩, hbefore⟩ := rule?_of_ruleId? hfound
  refine ⟨found, first, hfound, hfirst, hname, hbefore, fireByName_of_ruleId? hfound, ?_⟩
  intro hclear
  have hunique (other : RuleId) (twin : Rule Outside) (htwin : controller.rule? other = some twin)
      (hsame : twin.name = rule.name) : other = id :=
    (hmade.eq_or_isAmbiguous hnodup hrule htwin hsame).resolve_right hclear
  exact ⟨hunique found first hfirst hname, hunique⟩

/-- One number for each floor below the one where the lift is. -/
def floorsBelow : Query (List Value) :=
  .read "floor" fun held => .done <|
    .ok (List.replicate ((held.toOption.bind Value.asNumber?).getD 0).toNatClampNeg (.number 0))

/-- A lift that goes down to any floor below. The rule that sends it up to the second floor has a name that
one would give to going down to the ground. -/
def lift : Declarations Unit where
  entries := [⟨"floor", .range 0 9, none⟩]
  rules := [⟨"go", .family (fun _ => floorsBelow)
      fun position _ => Effect.overwrite "floor" (.number (Int64.ofNat position))⟩,
    ⟨"go(0)", .single fun _ => Effect.overwrite "floor" (.number 2)⟩]
  invariants := []
  init? := none

/-- The lift went up, and there are floors below it now. -/
def risen (built : Controller Unit) : Controller Unit :=
  ((Operation.call (.fire ⟨1, 0⟩)).outcome built ()).controller

/-- Going down to the first floor is found by its name. -/
theorem name_finds_instance_lift :
    ∃ model, (lift.build ()).result = .ok model ∧
      ∃ built, (ControllerSetup.standard.build model ()).result = .ok built ∧
        (risen built).rulesets.map (·.rules.map (·.name)) = [["go(0)", "go(1)"], ["go(0)"]] ∧
        (risen built).ruleId? "go(1)" = some ⟨0, 1⟩ ∧
        (risen built).fireByName () "go(1)" = (risen built).fire () ⟨0, 1⟩ := by
  obtain ⟨model, hmodel⟩ : ∃ model, (lift.build ()).result = .ok model := ⟨_, rfl⟩
  obtain ⟨built, hbuild⟩ :
      ∃ built, (ControllerSetup.standard.build model ()).result = .ok built := by
    cases hmodel
    exact ⟨_, rfl⟩
  have hproceeds : Proceeds (fun _ _ _ => True) built (risen built) _ :=
    Proceeds.start.perform (.call (.fire ⟨1, 0⟩)) () trivial
  obtain ⟨rule, hrule, hname⟩ : ∃ rule, (risen built).rule? ⟨0, 1⟩ = some rule ∧
      rule.name = "go(1)" := by
    cases hmodel
    cases hbuild
    exact ⟨_, rfl, by decide⟩
  have hclear : ¬RuleDeclaration.IsAmbiguous model.rules rule.name := by
    rw [hname]
    rintro ⟨⟨single, hmem, hsingle, hsame⟩, -⟩
    cases hmodel
    rcases List.mem_pair.1 hmem with rfl | rfl
    · cases hsingle
    · exact absurd hsame (by decide)
  obtain ⟨found, first, hfound, -, -, -, hfire, hunique⟩ :=
    name_finds_instance hmodel hbuild hproceeds hrule
  obtain ⟨rfl, -⟩ := hunique hclear
  rw [hname] at hfound hfire
  refine ⟨model, hmodel, built, hbuild, ?_, hfound, hfire ()⟩
  cases hmodel
  cases hbuild
  decide

/-- On the second floor, the name of the rule that sends the lift up finds that of going down to the ground,
and firing by the name takes it there. -/
theorem name_finds_another_instance :
    ∃ model, (lift.build ()).result = .ok model ∧
      ∃ built, (ControllerSetup.standard.build model ()).result = .ok built ∧
        ((risen built).rule? ⟨1, 0⟩).map (·.name) = some "go(0)" ∧
        (risen built).ruleId? "go(0)" = some ⟨0, 0⟩ ∧
        ((risen built).fire () ⟨1, 0⟩).controller.bank.peek "floor" = .ok (.number 2) ∧
        ((risen built).fireByName () "go(0)").controller.bank.peek "floor" = .ok (.number 0) :=
  ⟨_, rfl, _, rfl, by decide, by decide, rfl, rfl⟩

end Controller

end TransitionEngine
