import TransitionEngine.Model

/-!
# Rules and invariants at work

A rule whose firing changed nothing goes dormant, together with the names that the firing read: until
one of those variables changes, firing it again would change nothing either. A ruleset holds the
instances of one declared rule, and regenerates those of a family when its domain may have changed.
-/

namespace TransitionEngine

variable {Outside : Type}

structure RuleId where
  ruleset : Nat
  rule : Nat
  deriving DecidableEq

namespace RuleId

def display (id : RuleId) : String :=
  toString id.ruleset ++ "/" ++ toString id.rule

/-- Ids are ordered by their ruleset, then by their instance. -/
def before (left right : RuleId) : Bool :=
  left.ruleset < right.ruleset || (left.ruleset = right.ruleset && left.rule < right.rule)

theorem before_iff {left right : RuleId} :
    left.before right = true ↔
      left.ruleset < right.ruleset ∨ left.ruleset = right.ruleset ∧ left.rule < right.rule := by
  simp [before]

end RuleId

structure Rule (Outside : Type) where
  name : String
  /-- False while the last firing is known to have changed nothing. -/
  isActive : Bool
  /-- What that firing read; none while the rule is active. -/
  readset : Option NameSet
  effect : Outside → Effect Unit

namespace Rule

def fresh (name : String) (effect : Outside → Effect Unit) : Rule Outside :=
  ⟨name, true, none, effect⟩

def sleep (rule : Rule Outside) (readset : NameSet) : Rule Outside :=
  { rule with isActive := false, readset := some readset }

def wake (rule : Rule Outside) : Rule Outside :=
  { rule with isActive := true, readset := none }

/-- Wakes a dormant rule when the change touches what it read. -/
def wakeIf (changes : Changeset) (rule : Rule Outside) : Rule Outside :=
  if !rule.isActive && (rule.readset.map changes.affects).getD true then rule.wake else rule

end Rule

/-- The instances of one declared rule, with the names that the domain of a family read. -/
structure Ruleset (Outside : Type) where
  name : String
  body : RuleBody Outside
  rules : List (Rule Outside)
  readset : NameSet

namespace Ruleset

def isFamily (ruleset : Ruleset Outside) : Bool :=
  match ruleset.body with
  | .single _ => false
  | .family _ _ => true

/-- The instance of a family at this position of its domain. -/
def instanceAt (name : String) (effect : Nat → Outside → Effect Unit) (position : Nat) :
    Rule Outside :=
  .fresh (name ++ "(" ++ toString position ++ ")") (effect position)

/-- Wakes a single rule; evaluates the domain of a family and makes its instances anew. -/
def regenerate (ruleset : Ruleset Outside) (outside : Outside) (bank : Bank) :
    Except EngineError (Ruleset Outside) :=
  match ruleset.body with
  | .single _ => .ok { ruleset with rules := ruleset.rules.map Rule.wake }
  | .family domain effect =>
      let answer := (domain outside).run bank ∅
      match answer.outcome with
      | .error error => .error error
      | .ok elements =>
          .ok { ruleset with
            rules := (List.range elements.length).map (instanceAt ruleset.name effect)
            readset := answer.readset }

def ofDeclaration (declaration : RuleDeclaration Outside) (outside : Outside) (bank : Bank) :
    Except EngineError (Ruleset Outside) :=
  match declaration.body with
  | .single effect =>
      .ok ⟨declaration.name, declaration.body, [.fresh declaration.name effect], ∅⟩
  | .family _ _ =>
      (⟨declaration.name, declaration.body, [], ∅⟩ : Ruleset Outside).regenerate outside bank

/-- Regenerates the ruleset when the change touches what its domain read, else wakes the dormant
rules that it touches. -/
def report (ruleset : Ruleset Outside) (changes : Changeset) (outside : Outside) (bank : Bank) :
    Except EngineError (Ruleset Outside) :=
  if changes.affects ruleset.readset then ruleset.regenerate outside bank
  else .ok { ruleset with rules := ruleset.rules.map (Rule.wakeIf changes) }

/-- Reports a change to rulesets one after the other, up to the first whose domain fails. -/
def reportAll (changes : Changeset) (outside : Outside) (bank : Bank) :
    List (Ruleset Outside) → Except EngineError Unit × List (Ruleset Outside)
  | [] => (.ok (), [])
  | ruleset :: rest =>
      match ruleset.report changes outside bank with
      | .error error => (.error error, ruleset :: rest)
      | .ok ruleset =>
          let (result, rest) := reportAll changes outside bank rest
          (result, ruleset :: rest)

end Ruleset

structure Invariant (Outside : Type) where
  name : String
  isActive : Bool
  /-- What the last check that succeeded read. -/
  readset : Option NameSet
  check : Check Outside

namespace Invariant

def ofDeclaration (declaration : InvariantDeclaration Outside) : Invariant Outside :=
  ⟨declaration.name, true, none, declaration.check⟩

def activateIf (changes : Changeset) (invariant : Invariant Outside) : Invariant Outside :=
  if !invariant.isActive && (invariant.readset.map changes.affects).getD true then
    { invariant with isActive := true, readset := none }
  else invariant

end Invariant

inductive CheckResult where
  | held
  | violated (invariant : String) (violation : Violation)
  | failed (error : EngineError)

/-- Checks the active invariants in order up to the first that does not succeed; those before it
remember what they read. -/
def Invariant.checkAll (outside : Outside) (bank : Bank) :
    List (Invariant Outside) → CheckResult × List (Invariant Outside)
  | [] => (.held, [])
  | invariant :: rest =>
      if invariant.isActive then
        let answer := (invariant.check outside).run bank ∅
        match answer.outcome with
        | .ok () =>
            let (result, rest) := checkAll outside bank rest
            (result, { invariant with readset := some answer.readset } :: rest)
        | .error (.violation violation) => (.violated invariant.name violation, invariant :: rest)
        | .error error => (.failed error, invariant :: rest)
      else
        let (result, rest) := checkAll outside bank rest
        (result, invariant :: rest)

end TransitionEngine
