import TransitionEngine.Monitor.Notice
import TransitionEngine.Program

/-!
# Models

A model is a bank of variables with rules that change it, invariants that are to hold and code that
sets up its starting state. All of these may also depend on the outside, which is whatever the model
does not keep in its variables; a deterministic one is the same for every outside.
-/

namespace TransitionEngine

variable {Outside : Type}

/-- A check says by a violation that its invariant does not hold. -/
abbrev Check (Outside : Type) := Outside → Query Unit

inductive RuleBody (Outside : Type) where
  | single (effect : Outside → Effect Unit)
  /-- A transition for each element of a domain, which gets the position of its element. -/
  | family (domain : Outside → Query (List Value)) (effect : Nat → Outside → Effect Unit)

structure VariableDeclaration where
  name : String
  type : ModelType
  constant? : Option Value

structure RuleDeclaration (Outside : Type) where
  name : String
  body : RuleBody Outside

structure InvariantDeclaration (Outside : Type) where
  name : String
  check : Check Outside

structure Declarations (Outside : Type) where
  entries : List VariableDeclaration
  rules : List (RuleDeclaration Outside)
  invariants : List (InvariantDeclaration Outside)
  init? : Option (Outside → Effect Unit)

structure Model (Outside : Type) where
  bank : Bank
  rules : List (RuleDeclaration Outside)
  invariants : List (InvariantDeclaration Outside)
  init? : Option (Outside → Effect Unit)

/-- A variable with the default of its type, or a constant with a value that its type admits. -/
def VariableDeclaration.toVariable (declaration : VariableDeclaration) :
    Except ValueError Variable :=
  match declaration.constant? with
  | none => .ok (.ofType declaration.name declaration.type)
  | some value => do
      declaration.type.admits value
      return ⟨declaration.name, declaration.type, true, value⟩

def Bank.ofDeclarations (declarations : List VariableDeclaration) : Except EngineError Bank :=
  declarations.foldlM (fun bank declaration => do
    let entry ← declaration.toVariable.mapError EngineError.value
    bank.declare entry) Bank.empty

/-- The first name that occurs a second time. -/
def repeated? (seen : List String) : List String → Option String
  | [] => none
  | name :: rest => if name ∈ seen then some name else repeated? (name :: seen) rest

theorem repeated?_eq_none_iff {seen names : List String} :
    repeated? seen names = none ↔ names.Nodup ∧ ∀ name ∈ names, name ∉ seen := by
  induction names generalizing seen with
  | nil => simp [repeated?]
  | cons name rest ih =>
      simp only [repeated?]
      split
      · simp_all
      · rw [ih, List.nodup_cons]
        grind

def requireDistinct (names : List String) (cause : String → ConfigCause) :
    Except EngineError Unit :=
  match repeated? [] names with
  | some name => .error (.config (cause name))
  | none => .ok ()

namespace Model

/-- Runs the setting-up code, if there is any. When it fails, what it wrote stays. -/
def runInit (model : Model Outside) (outside : Outside) :
    Except EngineError Unit × Model Outside :=
  match model.init? with
  | none => (.ok (), model)
  | some init =>
      let run := (init outside).run model.bank ∅
      (run.outcome, { model with bank := run.bank })

/-- Puts every variable to its default and runs the setting-up code again. When that fails, the
variables keep their values. -/
def reset (model : Model Outside) (outside : Outside) : Except EngineError (Model Outside) :=
  match { model with bank := model.bank.reset }.runInit outside with
  | (.ok (), model) => .ok model
  | (.error error, _) => .error error

def loaded (model : Model Outside) : Diagnostic :=
  .modelLoaded model.bank.entries.length model.rules.length model.invariants.length

end Model

namespace Declarations

/-- The model before its setting-up code has run. -/
def declare (declarations : Declarations Outside) : Except EngineError (Model Outside) := do
  let bank ← Bank.ofDeclarations declarations.entries
  requireDistinct (declarations.rules.map (·.name)) .ruleDeclaredTwice
  requireDistinct (declarations.invariants.map (·.name)) .invariantDeclaredTwice
  return ⟨bank, declarations.rules, declarations.invariants, declarations.init?⟩

def build (declarations : Declarations Outside) (outside : Outside) : Built (Model Outside) :=
  match declarations.declare with
  | .error error => ⟨.error error, []⟩
  | .ok model =>
      match model.runInit outside with
      | (.error error, _) => ⟨.error error, []⟩
      | (.ok (), model) => ⟨.ok model, [.logged model.loaded]⟩

end Declarations

end TransitionEngine
