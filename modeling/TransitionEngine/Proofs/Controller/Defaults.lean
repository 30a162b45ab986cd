import TransitionEngine.Proofs.Bank.Restoring
import TransitionEngine.Proofs.Controller.Consistency
import TransitionEngine.Proofs.Starting
import TransitionEngine.Proofs.Typing.Admission
import TransitionEngine.Proofs.Typing.Construction

/-!
# Going back to the defaults

A model without setting-up code starts with the defaults of its types. When the types come from the
checked constructors, these can be restored, unless a record or a variant declares one name with several
types: then the default that is kept for the name may be none that the other types decode.
-/

namespace TransitionEngine

variable {Outside : Type}

/-- Variables that are declared conform when the defaults of their types do. -/
theorem Bank.conforms_of_ofDeclarations {declared : List VariableDeclaration} {bank : Bank}
    (hbank : Bank.ofDeclarations declared = .ok bank)
    (hdefaults : ∀ declaration ∈ declared, declaration.constant? = none →
      TransitionEngine.Conforms declaration.type declaration.type.defaultValue) : bank.Conforms := by
  intro entry hmem hwritable
  have hreset : entry.reset = entry := by
    have hentries : bank.entries.map Variable.reset = bank.entries.map id := by
      rw [List.map_id]
      exact congrArg Bank.entries (Bank.reset_of_ofDeclarations hbank)
    exact List.map_inj_left.1 hentries entry hmem
  have hvalue : entry.value = entry.type.defaultValue := by
    rw [← hreset, Variable.reset, if_neg (by simp [hwritable])]
  have hdeclared : entry.declaration ∈ declared := by
    rw [← Bank.declarations_of_ofDeclarations hbank]
    exact List.mem_map_of_mem hmem
  have hconstant : entry.declaration.constant? = none := by simp [Variable.declaration, hwritable]
  rw [hvalue]
  exact hdefaults entry.declaration hdeclared hconstant

/-- Without setting-up code a model starts with what it declares. -/
theorem Model.conforms_of_build {declarations : Declarations Outside} {loaded : Outside}
    {model : Model Outside} (hmodel : (declarations.build loaded).result = .ok model)
    (hinit : declarations.init? = none)
    (hdefaults : ∀ declaration ∈ declarations.entries, declaration.constant? = none →
      Conforms declaration.type declaration.type.defaultValue) : model.bank.Conforms := by
  obtain ⟨bank, hbank, hrun⟩ := Declarations.exists_of_build hmodel
  have hkept : model.bank = bank := by
    rw [runInit, hinit] at hrun
    exact (congrArg (fun run => run.2.bank) hrun).symm
  rw [hkept]
  exact Bank.conforms_of_ofDeclarations hbank hdefaults

namespace Controller

theorem current_of_build {setup : ControllerSetup Outside} {model : Model Outside} {outside : Outside}
    {built : Controller Outside} (hbuild : (setup.build model outside).result = .ok built) :
    built.current.state = model.bank.save := by
  obtain ⟨rulesets, -, hcore⟩ := core_of_build hbuild
  exact congrArg (fun core => core.history.current.state) hcore

/-- The default of a type from the constructors can be stored and is decoded from its document, as long as
fields of one name are of one type. Where this is so for all variables of a model without setting-up code,
its first state can be restored from whatever the variables were changed to. -/
theorem defaults_are_restorable :
    (∀ type : ModelType, type.Constructible → type.HasOneTypePerName →
        type.admits type.defaultValue = .ok () ∧
          ∃ decoded, type.decode type.defaultValue.toJson = .ok decoded ∧
            (decoded == type.defaultValue) = true) ∧
      ∀ (declarations : Declarations Outside) (loaded : Outside) (model : Model Outside),
        declarations.init? = none → (declarations.build loaded).result = .ok model →
        (∀ declared ∈ declarations.entries, declared.constant? = none →
          declared.type.Constructible ∧ declared.type.HasOneTypePerName) →
        ∀ (setup : ControllerSetup Outside) (outside : Outside) (built : Controller Outside),
          (setup.build model outside).result = .ok built →
          ∀ bank : Bank, bank.declarations = declarations.entries →
            ∃ restored, bank.restore built.current.state = .ok restored ∧
              model.bank.Agree restored := by
  constructor
  · intro type htype hnames
    have hconforms := (ModelType.startsConforming_of_constructible htype hnames).1
    exact ⟨ModelType.admits_of_conforms hconforms, ModelType.recovers_of_conforms hconforms⟩
  · intro declarations loaded model hinit hmodel htypes setup outside built hbuild bank hdeclared
    have hconforms : model.bank.Conforms := by
      refine Model.conforms_of_build hmodel hinit fun declared hmem hvariable => ?_
      obtain ⟨htype, hnames⟩ := htypes declared hmem hvariable
      exact (ModelType.startsConforming_of_constructible htype hnames).1
    have hsame : model.bank.declarations = bank.declarations :=
      (Model.declarations_of_build hmodel).trans hdeclared.symm
    rw [current_of_build hbuild]
    exact Bank.exists_agree_of_conforms hsame hconforms

/-- A shelf of two places, with the label of either, which is declared twice. -/
def shelfType : ModelType :=
  .record "Shelf" [("label", .range 1 5), ("books", .orderedSet .number 0 1), ("label", .range 1 5)]

def ladenShelf : Value :=
  .record [("books", .orderedSet ⟨.number, 0, [.number 7], [.number 0]⟩), ("label", .number 5)]

def shelf (content : Value) : Bank :=
  ⟨[⟨"held", shelfType, false, content⟩], (by decide : ["held"].Nodup)⟩

/-- A label that is to be low and high at once. -/
def clashType : ModelType :=
  .record "Clash" [("label", .range 1 5), ("label", .range 7 9)]

/-- A model with nothing but one variable of this type. -/
def holding (type : ModelType) : Declarations Unit :=
  ⟨[⟨"held", type, none⟩], [], [], none⟩

theorem constructible_label {low high : Int64} (hlow : low ≤ high) :
    (ModelType.range low high).Constructible :=
  .range (ModelType.rangeOf_eq_ok_iff.2 ⟨hlow, rfl⟩)

theorem constructible_shelfType : shelfType.Constructible := by
  have hlabel : (ModelType.range 1 5).Constructible := constructible_label (by decide)
  refine .record ?_
  simp only [List.forall_mem_cons]
  have hindex : (ModelType.range 0 1).Constructible := constructible_label (by decide)
  exact ⟨hlabel, .orderedSet .number hindex rfl, hlabel, by simp⟩

theorem hasOneTypePerName_shelfType : shelfType.HasOneTypePerName := by
  intro fields hfields
  cases hfields with
  | record => simp
  | inRecord hfield hinner =>
      simp only [List.mem_cons, List.not_mem_nil, or_false] at hfield
      rcases hfield with rfl | rfl | rfl
      · cases hinner
      · cases hinner with
        | inOrderedSet helement => cases helement
      · cases hinner

/-- A shelf starts empty, and one with books on it can be cleared by going back to the start. -/
theorem defaults_are_restorable_shelf :
    shelfType.admits shelfType.defaultValue = .ok () ∧
      ∃ (model : Model Unit) (built : Controller Unit) (bank restored : Bank),
        ((holding shelfType).build ()).result = .ok model ∧
          (ControllerSetup.standard.build model ()).result = .ok built ∧
          bank.declarations = (holding shelfType).entries ∧ ¬ model.bank.Agree bank ∧
          bank.restore built.current.state = .ok restored ∧ model.bank.Agree restored := by
  obtain ⟨hdefault, hrestorable⟩ := @defaults_are_restorable Unit
  obtain ⟨hadmits, -⟩ := hdefault shelfType constructible_shelfType hasOneTypePerName_shelfType
  have hmodel : ((holding shelfType).build ()).result =
      .ok ⟨shelf shelfType.defaultValue, [], [], none⟩ := rfl
  have htypes : ∀ declared ∈ (holding shelfType).entries, declared.constant? = none →
      declared.type.Constructible ∧ declared.type.HasOneTypePerName :=
    List.forall_mem_singleton.2 fun _ => ⟨constructible_shelfType, hasOneTypePerName_shelfType⟩
  obtain ⟨restored, hrestore, hagree⟩ := hrestorable (holding shelfType) () _ rfl hmodel htypes .standard ()
    _ rfl (shelf ladenShelf) rfl
  refine ⟨hadmits, _, _, shelf ladenShelf, restored, hmodel, rfl, rfl, fun hsame => ?_, hrestore, hagree⟩
  have hheld (content : Value) :
      (shelf content).get? "held" = some ⟨"held", shelfType, false, content⟩ := rfl
  exact absurd (hsame.equal trivial (hheld _) (hheld _)) (by decide)

/-- When a name is declared with two types, the default that it gets may be decoded by one of them alone: then
the default can be stored, but neither the type nor the controller gets it back from its document. -/
theorem defaults_are_not_restorable :
    clashType.Constructible ∧ clashType.admits clashType.defaultValue = .ok () ∧
      clashType.decode clashType.defaultValue.toJson = .error (.bounds (.notInRange 7 "1..5")) ∧
      ∃ (model : Model Unit) (built : Controller Unit),
        ((holding clashType).build ()).result = .ok model ∧
          (ControllerSetup.standard.build model ()).result = .ok built ∧
          (built.restore () 0).result = .error (.value (.bounds (.notInRange 7 "1..5"))) := by
  refine ⟨.record ?_, rfl, rfl, _, _, rfl, rfl, rfl⟩
  simp only [List.forall_mem_cons]
  exact ⟨constructible_label (by decide), constructible_label (by decide), by simp⟩

end Controller

end TransitionEngine
