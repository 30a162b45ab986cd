import TransitionEngine.Proofs.Controller.Restarting

/-!
# One check after the other

Nothing that is done to a controller makes an invariant inactive, so a check of the invariants runs every one
of them, in the order of their declaration, up to the first that does not succeed. Those before it remember
what they read on the way; it and those behind it are as they were.
-/

namespace TransitionEngine

variable {Outside : Type}

namespace Invariant

/-- What the check of the invariant comes to on the variables, and what it reads. -/
def answer (outside : Outside) (bank : Bank) (invariant : Invariant Outside) : Answer Unit :=
  (invariant.check outside).run bank ∅

def Holds (outside : Outside) (bank : Bank) (invariant : Invariant Outside) : Prop :=
  (invariant.answer outside bank).outcome = .ok ()

/-- The invariant with what its check reads. -/
def remember (outside : Outside) (bank : Bank) (invariant : Invariant Outside) : Invariant Outside :=
  { invariant with readset := some (invariant.answer outside bank).readset }

def declaration (invariant : Invariant Outside) : InvariantDeclaration Outside :=
  ⟨invariant.name, invariant.check⟩

variable {outside : Outside} {bank : Bank} {earlier : List (Invariant Outside)}

/-- Invariants that hold are passed by, and remember what they read. -/
theorem checkAll_append_of_holds (hactive : ∀ invariant ∈ earlier, invariant.isActive = true)
    (hholds : ∀ invariant ∈ earlier, invariant.Holds outside bank)
    (later : List (Invariant Outside)) :
    checkAll outside bank (earlier ++ later) =
      ((checkAll outside bank later).1,
        earlier.map (remember outside bank) ++ (checkAll outside bank later).2) := by
  induction earlier with
  | nil => rfl
  | cons invariant rest ih =>
      obtain ⟨hfirst, hrest⟩ := List.forall_mem_cons.1 hactive
      obtain ⟨hheld, hothers⟩ := List.forall_mem_cons.1 hholds
      have houtcome : ((invariant.check outside).run bank ∅).outcome = .ok () := hheld
      rw [List.cons_append, checkAll, if_pos hfirst]
      dsimp only
      rw [houtcome, ih hrest hothers]
      rfl

theorem checkAll_of_holds {invariants : List (Invariant Outside)}
    (hactive : ∀ invariant ∈ invariants, invariant.isActive = true)
    (hholds : ∀ invariant ∈ invariants, invariant.Holds outside bank) :
    checkAll outside bank invariants = (.held, invariants.map (remember outside bank)) := by
  have hall := checkAll_append_of_holds hactive hholds []
  rwa [List.append_nil, checkAll, List.append_nil] at hall

/-- What an error of the check ends the whole check with. -/
def ended (invariant : Invariant Outside) : EngineError → CheckResult
  | .violation violation => .violated invariant.name violation
  | error => .failed error

theorem ended_eq_failed (invariant : Invariant Outside) {error : EngineError}
    (hother : ∀ violation, error ≠ .violation violation) :
    invariant.ended error = .failed error := by
  cases error with
  | violation violation => exact absurd rfl (hother violation)
  | value | invariantFailed | unknownVariable | unknownRule | snapshotOutOfRange | config => rfl

/-- The first invariant that does not hold ends the check. -/
theorem checkAll_of_fails {failing : Invariant Outside} {later : List (Invariant Outside)}
    (hactive : ∀ invariant ∈ earlier ++ failing :: later, invariant.isActive = true)
    (hearlier : ∀ invariant ∈ earlier, invariant.Holds outside bank) {error : EngineError}
    (hfails : (failing.answer outside bank).outcome = .error error) :
    checkAll outside bank (earlier ++ failing :: later) =
      (failing.ended error, earlier.map (remember outside bank) ++ failing :: later) := by
  obtain ⟨hbefore, hrest⟩ := List.forall_mem_append.1 hactive
  have houtcome : ((failing.check outside).run bank ∅).outcome = .error error := hfails
  rw [checkAll_append_of_holds hbefore hearlier, checkAll,
    if_pos (hrest failing (List.mem_cons_self ..))]
  dsimp only
  rw [houtcome]
  cases error <;> rfl

end Invariant

namespace Controller

variable {controller : Controller Outside} {model : Model Outside} {outside : Outside}

/-- The invariants are those that were declared, in their order, and all of them are active. -/
theorem IsMadeFrom.invariants (hmade : controller.IsMadeFrom model) :
    controller.invariants.map Invariant.declaration = model.invariants ∧
      ∀ invariant ∈ controller.invariants, invariant.isActive = true := by
  obtain ⟨⟨setup, hof⟩, -⟩ := hmade
  constructor
  · have hdeclared := congrArg (List.map Invariant.declaration) hof.invariants
    rw [List.map_map, List.map_map] at hdeclared
    calc
      controller.invariants.map Invariant.declaration
        = controller.invariants.map (Invariant.declaration ∘ Invariant.unread) := rfl
      _ = model.invariants.map (Invariant.declaration ∘ Invariant.ofDeclaration) := hdeclared
      _ = model.invariants := List.map_id _
  · exact fun invariant hmem => (Invariant.exists_declared hof.invariants hmem).1

section Checking

variable (hactive : ∀ invariant ∈ controller.invariants, invariant.isActive = true)

include hactive

theorem checkInvariants_of_holds
    (hholds : ∀ invariant ∈ controller.invariants, invariant.Holds outside controller.bank) :
    controller.checkInvariants outside =
      ⟨.ok true,
        { controller with
          invariants := controller.invariants.map (Invariant.remember outside controller.bank)
          invariantsHold := true }, []⟩ := by
  rw [checkInvariants, Invariant.checkAll_of_holds hactive hholds]

variable {earlier later : List (Invariant Outside)} {failing : Invariant Outside}
  (hsplit : controller.invariants = earlier ++ failing :: later)
  (hearlier : ∀ invariant ∈ earlier, invariant.Holds outside controller.bank)

include hsplit hearlier

theorem checkInvariants_of_violation {violation : Violation} {message : String}
    (hfails : (failing.answer outside controller.bank).outcome = .error (.violation violation))
    (hmessage : message = "Failed invariant " ++ failing.name ++ ": " ++ violation.message) :
    controller.checkInvariants outside =
      ⟨(controller.errorHook outside message violation).map fun _ => false,
        { controller with
          invariants := earlier.map (Invariant.remember outside controller.bank) ++ failing :: later
          invariantsHold := false },
        [.event (.invariantFailed failing.name message), .errorHookCalled message violation]⟩ := by
  rw [hsplit] at hactive
  rw [checkInvariants, hsplit, Invariant.checkAll_of_fails hactive hearlier hfails, hmessage]
  rfl

theorem checkInvariants_of_failure {error : EngineError}
    (hfails : (failing.answer outside controller.bank).outcome = .error error)
    (hother : ∀ violation, error ≠ .violation violation) :
    controller.checkInvariants outside =
      ⟨.error error,
        { controller with
          invariants := earlier.map (Invariant.remember outside controller.bank) ++ failing :: later },
        []⟩ := by
  rw [hsplit] at hactive
  rw [checkInvariants, hsplit, Invariant.checkAll_of_fails hactive hearlier hfails,
    failing.ended_eq_failed hother]

end Checking

/-- However a controller was used, its invariants are active, and a check of them on any variables runs them
in the order of their declaration. When all of them hold, that is the result. Otherwise the first that does
not hold decides: a violation is told once to the sink and once to the error hook, another failure is the
result and is told to nobody. Nothing is changed but the invariants before it and the flag. -/
theorem check_stops_at_first_failure {setup : ControllerSetup Outside} {loaded : Outside}
    {built : Controller Outside} (hbuild : (setup.build model loaded).result = .ok built)
    {permitted : Operation Outside → Controller Outside → Outside → Prop} {notices : List Notice}
    (hproceeds : Proceeds permitted built controller notices) :
    controller.invariants.map Invariant.declaration = model.invariants ∧
      (∀ invariant ∈ controller.invariants, invariant.isActive = true) ∧
      ∀ bank outside,
        let live := controller.withBank bank
        ((∀ invariant ∈ controller.invariants, invariant.Holds outside bank) →
          live.checkInvariants outside =
            ⟨.ok true,
              { live with
                invariants := controller.invariants.map (Invariant.remember outside bank)
                invariantsHold := true }, []⟩) ∧
        ∀ earlier failing later, controller.invariants = earlier ++ failing :: later →
          (∀ invariant ∈ earlier, invariant.Holds outside bank) →
          let invariants := earlier.map (Invariant.remember outside bank) ++ failing :: later
          (∀ violation,
            (failing.answer outside bank).outcome = .error (.violation violation) →
            let message := "Failed invariant " ++ failing.name ++ ": " ++ violation.message
            live.checkInvariants outside =
              ⟨(controller.errorHook outside message violation).map fun _ => false,
                { live with invariants, invariantsHold := false },
                [.event (.invariantFailed failing.name message),
                  .errorHookCalled message violation]⟩) ∧
          ∀ error, (failing.answer outside bank).outcome = .error error →
            (∀ violation, error ≠ .violation violation) →
            live.checkInvariants outside = ⟨.error error, { live with invariants }, []⟩ := by
  obtain ⟨hdeclared, hactive⟩ :=
    (isMadeFrom_of_proceeds (isMadeFrom_of_build hbuild) hproceeds).invariants
  refine ⟨hdeclared, hactive, fun bank outside => ?_⟩
  have hlive : ∀ invariant ∈ (controller.withBank bank).invariants, invariant.isActive = true :=
    hactive
  constructor
  · exact fun hholds => checkInvariants_of_holds hlive hholds
  · intro earlier failing later hsplit hearlier
    constructor
    · intro violation hfails
      exact checkInvariants_of_violation hlive hsplit hearlier hfails rfl
    · intro error hfails hother
      exact checkInvariants_of_failure hlive hsplit hearlier hfails hother

/-- The kettle is not to be too hot. How hot that is at heat 9 is looked up in a variable that it does not
have. -/
def notTooHot : Query Unit :=
  .read "heat" fun held =>
    match (held.toOption.bind Value.asNumber?).getD 0 with
    | 7 => .done (.error (.violation ⟨"too hot"⟩))
    | 9 => .read "limit" fun limit => .done (limit.map fun _ => ())
    | _ => .done (.ok ())

/-- A kettle, with a check before that of its heat and one behind it. -/
def kettle : Declarations Unit where
  entries := [⟨"heat", .range 0 9, none⟩, ⟨"water", .number, none⟩]
  rules := [⟨"heat", .single fun _ => Effect.overwrite "heat" (.number 7)⟩]
  invariants := [⟨"filled", fun _ => .read "water" fun water => .done (water.map fun _ => ())⟩,
    ⟨"cool", fun _ => notTooHot⟩, ⟨"present", fun _ => .done (.ok ())⟩]
  init? := none

/-- The kettle was heated, which stands though it broke an invariant. -/
def heated (built : Controller Unit) : Controller Unit :=
  ((Operation.call (.fire ⟨0, 0⟩)).outcome built ()).controller

def kettleAt (heat : Int64) : Bank :=
  ⟨[⟨"heat", .range 0 9, false, .number heat⟩, ⟨"water", .number, false, .number 0⟩],
    (by decide : ["heat", "water"].Nodup)⟩

/-- At one heat all invariants hold, at another the second is violated, at a third its check fails. -/
theorem check_stops_at_first_failure_kettle :
    ∃ model, (kettle.build ()).result = .ok model ∧
      ∃ built, (ControllerSetup.standard.build model ()).result = .ok built ∧
        ∃ filled cool present, (heated built).invariants = [filled, cool, present] ∧
          let checked (heat : Int64) :=
            ((heated built).withBank (kettleAt heat)).checkInvariants ()
          (checked 1).result = .ok true ∧ (checked 1).controller.invariantsHold = true ∧
            (checked 1).notices = [] ∧
          (checked 7).result =
              .error (.invariantFailed "Failed invariant cool: too hot" ⟨"too hot"⟩) ∧
            (checked 7).controller.invariants =
              [filled.remember () (kettleAt 7), cool, present] ∧
            (checked 7).notices =
              [.event (.invariantFailed "cool" "Failed invariant cool: too hot"),
                .errorHookCalled "Failed invariant cool: too hot" ⟨"too hot"⟩] ∧
          (checked 9).result = .error (.unknownVariable "limit") ∧ (checked 9).notices = [] := by
  obtain ⟨model, hmodel⟩ : ∃ model, (kettle.build ()).result = .ok model := ⟨_, rfl⟩
  obtain ⟨built, hbuild⟩ :
      ∃ built, (ControllerSetup.standard.build model ()).result = .ok built := by
    cases hmodel
    exact ⟨_, rfl⟩
  have hproceeds : Proceeds (fun _ _ _ => True) built (heated built) _ :=
    Proceeds.start.perform (.call (.fire ⟨0, 0⟩)) () trivial
  obtain ⟨-, -, hcheck⟩ := check_stops_at_first_failure hbuild hproceeds
  have hhook : (heated built).errorHook = .refuse := by
    cases hmodel
    cases hbuild
    rfl
  obtain ⟨filled, cool, present, hinvariants, hfilled, hcool, hpresent, hname⟩ :
      ∃ filled cool present, (heated built).invariants = [filled, cool, present] ∧
        (∀ heat, filled.Holds () (kettleAt heat)) ∧ cool.check = (fun _ => notTooHot) ∧
          (∀ heat, present.Holds () (kettleAt heat)) ∧ cool.name = "cool" := by
    cases hmodel
    cases hbuild
    exact ⟨_, _, _, rfl, fun _ => rfl, rfl, fun _ => rfl, rfl⟩
  refine ⟨model, hmodel, built, hbuild, filled, cool, present, hinvariants, ?_⟩
  have hanswer (heat : Int64) : (cool.answer () (kettleAt heat)).outcome =
      (notTooHot.run (kettleAt heat) ∅).outcome := by
    rw [Invariant.answer, hcool]
  have hbefore (heat : Int64) : ∀ invariant ∈ [filled], invariant.Holds () (kettleAt heat) :=
    List.forall_mem_singleton.2 (hfilled heat)
  have hall : ∀ invariant ∈ (heated built).invariants, invariant.Holds () (kettleAt 1) := by
    rw [hinvariants]
    exact List.forall_mem_cons.2 ⟨hfilled 1, List.forall_mem_cons.2
      ⟨hanswer 1, List.forall_mem_singleton.2 (hpresent 1)⟩⟩
  have hheld := (hcheck (kettleAt 1) ()).1 hall
  have hviolated := ((hcheck (kettleAt 7) ()).2 [filled] cool [present] hinvariants
    (hbefore 7)).1 ⟨"too hot"⟩ (hanswer 7)
  have hfailed := ((hcheck (kettleAt 9) ()).2 [filled] cool [present] hinvariants
    (hbefore 9)).2 (.unknownVariable "limit") (hanswer 9) (by simp)
  dsimp only at hheld hviolated hfailed ⊢
  rw [hheld, hviolated, hfailed, hhook, hname]
  exact ⟨rfl, rfl, rfl, rfl, rfl, rfl, rfl, rfl⟩

end Controller

end TransitionEngine
