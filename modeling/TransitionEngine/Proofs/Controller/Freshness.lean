import TransitionEngine.Proofs.Controller.Dormancy
import TransitionEngine.Proofs.Rule.Freshness

/-!
# Families that are up to date

However a controller is used, every family has exactly the instances that its domain gives on the
live variables, and remembers what the domain reads there. For whatever changes a variable that the
domain has read makes the instances anew, and whatever else is called leaves those variables as they
were.
-/

namespace TransitionEngine

variable {Outside : Type} {declarations : List VariableDeclaration}
  {rules : List (RuleDeclaration Outside)}

/-- Every declared rule has its ruleset, which is fresh for the live variables. -/
def Core.IsFresh (rules : List (RuleDeclaration Outside)) (core : Core Outside) : Prop :=
  List.Forall₂ (fun declared ruleset => ruleset.IsFresh declared core.bank) rules core.rulesets

@[simp]
theorem Core.map_awake_sleep (core : Core Outside) (id : RuleId) (readset : NameSet) :
    (core.sleep id readset).rulesets.map Ruleset.awake = core.rulesets.map Ruleset.awake :=
  map_modify_of_kept (fun ruleset => ruleset.awake_sleepAt id.rule readset) _ _

/-- Fresh is what the declarations make, when the instances are woken. -/
theorem Core.isFresh_iff {core : Core Outside} : core.IsFresh rules ↔
    List.Forall₂ (fun declared awake => ∀ outside,
      Ruleset.ofDeclaration declared outside core.bank = .ok awake) rules
      (core.rulesets.map Ruleset.awake) := by
  rw [List.forall₂_map_right_iff]
  rfl

theorem Core.IsFresh.of_map_awake_eq {core other : Core Outside} (hfresh : core.IsFresh rules)
    (hbank : other.bank = core.bank)
    (hawake : other.rulesets.map Ruleset.awake = core.rulesets.map Ruleset.awake) :
    other.IsFresh rules := by
  rw [Core.isFresh_iff, hawake, hbank, ← Core.isFresh_iff]
  exact hfresh

section Agree

variable {core other : Core Outside} (hfresh : core.IsFresh rules)
  (hrepeats : ∀ declared ∈ rules, declared.body.DomainRepeats)

include hfresh hrepeats

/-- Rulesets stay fresh while the variables keep their values. -/
theorem Core.IsFresh.of_agree {bank : Bank} (hagree : core.bank.Agree bank) :
    Core.IsFresh rules { core with bank } :=
  ((List.forall₂_and_left _ _).2 ⟨hrepeats, hfresh⟩).imp fun _ _ hboth =>
    hboth.2.of_agreeOn hboth.1 (hagree.on _)

/-- Fresh rulesets for the same values differ in sleep alone. -/
theorem Core.IsFresh.map_awake_eq (hother : other.IsFresh rules)
    (hagree : core.bank.Agree other.bank) (outside : Outside) :
    core.rulesets.map Ruleset.awake = other.rulesets.map Ruleset.awake := by
  have hleft := Core.isFresh_iff.1 (hfresh.of_agree hrepeats hagree)
  have hright := Core.isFresh_iff.1 hother
  have hmade : rules.mapM (Ruleset.ofDeclaration · outside other.bank) =
      .ok (core.rulesets.map Ruleset.awake) :=
    Success.mapM_eq_ok_iff.2 (hleft.imp fun _ _ hmade => hmade outside)
  rw [Success.mapM_eq_ok_iff.2 (hright.imp fun _ _ hmade => hmade outside)] at hmade
  exact (Except.ok.inj hmade).symm

end Agree

/-- The current entry is the live state, the values conform, and the rulesets are fresh for them. -/
structure Core.IsCurrent (declarations : List VariableDeclaration)
    (rules : List (RuleDeclaration Outside)) (core : Core Outside) : Prop where
  consistent : core.IsConsistent declarations
  conforms : core.bank.Conforms
  fresh : core.IsFresh rules

/-- The domains, if there are any, depend on what they read alone, and they never fail on banks of
these declarations whose values conform. -/
structure RuleBody.IsReproducible (declarations : List VariableDeclaration)
    (body : RuleBody Outside) : Prop where
  repeats : body.DomainRepeats
  succeeds : body.DomainSucceeds (Bank.Fits declarations)

namespace Controller

section Fresh

variable {controller : Controller Outside} {outside : Outside} {call : Call Outside}
  {core : Core Outside}
  (hdistinct : ∀ declared ∈ declarations, declared.type.DistinctFields)
  (hdomains : ∀ declared ∈ rules, declared.body.IsReproducible declarations)

include hdistinct hdomains

theorem isCurrent_of_leaves (hcurrent : controller.core.IsCurrent declarations rules)
    (hkeeps : call.KeepsConforming controller outside)
    (hleaves : controller.Leaves outside call core) : core.IsCurrent declarations rules := by
  obtain ⟨hconsistent, hconforms, hfresh⟩ := hcurrent
  have hafter := isConsistent_of_leaves hconsistent hkeeps.succeedsConforming hleaves
  have hconforms' := conforms_of_leaves hdistinct hconsistent hconforms hkeeps hleaves
  refine ⟨hafter, hconforms', ?_⟩
  have hdeclared : controller.bank.declarations = core.bank.declarations :=
    hconsistent.declared.trans hafter.declared.symm
  have hfits : core.bank.Fits declarations := ⟨hafter.declared, hconforms'⟩
  have hrepeats declared (hmem : declared ∈ rules) : declared.body.DomainRepeats :=
    (hdomains declared hmem).repeats
  -- Where the history stays, the variables keep their values.
  have hkept (hhistory : core.history = controller.history) :
      Core.IsFresh rules { controller.core with bank := core.bank } := by
    have hlive := hafter.live
    rw [hhistory] at hlive
    exact hfresh.of_agree hrepeats <|
      Bank.agree_of_save_eq hdeclared hconforms hconforms' (hconsistent.live.trans hlive.symm)
  have hreported {changes : Changeset} (hagree : ∀ readset, changes.affects readset = false →
      controller.bank.AgreeOn (· ∈ readset) core.bank) :
      List.Forall₂ (fun declared ruleset => ruleset.IsFresh declared core.bank) rules
        (Ruleset.reportAll changes outside core.bank controller.rulesets).2 :=
    Ruleset.isFresh_reportAll hfresh hrepeats
      (fun declared hmem => (hdomains declared hmem).succeeds) hfits hagree outside
  cases hleaves with
  | nothing => exact hfresh
  | unchanged | undone => exact hkept rfl
  | @slept id rule _ _ _ _ =>
      exact (hkept rfl).of_map_awake_eq rfl (Core.map_awake_sleep ..)
  | @committed run message _ _ =>
      refine hreported fun readset haffects => ?_
      have hlive : controller.bank.save = controller.current.state := hconsistent.live
      rw [← hlive, Bank.affects_between_save_eq_false_iff] at haffects
      refine .of_document?_eq hdeclared hconforms hconforms' fun name hname => ?_
      exact (Bank.get?_save_eq_iff hdeclared name).1 (haffects name hname)
  | restarted | rewound | replaced => exact hreported fun _ haffects => by cases haffects
  | stuck hbefore hhistory hrestore =>
      exact absurd hrestore (restore_ne_error_of_isStored hconsistent.isStored hbefore hhistory _)

theorem isCurrent_of_reaches {start : Controller Outside}
    (hstart : start.core.IsCurrent declarations rules)
    (hreached : Reaches Call.KeepsConforming start controller) :
    controller.core.IsCurrent declarations rules := by
  induction hreached with
  | start => exact hstart
  | call _ call outside hkeeps ih =>
      exact isCurrent_of_leaves hdistinct hdomains ih hkeeps (leaves_perform call _ outside)

end Fresh

variable {setup : ControllerSetup Outside} {model : Model Outside} {start : Outside}
  {built controller : Controller Outside}

theorem isCurrent_of_build (hconforms : model.bank.Conforms)
    (hdomains : ∀ declared ∈ model.rules, declared.body.IsReproducible model.bank.declarations)
    (hbuild : (setup.build model start).result = .ok built) :
    built.core.IsCurrent model.bank.declarations model.rules := by
  obtain ⟨rulesets, hmade, hcore⟩ := core_of_build hbuild
  have hboth := (List.forall₂_and_left _ _).2 ⟨hdomains, Success.mapM_eq_ok_iff.1 hmade⟩
  refine ⟨isConsistent_of_build hconforms hbuild, ?_, ?_⟩
  · rwa [hcore]
  · rw [hcore]
    exact hboth.imp fun declared ruleset hboth =>
      Ruleset.isFresh_of_ofDeclaration hboth.1.repeats hboth.2 (.refl model.bank)

/-- Every family has one instance for each element that its domain gives on the live variables,
named after the family and the position of the element, and remembers what the domain reads
there. -/
theorem families_are_fresh (hdistinct : model.bank.HasDistinctFields)
    (hconforms : model.bank.Conforms)
    (hdomains : ∀ declared ∈ model.rules, declared.body.IsReproducible model.bank.declarations)
    (hbuild : (setup.build model start).result = .ok built)
    (hreached : Reaches Call.KeepsConforming built controller) :
    controller.rulesets.length = model.rules.length ∧
      ∀ (position : Nat) (name : String) (domain : Outside → Query (List Value))
        (effect : Nat → Outside → Effect Unit),
        model.rules[position]? = some ⟨name, .family domain effect⟩ →
        ∃ ruleset, controller.rulesets[position]? = some ruleset ∧ ruleset.name = name ∧
          ∀ outside, ∃ elements,
            (domain outside).run controller.bank ∅ = ⟨.ok elements, ruleset.readset⟩ ∧
            ruleset.rules.map (·.name) =
              (List.range elements.length).map (fun index => name ++ "(" ++ toString index ++ ")") ∧
            ruleset.rules.map (·.effect) = (List.range elements.length).map effect := by
  obtain ⟨-, -, hfresh⟩ := isCurrent_of_reaches hdistinct hdomains
    (isCurrent_of_build hconforms hdomains hbuild) hreached
  refine ⟨hfresh.length_eq.symm, fun position name domain effect hrule => ?_⟩
  obtain ⟨ruleset, hruleset, hmade⟩ := Success.exists_getElem?_of_forall₂ hfresh.flip hrule
  have hfresh : ruleset.IsFresh ⟨name, .family domain effect⟩ controller.bank := hmade
  refine ⟨ruleset, hruleset, congrArg RuleDeclaration.name (hfresh.declaration_eq start), ?_⟩
  intro outside
  obtain ⟨elements, houtcome, hawake⟩ := Ruleset.ofDeclaration_family_eq_ok_iff.1 (hfresh outside)
  have hreadset : ruleset.readset = ((domain outside).run controller.bank ∅).readset :=
    congrArg Ruleset.readset hawake
  have hrules : ruleset.rules.map Rule.wake =
      (List.range elements.length).map (Ruleset.instanceAt name effect) :=
    congrArg Ruleset.rules hawake
  refine ⟨elements, ?_, ?_, ?_⟩
  · rw [hreadset, ← houtcome]
  · have hnames := congrArg (List.map Rule.name) hrules
    rwa [List.map_map, List.map_map] at hnames
  · have heffects := congrArg (List.map Rule.effect) hrules
    rwa [List.map_map, List.map_map] at heffects

/-- One number for each of those who wait. -/
def waitingList : Query (List Value) :=
  .read "waiting" fun held => .done <| .ok <|
    (List.range ((held.toOption.bind Value.asNumber?).getD 0).toNatClampNeg).map
      fun position => .number (Int64.ofNat position)

/-- Two arrive; whoever is served leaves those before him. -/
def queue : Model Unit where
  bank := ⟨[.ofType "waiting" (.range 0 3)], by decide⟩
  rules := [⟨"arrive", .single fun _ => Effect.overwrite "waiting" (.number 2)⟩,
    ⟨"serve", .family (fun _ => waitingList)
      fun position _ => Effect.overwrite "waiting" (.number (Int64.ofNat position))⟩]
  invariants := []
  init? := none

theorem repeatable_waitingList : Query.Repeatable fun _ : Unit => waitingList :=
  Query.repeatable_readNumber "waiting" fun number =>
    .ok ((List.range (number.getD 0).toNatClampNeg).map
      fun position => Value.number (Int64.ofNat position))

theorem isReproducible_queue {declared : RuleDeclaration Unit} (hmem : declared ∈ queue.rules) :
    declared.body.IsReproducible queue.bank.declarations := by
  rcases List.mem_pair.1 hmem with rfl | rfl
  · exact ⟨trivial, trivial⟩
  · exact ⟨repeatable_waitingList, fun outside bank _ => ⟨_, rfl⟩⟩

section Queue

variable {built : Controller Unit}
  (hbuild : (ControllerSetup.standard.build queue ()).result = .ok built)

include hbuild

theorem keepsConforming_arrive : (Call.fire ⟨0, 0⟩).KeepsConforming built () := by
  refine ⟨(by simp), fun {run} hattempt _ => ?_⟩
  cases hbuild
  have hentries : run.bank.entries = [⟨"waiting", .range 0 3, false, .number 2⟩] := by
    rw [← Option.some.inj hattempt]
    rfl
  exact Bank.conforms_of_range (by decide) (by decide) hentries

theorem keepsConforming_serve :
    (Call.fire ⟨1, 1⟩).KeepsConforming ((Call.fire ⟨0, 0⟩).perform built ()) () := by
  refine ⟨(by simp), fun {run} hattempt _ => ?_⟩
  cases hbuild
  have hentries : run.bank.entries = [⟨"waiting", .range 0 3, false, .number 1⟩] := by
    rw [← Option.some.inj hattempt]
    rfl
  exact Bank.conforms_of_range (by decide) (by decide) hentries

end Queue

/-- Two have arrived and the second was served, so there is the first to serve. -/
theorem families_are_fresh_queue :
    ∃ built, (ControllerSetup.standard.build queue ()).result = .ok built ∧
      let arrived := (Call.fire ⟨0, 0⟩).perform built ()
      let served := (Call.fire ⟨1, 1⟩).perform arrived ()
      ∃ ruleset, served.rulesets[1]? = some ruleset ∧ ruleset.name = "serve" ∧
        ruleset.rules.map (·.name) = ["serve(0)"] := by
  obtain ⟨built, hbuild⟩ : ∃ built, (ControllerSetup.standard.build queue ()).result = .ok built :=
    ⟨_, rfl⟩
  have hreached := (Reaches.start.call _ () (keepsConforming_arrive hbuild)).call _ ()
    (keepsConforming_serve hbuild)
  obtain ⟨-, hfamilies⟩ := families_are_fresh (Bank.hasDistinctFields_of_range rfl)
    (Bank.conforms_of_range (by decide) (by decide) rfl) (fun _ hmem => isReproducible_queue hmem)
    hbuild hreached
  obtain ⟨ruleset, hruleset, hname, hfresh⟩ := hfamilies 1 "serve" _ _ rfl
  obtain ⟨elements, hrun, hnames, -⟩ := hfresh ()
  have hone : elements.length = 1 := by
    cases hbuild
    have houtcome := congrArg Answer.outcome hrun
    rw [← Except.ok.inj houtcome]
    rfl
  rw [hone] at hnames
  exact ⟨built, hbuild, ruleset, hruleset, hname, hnames⟩

end Controller

end TransitionEngine
