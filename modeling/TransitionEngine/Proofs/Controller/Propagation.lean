import TransitionEngine.Proofs.Controller.Committing
import TransitionEngine.Proofs.Rule.Waking

/-!
# How far the report of a commit goes

A commit stands whether or not its report reaches every ruleset. The report ends at the first domain
that fails: in the rulesets before that one, whatever sleeps on a variable that was changed is woken,
whether the checks that follow hold or not; that ruleset and those behind it are left as they were, so
that an instance may go on sleeping there on what has changed.
-/

namespace TransitionEngine

variable {Outside : Type}

namespace Controller

section Propagation

variable {controller : Controller Outside} {outside : Outside} {call : Call Outside}

/-- When the call lengthens the history, the rulesets are told of the difference to the entry that was
the current one, and the call fails where the report does. -/
theorem report_of_pushed
    (hpushed : controller.history.length < (call.perform controller outside).history.length) :
    let after := call.perform controller outside
    let reported := Ruleset.reportAll (.between controller.current.state after.saveState) outside
      after.bank controller.rulesets
    after.rulesets = reported.2 ∧
      ∀ error, reported.1 = .error error →
        (call.outcome controller outside).result = .error error := by
  obtain ⟨bank, description, houtcome⟩ := exists_commit_of_pushed hpushed
  have hafter : call.perform controller outside = ((controller.withBank bank).commit outside
      description (.between controller.current.state bank.save)).controller := by
    rw [← Call.controller_outcome, houtcome]
    rfl
  have hbank : (call.perform controller outside).bank = bank := by rw [hafter, bank_commit]
  have hstate : (call.perform controller outside).saveState = bank.save :=
    congrArg Bank.save hbank
  dsimp only
  rw [hstate, hbank]
  constructor
  · rw [hafter, rulesets_commit]
    rfl
  · intro error hfails
    rw [houtcome, Outcome.map, result_commit_of_failed hfails]
    rfl

/-- A call that lengthens the history wakes every instance that slept on what was changed, in every
ruleset that comes before the first domain that fails. If there is such a domain, the call fails with
its error, and its ruleset and those behind it are as they were. -/
theorem commit_wakes_until_failure
    (hpushed : controller.history.length < (call.perform controller outside).history.length) :
    let after := call.perform controller outside
    let changes := Changeset.between controller.current.state after.saveState
    (∀ (id : RuleId) (rule : Rule Outside) (readset : NameSet),
      (∀ ruleset ∈ controller.rulesets.take (id.ruleset + 1), ∀ error,
        ¬ruleset.FailsOn changes outside after.bank error) →
      controller.rule? id = some rule → rule.isActive = false → rule.readset = some readset →
      changes.affects readset = true →
      ∀ woken, after.rule? id = some woken → woken.isActive = true) ∧
    ∀ (position : Nat) (ruleset : Ruleset Outside) (error : EngineError),
      controller.rulesets[position]? = some ruleset →
      ruleset.FailsOn changes outside after.bank error →
      (∀ earlier ∈ controller.rulesets.take position, ∀ other,
        ¬earlier.FailsOn changes outside after.bank other) →
      (call.outcome controller outside).result = .error error ∧
        ∀ index, position ≤ index → after.rulesets[index]? = controller.rulesets[index]? := by
  obtain ⟨hrulesets, hresult⟩ := report_of_pushed hpushed
  dsimp only
  generalize Changeset.between controller.current.state _ = changes at hrulesets hresult ⊢
  constructor
  · intro id rule readset hsucceeds hrule hasleep hread haffects woken hwoken
    obtain ⟨ruleset, hruleset, hrule⟩ := Option.bind_eq_some_iff.1 hrule
    rw [List.take_add_one, hruleset, List.forall_mem_append] at hsucceeds
    obtain ⟨hearlier, hself⟩ := hsucceeds
    obtain ⟨next, hreport⟩ :=
      Ruleset.exists_report_of_not_failsOn (hself ruleset (List.mem_singleton_self _))
    have hnext := Ruleset.getElem?_reportAll_of_told hruleset
      (fun other hmem => Ruleset.exists_report_of_not_failsOn (hearlier other hmem)) hreport
    rw [rule?, hrulesets, hnext, Option.bind_some] at hwoken
    exact Ruleset.active_of_report hreport hrule hread hasleep (.inl haffects) hwoken
  · intro position ruleset error hruleset hfails hearlier
    obtain ⟨hfailed, hbehind⟩ := Ruleset.reportAll_of_failed hruleset
      (fun other hmem => Ruleset.exists_report_of_not_failsOn (hearlier other hmem))
      (Ruleset.report_eq_error_iff.2 hfails)
    refine ⟨hresult error hfailed, fun index hindex => ?_⟩
    rw [hrulesets]
    exact hbehind index hindex

end Propagation

/-- The steps of a cellar that are left dry, which cannot be counted under water. -/
def drySteps : Query (List Value) :=
  .read "level" fun held => .done <|
    if (held.toOption.bind Value.asNumber?).getD 0 = 0 then .ok [.number 0]
    else .error (.value (.bounds (.stated "under water")))

def lookAround : Effect Unit :=
  .read "level" fun _ => .done (.ok ())

/-- A cellar that can be flooded. It can be looked around in from above and from below, and gone down
to as far as the steps are dry. -/
def cellar : Model Unit where
  bank := ⟨[.ofType "level" .number], by decide⟩
  rules := [⟨"look down", .single fun _ => lookAround⟩,
    ⟨"flood", .single fun _ => Effect.overwrite "level" (.number 1)⟩,
    ⟨"go down", .family (fun _ => drySteps) fun _ _ => lookAround⟩,
    ⟨"look up", .single fun _ => lookAround⟩]
  invariants := []
  init? := none

/-- Both have looked around, which changes nothing. -/
def lookedAround (built : Controller Unit) : Controller Unit :=
  (Call.fire ⟨3, 0⟩).perform ((Call.fire ⟨0, 0⟩).perform built ()) ()

def flooded (built : Controller Unit) : Controller Unit :=
  (Call.fire ⟨1, 0⟩).perform (lookedAround built) ()

def floodChanges (built : Controller Unit) : Changeset :=
  .between (lookedAround built).current.state (flooded built).saveState

section Cellar

variable {built : Controller Unit}
  (hbuild : (ControllerSetup.standard.build cellar ()).result = .ok built)

include hbuild

theorem length_flooded :
    (flooded built).history.length = (lookedAround built).history.length + 1 := by
  cases hbuild
  rfl

theorem exists_asleep_lookedAround {id : RuleId} (hid : id = ⟨0, 0⟩ ∨ id = ⟨3, 0⟩) :
    ∃ rule, (lookedAround built).rule? id = some rule ∧ rule.isActive = false ∧
      rule.readset = some (.ofList ["level"]) := by
  cases hbuild
  rcases hid with rfl | rfl <;> exact ⟨_, rfl, rfl, rfl⟩

theorem affects_floodChanges : (floodChanges built).affects (.ofList ["level"]) = true := by
  cases hbuild
  rfl

/-- The steps come behind two rulesets that cannot fail. -/
theorem not_failsOn_lookedAround : ∀ ruleset ∈ (lookedAround built).rulesets.take 2, ∀ error,
    ¬ruleset.FailsOn (floodChanges built) () (flooded built).bank error := by
  intro ruleset hmem
  have hsingle : ∃ effect, ruleset.body = .single effect := by
    cases hbuild
    rcases List.mem_pair.1 hmem with rfl | rfl <;> exact ⟨_, rfl⟩
  obtain ⟨effect, hbody⟩ := hsingle
  exact Ruleset.not_failsOn_of_single hbody

end Cellar

/-- The one who looked down sleeps until the cellar is flooded, which fails where the steps cannot be
counted. -/
theorem commit_wakes_until_failure_cellar :
    ∃ built, (ControllerSetup.standard.build cellar ()).result = .ok built ∧
      (∃ rule, (flooded built).rule? ⟨0, 0⟩ = some rule ∧ rule.isActive = true) ∧
      ((Call.fire ⟨1, 0⟩).outcome (lookedAround built) ()).result =
        .error (.value (.bounds (.stated "under water"))) ∧
      (flooded built).rulesets[3]? = (lookedAround built).rulesets[3]? := by
  obtain ⟨built, hbuild⟩ :
      ∃ built, (ControllerSetup.standard.build cellar ()).result = .ok built := ⟨_, rfl⟩
  have hpushed : (lookedAround built).history.length < (flooded built).history.length := by
    rw [length_flooded hbuild]
    exact Nat.lt_succ_self _
  have hnone := not_failsOn_lookedAround hbuild
  obtain ⟨rule, hrule, hasleep, hread⟩ := exists_asleep_lookedAround hbuild (.inl rfl)
  obtain ⟨woken, hwoken⟩ : ∃ woken, (flooded built).rule? ⟨0, 0⟩ = some woken := by
    cases hbuild
    exact ⟨_, rfl⟩
  obtain ⟨steps, hsteps, hfails⟩ : ∃ ruleset, (lookedAround built).rulesets[2]? = some ruleset ∧
      ruleset.FailsOn (floodChanges built) () (flooded built).bank
        (.value (.bounds (.stated "under water"))) := by
    cases hbuild
    exact ⟨_, rfl, rfl, _, _, rfl, rfl⟩
  obtain ⟨hwakes, hends⟩ := commit_wakes_until_failure hpushed
  obtain ⟨hresult, hbehind⟩ := hends 2 steps _ hsteps hfails hnone
  refine ⟨built, hbuild, ⟨woken, hwoken, ?_⟩, hresult, hbehind 3 (by decide)⟩
  refine hwakes ⟨0, 0⟩ rule _ (fun ruleset hmem => hnone ruleset ?_) hrule hasleep hread
    (affects_floodChanges hbuild) woken hwoken
  exact (List.take_subset_take_left _ (by decide)) hmem

/-- The flooding is committed, but the one who looked up sleeps on. -/
theorem commit_leaves_asleep :
    ∃ built, (ControllerSetup.standard.build cellar ()).result = .ok built ∧
      (flooded built).history.length = (lookedAround built).history.length + 1 ∧
      ∃ rule readset, (lookedAround built).rule? ⟨3, 0⟩ = some rule ∧ rule.isActive = false ∧
        rule.readset = some readset ∧ (floodChanges built).affects readset = true ∧
        (flooded built).rule? ⟨3, 0⟩ = some rule := by
  obtain ⟨built, hbuild⟩ :
      ∃ built, (ControllerSetup.standard.build cellar ()).result = .ok built := ⟨_, rfl⟩
  obtain ⟨rule, hrule, hasleep, hread⟩ := exists_asleep_lookedAround hbuild (.inr rfl)
  refine ⟨built, hbuild, length_flooded hbuild, rule, _, hrule, hasleep, hread,
    affects_floodChanges hbuild, ?_⟩
  rw [← hrule]
  cases hbuild
  rfl

end Controller

end TransitionEngine
