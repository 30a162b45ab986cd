import TransitionEngine.Proofs.Bank.Constants
import TransitionEngine.Proofs.Controller.Committing
import TransitionEngine.Proofs.Controller.Replaying
import TransitionEngine.Proofs.Starting

/-!
# Constants are constant, and nothing speaks of them

Whatever is done to a controller, its bank has the declarations that the model was built from, and every
entry of the history was saved from such a bank. So constants keep their values, every entry has the names
of the variables that are no constants, and a comparison of states names nothing else: neither a reply nor
a commit speaks of a constant. What a state from outside has under other names is passed over.
-/

namespace TransitionEngine

variable {Outside α β : Type} {entries : List VariableDeclaration}

/-- The message ends with these names, which are all such. -/
def TellsOf (named : String → Prop) (message : String) (names : List String) : Prop :=
  (∃ description, message = description ++ " (changed " ++ ", ".intercalate names ++ ")") ∧
    ∀ name ∈ names, named name

/-- Where the reply says what changed, it gives such names. -/
def Reply.NamesOnly (named : String → Prop) : Reply → Prop
  | .changed changes | .wouldChange (some changes) => changes.NamesOnly named
  | .wouldChange none | .done | .held _ => True

/-- If the notice is that of a commit, it gives such names. -/
def Notice.NamesOnly (named : String → Prop) : Notice → Prop
  | .event (.committed _ message changes) => TellsOf named message changes
  | _ => True

theorem Notice.IsAside.namesOnly {notice : Notice} (haside : notice.IsAside)
    (named : String → Prop) : notice.NamesOnly named := by
  unfold IsAside at haside
  split at haside <;> trivial

theorem Changeset.NamesOnly.ofCommit {named : String → Prop} {changes : Changeset}
    (hnames : changes.NamesOnly named) (index : Nat) (description : String) :
    Notice.NamesOnly named (.event (.ofCommit index
      (description ++ " (changed " ++ changes.display ++ ")") changes)) := by
  cases changes with
  | vars names => exact ⟨⟨description, rfl⟩, hnames⟩
  | everything => exact hnames.elim

namespace Outcome

/-- Every notice of the outcome is such. -/
def Notifies (told : Notice → Prop) (outcome : Outcome Outside α) : Prop :=
  ∀ notice ∈ outcome.notices, told notice

variable {told : Notice → Prop} {outcome : Outcome Outside α}

theorem Notifies.andThen {next : α → Controller Outside → Outcome Outside β}
    (hfirst : outcome.Notifies told)
    (hnext : ∀ value reached, (next value reached).Notifies told) :
    (outcome.andThen next).Notifies told := by
  unfold Outcome.andThen
  split
  · exact hfirst
  · exact List.forall_mem_append.2 ⟨hfirst, hnext _ _⟩

/-- The reply and the notices give such names only. -/
structure NamesOnly (named : String → Prop) (outcome : Outcome Outside Reply) : Prop where
  reply {reply : Reply} (hresult : outcome.result = .ok reply) : reply.NamesOnly named
  notices : outcome.Notifies (Notice.NamesOnly named)

theorem Notifies.namesOnly_map {named : String → Prop}
    (hnotifies : outcome.Notifies (Notice.NamesOnly named)) {f : α → Reply}
    (hreply : ∀ value, outcome.result = .ok value → (f value).NamesOnly named) :
    (outcome.map f).NamesOnly named := by
  refine ⟨fun hresult => ?_, hnotifies⟩
  obtain ⟨value, hvalue, rfl⟩ := Success.map_eq_ok_iff.1 hresult
  exact hreply value hvalue

end Outcome

/-- The state was saved from a bank of these declarations. -/
def SavedState.IsSavedFrom (entries : List VariableDeclaration) (state : SavedState) : Prop :=
  ∃ bank : Bank, bank.declarations = entries ∧ bank.save = state

theorem SavedState.IsSavedFrom.mem_names_iff {state : SavedState}
    (hsaved : state.IsSavedFrom entries) (name : String) :
    name ∈ state.names ↔ HasVariable entries name := by
  obtain ⟨bank, hdeclared, rfl⟩ := hsaved
  exact (Bank.honoursConstants_of_declarations hdeclared).saved name

/-- The bank is one of these declarations, and every entry was saved from such a bank. -/
structure Core.Declares (entries : List VariableDeclaration) (core : Core Outside) : Prop where
  declared : core.bank.declarations = entries
  saved : ∀ snapshot ∈ core.history.entries, snapshot.state.IsSavedFrom entries

namespace Controller

section Declares

variable {controller : Controller Outside} {outside : Outside}

theorem declares_of_leaves {call : Call Outside} {core : Core Outside}
    (hdeclares : controller.core.Declares entries) (hleaves : controller.Leaves outside call core) :
    core.Declares entries := by
  refine ⟨(declarations_of_leaves hleaves).trans hdeclares.declared, ?_⟩
  refine stored_of_leaves hdeclares.saved (fun run hattempt _ => ?_) hleaves
  exact ⟨run.bank, (declarations_of_attempt? hattempt).trans hdeclares.declared, rfl⟩

theorem declares_outcome (hdeclares : controller.core.Declares entries)
    (operation : Operation Outside) (outside : Outside) :
    (operation.outcome controller outside).controller.core.Declares entries := by
  cases operation with
  | call call =>
      rw [Operation.outcome, Call.controller_outcome]
      exact declares_of_leaves hdeclares (leaves_perform call controller outside)
  | reportChanges changes => exact ⟨hdeclares.declared, hdeclares.saved⟩
  | setErrorHook _ | addView _ => exact hdeclares

theorem declares_of_build {setup : ControllerSetup Outside} {model : Model Outside}
    {built : Controller Outside} (hbuild : (setup.build model outside).result = .ok built) :
    built.core.Declares model.bank.declarations := by
  obtain ⟨rulesets, -, hcore⟩ := core_of_build hbuild
  rw [hcore]
  refine ⟨rfl, fun snapshot hmem => ?_⟩
  rw [List.mem_singleton.1 hmem]
  exact ⟨model.bank, rfl, rfl⟩

theorem declares_of_reaches {permitted : Call Outside → Controller Outside → Outside → Prop}
    {start : Controller Outside} (hstart : start.core.Declares entries)
    (hreached : Reaches permitted start controller) : controller.core.Declares entries := by
  induction hreached with
  | start => exact hstart
  | call _ call outside _ ih => exact declares_of_leaves ih (leaves_perform call _ outside)

theorem declares_of_proceeds {permitted : Operation Outside → Controller Outside → Outside → Prop}
    {start : Controller Outside} {notices : List Notice} (hstart : start.core.Declares entries)
    (hproceeds : Proceeds permitted start controller notices) :
    controller.core.Declares entries := by
  induction hproceeds with
  | start => exact hstart
  | perform _ operation outside _ ih => exact declares_outcome ih operation outside

/-! ### What a comparison with the current entry names -/

variable (hdeclares : controller.core.Declares entries)

include hdeclares

theorem namesOnly_of_declares {bank : Bank} (hdeclared : bank.declarations = entries) :
    (Changeset.between controller.current.state bank.save).NamesOnly (HasVariable entries) := by
  have hcurrent := hdeclares.saved _ (History.current_mem_entries controller.history)
  have hbank : bank.save.IsSavedFrom entries := ⟨bank, hdeclared, rfl⟩
  exact Changeset.namesOnly_between (fun name => (hcurrent.mem_names_iff name).1)
    fun name => (hbank.mem_names_iff name).1

/-- The comparison finds nothing exactly when the bank is saved as the current entry. -/
theorem isEmpty_between_iff_of_declares (bank : Bank) :
    (Changeset.between controller.current.state bank.save).isEmpty = true ↔
      bank.save = controller.current.state := by
  obtain ⟨saved, -, hsaved⟩ := hdeclares.saved _ (History.current_mem_entries controller.history)
  change saved.save = controller.current.state at hsaved
  rw [← hsaved, Bank.isEmpty_between_save_iff, eq_comm]

theorem namesOnly_of_attempt? {call : Call Outside} {run : Run Unit}
    (hattempt : call.attempt? controller outside = some run) :
    (Changeset.between controller.current.state run.bank.save).NamesOnly (HasVariable entries) :=
  namesOnly_of_declares hdeclares ((declarations_of_attempt? hattempt).trans hdeclares.declared)

end Declares

section NamesOnly

variable {controller : Controller Outside} {outside : Outside} {named : String → Prop}

theorem notifies_viewNotices (controller : Controller Outside) :
    ∀ notice ∈ controller.viewNotices, notice.NamesOnly named := by
  intro notice hmem
  obtain ⟨view, -, rfl⟩ := List.mem_map.1 hmem
  trivial

theorem notifies_checkInvariants (controller : Controller Outside) (outside : Outside) :
    (controller.checkInvariants outside).Notifies (Notice.NamesOnly named) :=
  fun notice hmem => (isAside_checkInvariants controller outside notice hmem).namesOnly named

theorem notifies_commit {changes : Changeset} (hnames : changes.NamesOnly named)
    (controller : Controller Outside) (outside : Outside) (description : String) :
    (controller.commit outside description changes).Notifies (Notice.NamesOnly named) := by
  rw [commit]
  refine List.forall_mem_cons.2 ⟨hnames.ofCommit _ description, ?_⟩
  refine Outcome.Notifies.andThen (List.forall_mem_nil _) fun _ reported => ?_
  refine (notifies_checkInvariants reported outside).andThen fun _ checked => ?_
  have hviewed : checked.updateViews.Notifies (Notice.NamesOnly named) :=
    notifies_viewNotices checked
  exact hviewed.andThen fun _ _ => List.forall_mem_nil _

theorem notifies_restore (controller : Controller Outside) (outside : Outside) (index : Nat) :
    (controller.restore outside index).Notifies (Notice.NamesOnly named) := by
  rw [restore]
  split
  · refine Outcome.Notifies.andThen (fun notice hmem => ?_) fun _ restored => ?_
    · rw [(restoreState_keeps _ outside _).2] at hmem
      cases hmem
    · exact List.forall_mem_cons.2 ⟨trivial, List.forall_mem_append.2
        ⟨notifies_viewNotices restored, notifies_checkInvariants restored outside⟩⟩
  · exact List.forall_mem_nil _

theorem notifies_resetToStartingState (controller : Controller Outside) (outside : Outside) :
    (controller.resetToStartingState outside).Notifies (Notice.NamesOnly named) := by
  rw [resetToStartingState]
  split
  · exact List.forall_mem_nil _
  · refine List.forall_mem_cons.2 ⟨trivial, ?_⟩
    refine Outcome.Notifies.andThen (List.forall_mem_nil _) fun _ reported => ?_
    exact List.forall_mem_cons.2 ⟨trivial, notifies_viewNotices reported⟩

/-- A probe gives notice of no commit, and says what the mutator changed of the current entry. -/
theorem wouldChangeState_names (mutator : Effect Unit)
    (hnames : (Changeset.between controller.current.state
      (mutator.run controller.bank ∅).bank.save).NamesOnly named) :
    (controller.wouldChangeState outside mutator).Notifies (Notice.NamesOnly named) ∧
      ∀ changes, (controller.wouldChangeState outside mutator).result = .ok (some changes) →
        changes.NamesOnly named := by
  rw [wouldChangeState]
  generalize mutator.run controller.bank ∅ = run at hnames ⊢
  have hsilent := (restoreState_keeps (controller.withBank run.bank) outside
    controller.current.state).2
  dsimp only
  split
  · refine ⟨List.forall_mem_nil _, fun changes hresult => ?_⟩
    obtain ⟨_, -, hnone⟩ := Success.map_eq_ok_iff.1 hresult
    cases hnone
  · split
    · refine ⟨fun notice hmem => ?_, fun changes hresult => ?_⟩
      · rw [hsilent] at hmem
        cases hmem
      · obtain ⟨_, -, hsome⟩ := Success.map_eq_ok_iff.1 hresult
        obtain rfl := Option.some.inj hsome
        exact hnames
    · refine ⟨fun notice hmem => ?_, fun changes hresult => by cases hresult⟩
      rw [hsilent] at hmem
      cases hmem
    · refine ⟨?_, fun changes hresult => by cases hresult⟩
      rw [Outcome.Notifies, hsilent]
      exact List.forall_mem_singleton.2 trivial

end NamesOnly

section Declared

variable {controller : Controller Outside} (hdeclares : controller.core.Declares entries)

include hdeclares

theorem namesOnly_of_commits {call : Call Outside}
    (hcommits : (Operation.call call).commits = true) (outside : Outside) :
    (call.outcome controller outside).NamesOnly (HasVariable entries) := by
  obtain ⟨outcome, houtcome, hsettles⟩ := settles_outcome hcommits controller outside
  rw [houtcome]
  cases hsettles with
  | committed hattempt _ _ description =>
      have hnames := namesOnly_of_attempt? hdeclares hattempt
      refine (notifies_commit hnames _ outside description).namesOnly_map fun changes hresult => ?_
      rw [changes_of_commit hresult]
      exact hnames
  | kept _ _ _ hresult hnotices =>
      have hnotifies : outcome.Notifies (Notice.NamesOnly (HasVariable entries)) :=
        fun notice hmem => (hnotices notice hmem).namesOnly _
      refine hnotifies.namesOnly_map fun changes hchanges => ?_
      rw [hresult changes hchanges]
      exact fun name hmem => absurd hmem (NameSet.not_mem_empty name)

theorem namesOnly_wouldChangeState (mutator : Effect Unit) (outside : Outside) :
    ((controller.wouldChangeState outside mutator).map .wouldChange).NamesOnly
      (HasVariable entries) := by
  obtain ⟨hnotifies, hchanges⟩ := wouldChangeState_names mutator <|
    namesOnly_of_declares hdeclares ((Effect.declarations_run ..).trans hdeclares.declared)
  refine hnotifies.namesOnly_map fun changes? hresult => ?_
  cases changes? with
  | none => trivial
  | some changes => exact hchanges changes hresult

/-- Neither a reply nor a notice of a commit names a constant. -/
theorem namesOnly_outcome (operation : Operation Outside) (outside : Outside) :
    (operation.outcome controller outside).NamesOnly (HasVariable entries) := by
  have hdone {α : Type} {outcome : Outcome Outside α} (hnotices : outcome.notices = []) :
      (outcome.map fun _ => Reply.done).NamesOnly (HasVariable entries) := by
    refine Outcome.Notifies.namesOnly_map (fun notice hmem => ?_) fun _ _ => trivial
    rw [hnotices] at hmem
    cases hmem
  cases operation with
  | reportChanges changes => exact hdone rfl
  | setErrorHook _ | addView _ =>
      exact ⟨fun hresult => by cases hresult; trivial, List.forall_mem_nil _⟩
  | call call =>
      rw [Operation.outcome]
      cases call with
      | fire _ | fireByName _ | tryChangeState _ => exact namesOnly_of_commits hdeclares rfl outside
      | wouldChangeState mutator => exact namesOnly_wouldChangeState hdeclares mutator outside
      | wouldFire id =>
          rw [Call.outcome, wouldFire]
          split
          · refine Outcome.Notifies.namesOnly_map ?_ fun _ hresult => by cases hresult
            exact List.forall_mem_nil _
          · exact namesOnly_wouldChangeState hdeclares _ outside
      | restore index =>
          exact (notifies_restore controller outside index).namesOnly_map fun _ _ => trivial
      | restoreState state => exact hdone (restoreState_keeps controller outside state).2
      | resetToStartingState =>
          exact (notifies_resetToStartingState controller outside).namesOnly_map
            fun _ _ => trivial
      | checkInvariants =>
          exact (notifies_checkInvariants controller outside).namesOnly_map fun _ _ => trivial

end Declared

/-- The constants keep their values whatever an effect does next, and neither the entries, nor the
notices, nor what any operation does next, names one; what is set from outside under other names than
those of the variables is not looked at. -/
structure HidesConstants (entries : List VariableDeclaration) (controller : Controller Outside)
    (notices : List Notice) : Prop where
  bank {α : Type} (effect : Effect α) :
    (effect.run controller.bank ∅).bank.HonoursConstants entries
  saved {snapshot : Snapshot} (hmem : snapshot ∈ controller.history.entries) (name : String) :
    name ∈ snapshot.state.names ↔ HasVariable entries name
  message {position : Nat} {snapshot : Snapshot}
    (hentry : controller.history.entries[position + 1]? = some snapshot) :
    ∃ names, TellsOf (HasVariable entries) snapshot.message names
  notices {notice : Notice} (hmem : notice ∈ notices) : notice.NamesOnly (HasVariable entries)
  outcome (operation : Operation Outside) (outside : Outside) :
    (operation.outcome controller outside).NamesOnly (HasVariable entries)
  restoreState (outside : Outside) {state other : SavedState}
    (hsame : ∀ name, HasVariable entries name → state.get? name = other.get? name) :
    controller.restoreState outside state = controller.restoreState outside other

section HidesConstants

variable {permitted : Operation Outside → Controller Outside → Outside → Prop}
  {start controller : Controller Outside} {notices : List Notice}

theorem namesOnly_of_proceeds (hstart : start.core.Declares entries)
    (hproceeds : Proceeds permitted start controller notices) :
    ∀ notice ∈ notices, notice.NamesOnly (HasVariable entries) := by
  induction hproceeds with
  | start => exact List.forall_mem_nil _
  | perform hproceeds operation outside _ ih =>
      have hdeclares := declares_of_proceeds hstart hproceeds
      exact List.forall_mem_append.2 ⟨ih, (namesOnly_outcome hdeclares operation outside).notices⟩

theorem hidesConstants_of_declares (hdeclares : controller.core.Declares entries)
    (hformed : controller.history.IsWellFormed)
    (hnotices : ∀ notice ∈ notices, notice.NamesOnly (HasVariable entries)) :
    controller.HidesConstants entries notices where
  bank effect := Bank.honoursConstants_of_declarations <|
    (Effect.declarations_run ..).trans hdeclares.declared
  saved hmem := (hdeclares.saved _ hmem).mem_names_iff
  message {position snapshot} hentry := by
    have hbound := (List.getElem?_eq_some_iff.1 hentry).1
    obtain ⟨earlier, hearlier⟩ : ∃ earlier, controller.history.entries[position]? = some earlier :=
      ⟨_, List.getElem?_eq_getElem (Nat.lt_of_succ_lt hbound)⟩
    obtain ⟨description, names, hchanges, hmessage⟩ := (hformed.follows hearlier hentry).message
    have hbefore := hdeclares.saved earlier (List.mem_of_getElem? hearlier)
    have hafter := hdeclares.saved snapshot (List.mem_of_getElem? hentry)
    have hnames : (Changeset.between earlier.state snapshot.state).NamesOnly
        (HasVariable entries) :=
      Changeset.namesOnly_between (fun name => (hbefore.mem_names_iff name).1)
        fun name => (hafter.mem_names_iff name).1
    rw [hchanges] at hnames
    exact ⟨names.names, ⟨description, hmessage⟩, hnames⟩
  notices hmem := hnotices _ hmem
  outcome := namesOnly_outcome hdeclares
  restoreState outside state other hsame := by
    have hrestore : controller.bank.restore state = controller.bank.restore other :=
      (Bank.honoursConstants_of_declarations hdeclares.declared).restored hsame
    rw [Controller.restoreState, Controller.restoreState, hrestore]

/-- Of a model that was built, and whose variables were then used by an effect, no controller changes a
constant or speaks of one, whatever is done to it. -/
theorem constants_are_invisible {declarations : Declarations Outside} {loaded outside : Outside}
    {model : Model Outside} (hmodel : (declarations.build loaded).result = .ok model)
    {prelude : Effect α} {setup : ControllerSetup Outside}
    (hbuild : (setup.build { model with bank := (prelude.run model.bank ∅).bank }
      outside).result = .ok start)
    (hproceeds : Proceeds permitted start controller notices) :
    controller.HidesConstants declarations.entries
      ((setup.build { model with bank := (prelude.run model.bank ∅).bank } outside).notices ++
        notices) := by
  have hdeclared : (prelude.run model.bank ∅).bank.declarations = declarations.entries :=
    (Effect.declarations_run ..).trans (Model.declarations_of_build hmodel)
  have hstart : start.core.Declares declarations.entries := hdeclared ▸ declares_of_build hbuild
  refine hidesConstants_of_declares (declares_of_proceeds hstart hproceeds)
    (isWellFormed_of_proceeds (isWellFormed_of_build hbuild) hproceeds) ?_
  refine List.forall_mem_append.2 ⟨fun notice hmem => ?_, namesOnly_of_proceeds hstart hproceeds⟩
  exact (isAside_build setup _ outside notice hmem).namesOnly _

end HidesConstants

/-- A boiler that is heated; the limit to its heat is a constant. -/
def boiler : Declarations Unit where
  entries := [⟨"limit", .number, some (.number 9)⟩, ⟨"heat", .number, none⟩]
  rules := [⟨"heat", .single fun _ => Effect.overwrite "heat" (.number 7)⟩]
  invariants := []
  init? := none

/-- Sets the limit higher, once by an assignment and once by a state, and then all variables back. -/
def raiseLimit : Effect (Option String) :=
  .assign "limit" (.number 99) fun _ =>
    .restore (.ofEntries [("heat", .ofInt64 3), ("limit", .ofInt64 99)]) fun _ =>
      .reset (.done (.ok none))

theorem hasVariable_boiler_iff (name : String) :
    HasVariable boiler.entries name ↔ name = "heat" := by
  simp [HasVariable, boiler]

/-- The boiler was lit and heated, and it was tried in vain to set the limit higher. The limit is what it
was declared to be, and it makes no difference what a state has for it. -/
theorem constants_are_invisible_boiler :
    ∃ model, (boiler.build ()).result = .ok model ∧
      let lit := ((Effect.overwrite "heat" (.number 1)).run model.bank ∅).bank
      ∃ built, (ControllerSetup.standard.build { model with bank := lit } ()).result = .ok built ∧
        let heated := (Operation.call (.fire ⟨0, 0⟩)).outcome built ()
        let reached :=
          ((Operation.call (.tryChangeState raiseLimit)).outcome heated.controller ()).controller
        reached.history.length = 3 ∧
          reached.bank.get? "limit" = some ⟨"limit", .number, true, .number 9⟩ ∧
          "limit" ∉ reached.current.state.names ∧
          reached.restoreState () (.ofEntries [("heat", .ofInt64 5), ("limit", .ofInt64 99)]) =
            reached.restoreState () (.ofEntries [("heat", .ofInt64 5), ("rust", .ofInt64 1)]) := by
  obtain ⟨model, hmodel⟩ : ∃ model, (boiler.build ()).result = .ok model := ⟨_, rfl⟩
  obtain ⟨built, hbuild⟩ : ∃ built, (ControllerSetup.standard.build { model with
      bank := ((Effect.overwrite "heat" (.number 1)).run model.bank ∅).bank } ()).result =
        .ok built := by
    cases hmodel
    exact ⟨_, rfl⟩
  have hproceeds : Proceeds (fun _ _ _ => True) built _ _ :=
    (Proceeds.start.perform (.call (.fire ⟨0, 0⟩)) () trivial).perform
      (.call (.tryChangeState raiseLimit)) () trivial
  have hhides := constants_are_invisible hmodel hbuild hproceeds
  refine ⟨model, hmodel, built, hbuild, ?_, ?_, fun hmem => ?_, ?_⟩
  · cases hmodel
    cases hbuild
    rfl
  · have hdone := hhides.bank (.done (.ok ()))
    exact hdone.constant (List.mem_cons_self ..)
  · have hname := (hhides.saved (History.current_mem_entries _) "limit").1 hmem
    exact absurd ((hasVariable_boiler_iff "limit").1 hname) (by decide)
  · refine hhides.restoreState () fun name hname => ?_
    rw [(hasVariable_boiler_iff name).1 hname]
    rfl

end Controller

end TransitionEngine
