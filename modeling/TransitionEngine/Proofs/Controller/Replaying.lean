import TransitionEngine.Proofs.Controller.Accounts
import TransitionEngine.Proofs.Controller.Consistency

/-!
# The events tell the history

An observer who gets the events alone can keep a chronicle of the history: a commit adds an entry to
it, going back cuts it, and a reset starts it anew. However the operations fail, the chronicle has
the entries of the history, and knows between any two of them what changed.
-/

namespace TransitionEngine

variable {Outside α : Type}

/-- What an observer knows of an entry of the history. The first entry was not committed, so nothing
is listed as changed by it. -/
structure ChronicleEntry where
  index : Nat
  message : String
  changes : List String

abbrev Chronicle := List ChronicleEntry

/-- Every entry was made by saving variables. -/
def History.IsSaved (history : History) : Prop :=
  ∀ snapshot ∈ history.entries, ∃ bank : Bank, snapshot.state = bank.save

namespace History.IsSaved

variable {history : History}

theorem start (message : String) (bank : Bank) : (History.start message bank.save).IsSaved := by
  intro snapshot hmem
  rw [List.mem_singleton.1 hmem]
  exact ⟨bank, rfl⟩

theorem push (hsaved : history.IsSaved) (message : String) (bank : Bank) :
    (history.push message bank.save).IsSaved := by
  intro snapshot hmem
  rw [entries_push, List.mem_append, List.mem_singleton] at hmem
  rcases hmem with hmem | rfl
  · exact hsaved snapshot hmem
  · exact ⟨bank, rfl⟩

theorem truncate (hsaved : history.IsSaved) (index : Nat) : (history.truncate index).IsSaved :=
  fun snapshot hmem => hsaved snapshot (mem_entries_of_mem_truncate hmem)

end History.IsSaved

namespace Chronicle

def begin (message : String) : Chronicle :=
  [⟨0, message, []⟩]

/-- The chronicle after an event. A commit has to come with the index of the next entry. -/
def follow (chronicle : Chronicle) : EventPayload → Option Chronicle
  | .committed index message changes =>
      if index = chronicle.length then some (chronicle ++ [⟨index, message, changes⟩]) else none
  | .restored index => some (chronicle.take (index + 1))
  | .reset => some (begin "Reset")
  | .invariantFailed _ _ => some chronicle

def followAll (chronicle : Chronicle) (notices : List Notice) : Option Chronicle :=
  (notices.filterMap Notice.event?).foldlM follow chronicle

/-- The entries are those of the history, and each lists the names, once and in order, on which it
differs from the one before. -/
structure Tells (chronicle : Chronicle) (history : History) : Prop where
  entries : chronicle.map (fun entry => (entry.index, entry.message)) =
    history.entries.map fun snapshot => (snapshot.index, snapshot.message)
  changes {position : Nat} {entry : ChronicleEntry} {earlier later : Snapshot}
    (hentry : chronicle[position + 1]? = some entry)
    (hearlier : history.entries[position]? = some earlier)
    (hlater : history.entries[position + 1]? = some later) :
    entry.changes.Pairwise (· < ·) ∧
      ∀ name, name ∈ entry.changes ↔ earlier.state.get? name ≠ later.state.get? name

/-! ### Following notices -/

section Follow

variable {chronicle next final : Chronicle} {notices : List Notice}

theorem followAll_append {others : List Notice} (hfirst : chronicle.followAll notices = some next)
    (hrest : next.followAll others = some final) :
    chronicle.followAll (notices ++ others) = some final := by
  rw [followAll, List.filterMap_append, List.foldlM_append]
  exact Option.bind_eq_some_iff.2 ⟨next, hfirst, hrest⟩

theorem followAll_asides (chronicle : Chronicle) (hasides : ∀ notice ∈ notices, notice.IsAside) :
    chronicle.followAll notices = some chronicle := by
  induction notices with
  | nil => rfl
  | cons notice rest ih =>
      obtain ⟨haside, hrest⟩ := List.forall_mem_cons.1 hasides
      have hfirst : chronicle.followAll [notice] = some chronicle := by
        unfold Notice.IsAside at haside
        split at haside <;> first | rfl | exact haside.elim
      exact followAll_append hfirst (ih hrest)

theorem followAll_showing (chronicle : Chronicle) (controller : Controller Outside)
    (history : History) : chronicle.followAll (controller.showing history) = some chronicle := by
  rw [followAll, Controller.showing, List.filterMap_map]
  have hnone : controller.views.filterMap (Notice.event? ∘ (.viewUpdated · history)) = [] :=
    List.filterMap_eq_nil_iff.2 fun _ _ => rfl
  rw [hnone]
  rfl

theorem followAll_event {payload : EventPayload} (hfirst : chronicle.follow payload = some next)
    (hrest : next.followAll notices = some final) :
    chronicle.followAll (.event payload :: notices) = some final := by
  have hevent : chronicle.followAll [.event payload] = some next := by
    rw [← hfirst]
    exact bind_pure _
  exact followAll_append hevent hrest

end Follow

/-! ### Keeping up with the history -/

section Tells

variable {chronicle : Chronicle} {history : History}

theorem tells_begin (message : String) (state : SavedState) :
    (begin message).Tells (.start message state) where
  entries := rfl
  changes hentry := by simp [begin] at hentry

theorem Tells.length_eq (htells : chronicle.Tells history) :
    chronicle.length = history.length := by
  have hlength := congrArg List.length htells.entries
  rwa [List.length_map, List.length_map, History.length_entries] at hlength

/-- What a commit lists is what the comparison of the two entries found. -/
theorem Tells.push (htells : chronicle.Tells history) (hsaved : history.IsSaved) (message : String)
    (bank : Bank) :
    ∃ next, chronicle.follow (.ofCommit history.length message
        (.between history.current.state bank.save)) = some next ∧
      next.Tells (history.push message bank.save) := by
  obtain ⟨before, hbefore⟩ := hsaved history.current history.current_mem_entries
  rw [hbefore]
  generalize hnames : NameSet.ofList (Changeset.changedNames before.save bank.save) = names
  have hfollow : chronicle.follow (.ofCommit history.length message
      (.between before.save bank.save)) =
        some (chronicle ++ [⟨history.length, message, names.names⟩]) := by
    rw [EventPayload.ofCommit, Changeset.between, hnames]
    exact if_pos htells.length_eq.symm
  refine ⟨_, hfollow, ?_, ?_⟩
  · rw [List.map_append, htells.entries, History.entries_push, List.map_append]
    rfl
  · intro position entry earlier later hentry hearlier hlater
    have hlength := htells.length_eq
    rcases History.neighbours_push hearlier hlater with ⟨hearlier, hlater⟩ | ⟨hlast, rfl, rfl⟩
    · have hbound := (List.getElem?_eq_some_iff.1 hlater).1
      rw [History.length_entries] at hbound
      rw [List.getElem?_append_left (by omega)] at hentry
      exact htells.changes hentry hearlier hlater
    · rw [hlast, ← hlength, List.getElem?_concat_length] at hentry
      rw [← Option.some.inj hentry, hbefore, ← hnames]
      exact ⟨NameSet.ascending _, fun name => Bank.mem_changedNames_save_iff⟩

theorem Tells.truncate (htells : chronicle.Tells history) (index : Nat) :
    Chronicle.Tells (chronicle.take (index + 1)) (history.truncate index) where
  entries := by
    rw [History.entries_truncate, List.map_take, List.map_take, htells.entries]
  changes {position entry earlier later} hentry hearlier hlater := by
    rw [List.getElem?_take] at hentry
    split at hentry
    · exact htells.changes hentry (History.getElem?_entries_of_truncate hearlier)
        (History.getElem?_entries_of_truncate hlater)
    · cases hentry

/-- Following the notices of an operation keeps the chronicle up with the history, unless the
operation went back to an entry that does not decode. -/
theorem Tells.follow_accounts (htells : chronicle.Tells history) (hsaved : history.IsSaved)
    {controller : Controller Outside} (hhistory : controller.history = history)
    (hdecodes : ∀ snapshot ∈ history.entries, controller.bank.Decodes snapshot.state)
    {operation : Operation Outside} {result : Except EngineError α} {left : History}
    {notices : List Notice} (haccounts : controller.Accounts operation result left notices) :
    ∃ next, chronicle.followAll notices = some next ∧ next.Tells left ∧ left.IsSaved := by
  subst hhistory
  cases haccounts with
  | silent hnotices => exact ⟨chronicle, followAll_asides _ hnotices, htells, hsaved⟩
  | @committed reply bank message asides _ hasides =>
      obtain ⟨next, hfollow, hnext⟩ := htells.push hsaved message bank
      have hshown := followAll_append (followAll_asides next hasides)
        (followAll_showing next controller (controller.history.push message bank.save))
      exact ⟨next, followAll_event hfollow hshown, hnext, hsaved.push message bank⟩
  | @interrupted error bank message asides _ hasides =>
      obtain ⟨next, hfollow, hnext⟩ := htells.push hsaved message bank
      exact ⟨next, followAll_event hfollow (followAll_asides next hasides), hnext,
        hsaved.push message bank⟩
  | @restarted reply bank =>
      have hshown := followAll_showing (begin "Reset") controller (.start "Reset" bank.save)
      exact ⟨_, followAll_event rfl hshown, tells_begin .., .start "Reset" bank⟩
  | @rewound result index asides _ _ _ hasides =>
      let next : Chronicle := chronicle.take (index + 1)
      have hshown := followAll_append
        (followAll_showing next controller (controller.history.truncate index))
        (followAll_asides next hasides)
      exact ⟨next, followAll_event rfl hshown, htells.truncate index, hsaved.truncate index⟩
  | @stranded error index _ _ hstuck =>
      have hmem := History.mem_entries_of_mem_truncate
        (controller.history.truncate index).current_mem_entries
      exact absurd (hdecodes _ hmem) hstuck

end Tells

end Chronicle

/-- No domain fails on the variables that the operation leaves, and every entry of the history
decodes. -/
structure Operation.IsUnhindered (operation : Operation Outside) (controller : Controller Outside)
    (outside : Outside) : Prop where
  domains : operation.DomainsSucceed controller outside
  decodes : ∀ snapshot ∈ controller.history.entries, controller.bank.Decodes snapshot.state

namespace Controller

variable {setup : ControllerSetup Outside} {model : Model Outside} {start : Outside}
  {built controller : Controller Outside} {notices : List Notice}

theorem isAside_build (setup : ControllerSetup Outside) (model : Model Outside)
    (outside : Outside) : ∀ notice ∈ (setup.build model outside).notices, notice.IsAside := by
  have hrulesets (controller : Controller Outside) :
      ∀ notice ∈ (ControllerSetup.withRulesets controller outside).notices, notice.IsAside := by
    unfold ControllerSetup.withRulesets
    split
    · exact List.forall_mem_nil _
    · exact List.forall_mem_singleton.2 trivial
  unfold ControllerSetup.build
  split
  · exact List.forall_mem_nil _
  · dsimp only
    generalize hchecked : (if setup.config.checksOnLoad then
        (setup.start model).checkInvariants outside
      else (⟨.ok true, setup.start model, []⟩ : Outcome Outside Bool)) = checked
    have hasides : ∀ notice ∈ checked.notices, notice.IsAside := by
      rw [← hchecked]
      split
      · exact isAside_checkInvariants (setup.start model) outside
      · exact List.forall_mem_nil _
    split
    · exact hasides
    · exact List.forall_mem_append.2 ⟨hasides, hrulesets checked.controller⟩

theorem tells_of_proceeds (hbuild : (setup.build model start).result = .ok built)
    (hproceeds : Proceeds Operation.IsUnhindered built controller notices) :
    ∃ chronicle, (Chronicle.begin "Initial state").followAll notices = some chronicle ∧
      chronicle.Tells controller.history ∧ controller.history.IsSaved := by
  induction hproceeds with
  | start =>
      obtain ⟨rulesets, -, hcore⟩ := core_of_build hbuild
      have hhistory : built.history = .start "Initial state" model.bank.save :=
        congrArg Core.history hcore
      rw [hhistory]
      exact ⟨_, rfl, Chronicle.tells_begin .., .start "Initial state" model.bank⟩
  | perform _ operation outside hunhindered ih =>
      obtain ⟨chronicle, hfollowed, htells, hsaved⟩ := ih
      obtain ⟨next, hnext, htells', hsaved'⟩ := htells.follow_accounts hsaved rfl
        hunhindered.decodes (accounts_outcome hunhindered.domains)
      exact ⟨next, Chronicle.followAll_append hfollowed hnext, htells', hsaved'⟩

/-- After every operation, the chronicle that the events make tells the history. -/
theorem events_tell_history (hbuild : (setup.build model start).result = .ok built)
    (hproceeds : Proceeds Operation.IsUnhindered built controller notices) :
    ∃ chronicle, (Chronicle.begin "Initial state").followAll
        ((setup.build model start).notices ++ notices) = some chronicle ∧
      chronicle.Tells controller.history := by
  obtain ⟨chronicle, hfollowed, htells, -⟩ := tells_of_proceeds hbuild hproceeds
  have hbuilt := Chronicle.followAll_asides (.begin "Initial state")
    (isAside_build setup model start)
  exact ⟨chronicle, Chronicle.followAll_append hbuilt hfollowed, htells⟩

/-- Draining the cistern is refused, but too late to keep it out of the history; and going back to
what is no entry is refused. Of both, the events tell what happened. -/
theorem events_tell_history_cistern :
    ∃ built, (ControllerSetup.standard.build cistern ()).result = .ok built ∧
      let drained := (Operation.call (.fire ⟨1, 0⟩)).outcome built ()
      let missed := (Operation.call (.restore 2)).outcome drained.controller ()
      (∃ error, drained.result = .error error) ∧ missed.controller.history.length = 2 ∧
        ∃ chronicle, (Chronicle.begin "Initial state").followAll
            ((ControllerSetup.standard.build cistern ()).notices ++
              ([] ++ drained.notices ++ missed.notices)) = some chronicle ∧
          chronicle.Tells missed.controller.history := by
  obtain ⟨built, hbuild⟩ :
      ∃ built, (ControllerSetup.standard.build cistern ()).result = .ok built := ⟨_, rfl⟩
  have hdrained : (Operation.call (.fire ⟨1, 0⟩)).IsUnhindered built () := by
    cases hbuild
    refine ⟨List.forall_mem_cons.2 ⟨trivial, List.forall_mem_singleton.2 ?_⟩,
      List.forall_mem_singleton.2 ?_⟩
    · rintro outside bank rfl
      exact ⟨_, rfl⟩
    · exact Bank.exists_restore_iff.1 ⟨_, rfl⟩
  have hmissed : (Operation.call (.restore 2)).IsUnhindered
      ((Operation.call (.fire ⟨1, 0⟩)).outcome built ()).controller () := by
    cases hbuild
    refine ⟨List.forall_mem_cons.2 ⟨trivial, List.forall_mem_singleton.2 ?_⟩,
      List.forall_mem_cons.2 ⟨?_, List.forall_mem_singleton.2 ?_⟩⟩
    · rintro outside bank rfl
      exact ⟨_, rfl⟩
    · exact Bank.exists_restore_iff.1 ⟨_, rfl⟩
    · exact Bank.exists_restore_iff.1 ⟨_, rfl⟩
  have htold :=
    events_tell_history hbuild ((Proceeds.start.perform _ () hdrained).perform _ () hmissed)
  refine ⟨built, hbuild, ?_, ?_, htold⟩
  · cases hbuild
    exact ⟨_, rfl⟩
  · cases hbuild
    rfl

end Controller

end TransitionEngine
