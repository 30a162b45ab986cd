import TransitionEngine.Proofs.Changeset
import TransitionEngine.Proofs.Controller.Calls

/-!
# The current entry is the live state

Whatever a call does and wherever it fails, the variables are saved as the last entry of the history
says. A change that is not committed is taken back by restoring that entry, and it can be restored
because every entry was saved from values that conform to their types. The live values themselves need
not conform: a probe that failed may leave others behind, as long as they are saved the same.
-/

namespace TransitionEngine

variable {Outside : Type} {declarations : List VariableDeclaration}

namespace History

@[simp]
theorem current_mem_entries (history : History) : history.current ∈ history.entries := by
  simp [entries]

theorem mem_entries_of_mem_truncate {history : History} {index : Nat} {snapshot : Snapshot}
    (hmem : snapshot ∈ (history.truncate index).entries) : snapshot ∈ history.entries := by
  rw [entries_truncate] at hmem
  exact List.mem_of_mem_take hmem

/-- What every entry has, it has still when the history is left alone or cut back. -/
theorem forall_entries_of_kept {history after : History} {kept : Snapshot → Prop}
    (hentries : ∀ snapshot ∈ history.entries, kept snapshot)
    (hafter : after = history ∨ ∃ index, after = history.truncate index) :
    ∀ snapshot ∈ after.entries, kept snapshot := by
  rcases hafter with rfl | ⟨index, rfl⟩
  · exact hentries
  · exact fun snapshot hmem => hentries snapshot (mem_entries_of_mem_truncate hmem)

/-- Going back to an entry makes it the current one. -/
theorem getElem?_entries_eq_current_truncate {history : History} {index : Nat}
    (hindex : index < history.length) :
    history.entries[index]? = some (history.truncate index).current := by
  unfold truncate
  split
  · rename_i snapshot hget
    have hlt := (List.getElem?_eq_some_iff.1 hget).1
    rw [entries, List.getElem?_append_left hlt, hget]
  · rename_i hget
    have hle := List.getElem?_eq_none_iff.1 hget
    rw [length] at hindex
    have hlast : index = history.earlier.length := by omega
    rw [entries, hlast, List.getElem?_append_right (Nat.le_refl _)]
    simp

theorem current_truncate_of_getElem? {history : History} {index : Nat} {snapshot : Snapshot}
    (hentry : history.entries[index]? = some snapshot) :
    index < history.length ∧ snapshot = (history.truncate index).current := by
  have hindex : index < history.length := by
    rw [← length_entries]
    exact (List.getElem?_eq_some_iff.1 hentry).1
  rw [getElem?_entries_eq_current_truncate hindex] at hentry
  exact ⟨hindex, (Option.some.inj hentry).symm⟩

theorem getElem?_entries_push {history : History} {position : Nat} {snapshot : Snapshot}
    (hentry : history.entries[position]? = some snapshot) (message : String)
    (state : SavedState) : (history.push message state).entries[position]? = some snapshot := by
  rw [entries_push, List.getElem?_append_left (List.getElem?_eq_some_iff.1 hentry).1, hentry]

/-- An entry of a history that was pushed to is an old one or the new one. -/
theorem entry_push {history : History} {message : String} {state : SavedState} {position : Nat}
    {snapshot : Snapshot} (hentry : (history.push message state).entries[position]? = some snapshot) :
    history.entries[position]? = some snapshot ∨
      (position = history.length ∧ snapshot = ⟨history.length, message, state⟩) := by
  rw [entries_push] at hentry
  by_cases hold : position < history.entries.length
  · rw [List.getElem?_append_left hold] at hentry
    exact .inl hentry
  · have hlast : position = history.entries.length := by
      have hbound := (List.getElem?_eq_some_iff.1 hentry).1
      rw [List.length_append, List.length_singleton] at hbound
      omega
    rw [hlast, List.getElem?_concat_length] at hentry
    exact .inr ⟨hlast.trans history.length_entries, (Option.some.inj hentry).symm⟩

theorem current_of_getElem? {history : History} {position : Nat} {snapshot : Snapshot}
    (hlast : position + 1 = history.length) (hentry : history.entries[position]? = some snapshot) :
    snapshot = history.current := by
  rw [length, Nat.add_right_cancel_iff] at hlast
  rw [entries, hlast, List.getElem?_concat_length] at hentry
  exact (Option.some.inj hentry).symm

/-- Two neighbours in a history that was pushed to were neighbours before, or they are the entry that
was the current one and the new one. -/
theorem neighbours_push {history : History} {message : String} {state : SavedState} {position : Nat}
    {earlier later : Snapshot}
    (hearlier : (history.push message state).entries[position]? = some earlier)
    (hlater : (history.push message state).entries[position + 1]? = some later) :
    (history.entries[position]? = some earlier ∧ history.entries[position + 1]? = some later) ∨
      (position + 1 = history.length ∧ earlier = history.current ∧
        later = ⟨history.length, message, state⟩) := by
  have hbefore (hbound : position < history.length) :
      history.entries[position]? = some earlier := by
    rcases entry_push hearlier with hold | ⟨hlast, -⟩
    · exact hold
    · omega
  rcases entry_push hlater with hold | ⟨hlast, hnew⟩
  · have hbound := (List.getElem?_eq_some_iff.1 hold).1
    rw [length_entries] at hbound
    exact .inl ⟨hbefore (by omega), hold⟩
  · exact .inr ⟨hlast, current_of_getElem? hlast (hbefore (by omega)), hnew⟩

/-- Entries that stay keep their positions. -/
theorem getElem?_entries_of_truncate {history : History} {index position : Nat} {snapshot : Snapshot}
    (hentry : (history.truncate index).entries[position]? = some snapshot) :
    history.entries[position]? = some snapshot := by
  rw [entries_truncate, List.getElem?_take] at hentry
  split at hentry
  · exact hentry
  · cases hentry

end History

/-- The state was saved from a bank of these declarations whose values conform. -/
def SavedState.IsStorable (declarations : List VariableDeclaration) (state : SavedState) : Prop :=
  ∃ bank : Bank, bank.Fits declarations ∧ bank.save = state

theorem SavedState.IsStorable.exists_restore {state : SavedState}
    (hstorable : state.IsStorable declarations) {before : Bank}
    (hdeclared : before.declarations = declarations) :
    ∃ bank, before.restore state = .ok bank ∧ bank.save = state := by
  obtain ⟨saved, ⟨hsaved, hconforms⟩, rfl⟩ := hstorable
  exact Bank.exists_restore_save hconforms (hdeclared.trans hsaved.symm)

/-- The variables are saved as the current entry says, and every entry can be restored. -/
structure Core.IsConsistent (declarations : List VariableDeclaration) (core : Core Outside) :
    Prop where
  declared : core.bank.declarations = declarations
  live : core.bank.save = core.history.current.state
  storable : ∀ snapshot ∈ core.history.entries, snapshot.state.IsStorable declarations

/-- Every entry can be restored, whether or not the variables are saved as the current one says. -/
structure Core.IsStored (declarations : List VariableDeclaration) (core : Core Outside) : Prop where
  declared : core.bank.declarations = declarations
  storable : ∀ snapshot ∈ core.history.entries, snapshot.state.IsStorable declarations

theorem Core.IsConsistent.isStored {core : Core Outside}
    (hconsistent : core.IsConsistent declarations) : core.IsStored declarations :=
  ⟨hconsistent.declared, hconsistent.storable⟩

/-- When the code of the call succeeds, every value conforms; and no state comes from outside. -/
def Call.SucceedsConforming (call : Call Outside) (controller : Controller Outside)
    (outside : Outside) : Prop :=
  (∀ state, call ≠ .restoreState state) ∧
    ∀ run, call.attempt? controller outside = some run → run.outcome = .ok () → run.bank.Conforms

namespace Controller

variable {controller : Controller Outside} {outside : Outside} {call : Call Outside}
  {core : Core Outside}

theorem declarations_of_leaves (hleaves : controller.Leaves outside call core) :
    core.bank.declarations = controller.bank.declarations := by
  cases hleaves with
  | nothing => rfl
  | unchanged hattempt | committed hattempt | restarted hattempt =>
      exact declarations_of_attempt? hattempt
  | slept _ hattempt => exact declarations_of_attempt? hattempt
  | undone hbefore hrestore => exact (Bank.declarations_restore hrestore).trans hbefore
  | rewound hbefore _ hrestore => exact (Bank.declarations_restore hrestore).trans hbefore
  | stuck hbefore => exact hbefore
  | replaced _ hrestore => exact Bank.declarations_restore hrestore

/-- Every entry of the history stays as it is, is dropped, or is what the code of the call has left. -/
theorem stored_of_leaves {stored : SavedState → Prop}
    (hentries : ∀ snapshot ∈ controller.history.entries, stored snapshot.state)
    (hattempted : ∀ run, call.attempt? controller outside = some run → run.outcome = .ok () →
      stored run.bank.save)
    (hleaves : controller.Leaves outside call core) :
    ∀ snapshot ∈ core.history.entries, stored snapshot.state := by
  cases hleaves with
  | nothing | unchanged | slept | undone | replaced => exact hentries
  | @committed run message hattempt hsucceeded =>
      intro snapshot hmem
      change snapshot ∈ (controller.history.push message run.bank.save).entries at hmem
      rw [History.entries_push, List.mem_append, List.mem_singleton] at hmem
      rcases hmem with hmem | rfl
      · exact hentries snapshot hmem
      · exact hattempted run hattempt hsucceeded
  | @restarted run hattempt hsucceeded =>
      intro snapshot hmem
      rw [List.mem_singleton.1 hmem]
      exact hattempted run hattempt hsucceeded
  | rewound _ hhistory => exact History.forall_entries_of_kept hentries hhistory
  | stuck _ hhistory => exact History.forall_entries_of_kept hentries hhistory

section Stored

variable (hstored : controller.core.IsStored declarations)

include hstored

theorem storable_of_isStored {history : History} (hhistory : history = controller.history ∨
      ∃ index, history = controller.history.truncate index) :
    ∀ snapshot ∈ history.entries, snapshot.state.IsStorable declarations :=
  History.forall_entries_of_kept hstored.storable hhistory

/-- Any bank of the declarations can be restored from an entry that a call goes back to. -/
theorem exists_restore_of_isStored {before : Bank}
    (hbefore : before.declarations = controller.bank.declarations)
    {history : History} (hhistory : history = controller.history ∨
      ∃ index, history = controller.history.truncate index) :
    ∃ bank, before.restore history.current.state = .ok bank ∧
      bank.declarations = declarations ∧ bank.save = history.current.state := by
  have hcurrent := storable_of_isStored hstored hhistory _ history.current_mem_entries
  have hdeclared := hbefore.trans hstored.declared
  obtain ⟨bank, hrestore, hsave⟩ := hcurrent.exists_restore hdeclared
  exact ⟨bank, hrestore, (Bank.declarations_restore hrestore).trans hdeclared, hsave⟩

theorem restore_ne_error_of_isStored {before : Bank}
    (hbefore : before.declarations = controller.bank.declarations)
    {history : History} (hhistory : history = controller.history ∨
      ∃ index, history = controller.history.truncate index) (error : ValueError) :
    before.restore history.current.state ≠ .error error := by
  obtain ⟨bank, hbank, -⟩ := exists_restore_of_isStored hstored hbefore hhistory
  rw [hbank]
  exact nofun

/-- A comparison with the current entry finds nothing only in what is saved the same. -/
theorem save_eq_current_of_isEmpty {bank : Bank}
    (hsame : (Changeset.between controller.current.state bank.save).isEmpty = true) :
    bank.save = controller.current.state := by
  obtain ⟨saved, -, hsaved⟩ :=
    hstored.storable controller.current controller.history.current_mem_entries
  rw [← hsaved] at hsame ⊢
  exact (Bank.isEmpty_between_save_iff.1 hsame).symm

/-- Also a state from outside leaves the entries alone. -/
theorem isStored_of_leaves
    (hconforms : ∀ run, call.attempt? controller outside = some run → run.outcome = .ok () →
      run.bank.Conforms) (hleaves : controller.Leaves outside call core) :
    core.IsStored declarations := by
  refine ⟨(declarations_of_leaves hleaves).trans hstored.declared, ?_⟩
  refine stored_of_leaves hstored.storable (fun run hattempt hsucceeded => ?_) hleaves
  have hdeclared := (declarations_of_attempt? hattempt).trans hstored.declared
  exact ⟨run.bank, ⟨hdeclared, hconforms run hattempt hsucceeded⟩, rfl⟩

/-- Every call but one that sets a state from outside leaves the variables as they are saved in the
current entry, unless it leaves everything as it was. -/
theorem live_of_leaves (hleaves : controller.Leaves outside call core) :
    core = controller.core ∨ core.bank.save = core.history.current.state ∨
      ∃ state, call = .restoreState state := by
  cases hleaves with
  | nothing => exact .inl rfl
  | unchanged _ _ hsame => exact .inr (.inl (save_eq_current_of_isEmpty hstored hsame))
  | slept _ _ _ hsame => exact .inr (.inl (save_eq_current_of_isEmpty hstored hsame))
  | undone hbefore hrestore =>
      obtain ⟨bank, hbank, -, hsave⟩ := exists_restore_of_isStored hstored hbefore (.inl rfl)
      rw [current, hbank] at hrestore
      cases hrestore
      exact .inr (.inl hsave)
  | committed | restarted => exact .inr (.inl rfl)
  | rewound hbefore hhistory hrestore =>
      obtain ⟨bank, hbank, -, hsave⟩ := exists_restore_of_isStored hstored hbefore hhistory
      rw [hbank] at hrestore
      cases hrestore
      exact .inr (.inl hsave)
  | stuck hbefore hhistory hrestore =>
      exact absurd hrestore (restore_ne_error_of_isStored hstored hbefore hhistory _)
  | replaced hcall => exact .inr (.inr ⟨_, hcall⟩)

end Stored

theorem isConsistent_of_leaves (hconsistent : controller.core.IsConsistent declarations)
    (hpermitted : call.SucceedsConforming controller outside)
    (hleaves : controller.Leaves outside call core) : core.IsConsistent declarations := by
  obtain ⟨hdeclared, hstorable⟩ := isStored_of_leaves hconsistent.isStored hpermitted.2 hleaves
  rcases live_of_leaves hconsistent.isStored hleaves with rfl | hlive | ⟨state, hcall⟩
  · exact hconsistent
  · exact ⟨hdeclared, hlive, hstorable⟩
  · exact absurd hcall (hpermitted.1 state)

theorem isConsistent_of_reaches {start : Controller Outside}
    (hstart : start.core.IsConsistent declarations)
    (hreached : Reaches Call.SucceedsConforming start controller) :
    controller.core.IsConsistent declarations := by
  induction hreached with
  | start => exact hstart
  | call hreached call outside hpermitted ih =>
      exact isConsistent_of_leaves ih hpermitted (leaves_perform call _ outside)

theorem core_of_build {setup : ControllerSetup Outside} {model : Model Outside}
    {built : Controller Outside} (hbuild : (setup.build model outside).result = .ok built) :
    ∃ rulesets, model.rules.mapM (Ruleset.ofDeclaration · outside model.bank) = .ok rulesets ∧
      built.core = ⟨model.bank, .start "Initial state" model.bank.save, rulesets⟩ := by
  obtain ⟨checked, rulesets, hchecked, -, hmade, rfl⟩ := exists_of_build hbuild
  refine ⟨rulesets, hmade, ?_⟩
  have hcore : checked.controller.core =
      ⟨model.bank, .start "Initial state" model.bank.save, []⟩ := by
    rw [hchecked]
    split
    · exact core_checkInvariants (setup.start model) outside
    · rfl
  have hbank : checked.controller.bank = model.bank := congrArg Core.bank hcore
  have hhistory : checked.controller.history = .start "Initial state" model.bank.save :=
    congrArg Core.history hcore
  change (⟨checked.controller.bank, checked.controller.history, rulesets⟩ : Core Outside) = _
  rw [hbank, hhistory]

theorem isConsistent_of_build {setup : ControllerSetup Outside} {model : Model Outside}
    (hconforms : model.bank.Conforms) {built : Controller Outside}
    (hbuild : (setup.build model outside).result = .ok built) :
    built.core.IsConsistent model.bank.declarations := by
  obtain ⟨rulesets, -, hcore⟩ := core_of_build hbuild
  rw [hcore]
  refine ⟨rfl, rfl, fun snapshot hmem => ?_⟩
  rw [List.mem_singleton.1 hmem]
  exact ⟨model.bank, ⟨rfl, hconforms⟩, rfl⟩

theorem history_restore {index : Nat} (hindex : index < controller.history.length) :
    (controller.restore outside index).controller.history = controller.history.truncate index := by
  change Core.history (Controller.core (Outcome.controller _)) = _
  rw [core_restore controller outside hindex]
  split <;> rfl

/-- The live state is the current entry of the history after every call, and going back to an entry
keeps exactly the entries up to it and makes it the live state, whatever else then fails. -/
theorem saveState_eq_current {setup : ControllerSetup Outside} {model : Model Outside}
    (hconforms : model.bank.Conforms) {built controller : Controller Outside}
    (hbuild : (setup.build model outside).result = .ok built)
    (hreached : Reaches Call.SucceedsConforming built controller) :
    controller.saveState = controller.current.state ∧
      ∀ outside index, index < controller.history.length →
        (controller.restore outside index).controller.history.entries =
            controller.history.entries.take (index + 1) ∧
          controller.history.entries[index]?.map Snapshot.state =
            some (controller.restore outside index).controller.saveState := by
  have hstart := isConsistent_of_build hconforms hbuild
  have hconsistent := isConsistent_of_reaches hstart hreached
  refine ⟨hconsistent.live, fun outside index hindex => ?_⟩
  have hhistory : (controller.restore outside index).controller.history =
      controller.history.truncate index := history_restore hindex
  have hrestored : (controller.restore outside index).controller.core.IsConsistent
      model.bank.declarations :=
    isConsistent_of_leaves hconsistent ⟨(by simp), fun _ hattempt => by cases hattempt⟩
      (leaves_perform (.restore index) controller outside)
  have hlive : (controller.restore outside index).controller.saveState =
      (controller.restore outside index).controller.history.current.state := hrestored.live
  rw [hlive, hhistory, History.entries_truncate,
    History.getElem?_entries_eq_current_truncate hindex]
  exact ⟨rfl, rfl⟩

def gauge : Model Unit where
  bank := ⟨[.ofType "level" (.range 0 10)], by decide⟩
  rules := [⟨"raise", .single fun _ => .update "level"
    (fun level => (level.asNumber?.map fun n => Value.number (n + 1)).getD level)
    (fun outcome => .done (outcome.map fun _ => ()))⟩]
  invariants := []
  init? := none

/-- Writes what is no level at all, and then fails. -/
def spoil : Effect (Option String) :=
  .update "level" (fun _ => .record []) fun _ => .done (.error (.unknownVariable "mark"))

/-- The gauge is raised once, and then spoiled in vain. -/
theorem reaches_spoiled_gauge {built : Controller Unit}
    (hbuild : (ControllerSetup.standard.build gauge ()).result = .ok built) :
    Reaches Call.SucceedsConforming built
      ((Call.tryChangeState spoil).perform ((Call.fire ⟨0, 0⟩).perform built ()) ()) := by
  have hraise : (Call.fire ⟨0, 0⟩).SucceedsConforming built () := by
    refine ⟨(by simp), fun run hattempt _ => ?_⟩
    cases hbuild
    have hentries : run.bank.entries = [⟨"level", .range 0 10, false, .number 1⟩] := by
      rw [← Option.some.inj hattempt]
      rfl
    exact Bank.conforms_of_range (by decide) (by decide) hentries
  have hspoil : (Call.tryChangeState spoil).SucceedsConforming
      ((Call.fire ⟨0, 0⟩).perform built ()) () := by
    refine ⟨(by simp), fun run hattempt houtcome => ?_⟩
    rw [← Option.some.inj hattempt] at houtcome
    cases houtcome
  exact (Reaches.start.call _ () hraise).call _ () hspoil

theorem saveState_eq_current_gauge :
    ∃ built, (ControllerSetup.standard.build gauge ()).result = .ok built ∧
      let raised := (Call.fire ⟨0, 0⟩).perform built ()
      let spoiled := (Call.tryChangeState spoil).perform raised ()
      spoiled.saveState = spoiled.current.state ∧
        (spoiled.restore () 0).controller.history.entries = spoiled.history.entries.take 1 := by
  obtain ⟨built, hbuild⟩ : ∃ built, (ControllerSetup.standard.build gauge ()).result = .ok built :=
    ⟨_, rfl⟩
  obtain ⟨hlive, hrestore⟩ := saveState_eq_current
    (Bank.conforms_of_range (by decide) (by decide) rfl) hbuild (reaches_spoiled_gauge hbuild)
  exact ⟨built, hbuild, hlive, (hrestore () 0 (Nat.succ_pos _)).1⟩

end Controller

end TransitionEngine
