import TransitionEngine.Proofs.Controller.Accounts
import TransitionEngine.Proofs.Controller.Consistency

/-!
# How the history grows

The history begins with a starting state, and every later entry was committed because it differs from
the one before it, with a message that names where. An operation adds an entry, cuts the history back
to an entry or starts it anew, and alters no entry that stays. This holds whatever fails: an error
before the commit adds nothing, and one behind it leaves the entry as it is.
-/

namespace TransitionEngine

variable {Outside : Type}

/-- The entry was committed on top of the earlier one. -/
structure Snapshot.Follows (later earlier : Snapshot) : Prop where
  differs : (earlier.state == later.state) = false
  message : ∃ description names, Changeset.between earlier.state later.state = .vars names ∧
    later.message = description ++ " (changed " ++ ", ".intercalate names.names ++ ")"

namespace History

structure IsWellFormed (history : History) : Prop where
  begins : ∃ first, history.entries[0]? = some first ∧
    (first.message = "Initial state" ∨ first.message = "Reset")
  indexed {position : Nat} {snapshot : Snapshot}
    (hentry : history.entries[position]? = some snapshot) : snapshot.index = position
  follows {position : Nat} {earlier later : Snapshot}
    (hearlier : history.entries[position]? = some earlier)
    (hlater : history.entries[position + 1]? = some later) : later.Follows earlier

/-- What an operation makes of the history. -/
inductive Amended (operation : Operation Outside) (history : History) : History → Prop
  | kept : Amended operation history history
  | appended {description : String} {state : SavedState} (hcommits : operation.commits = true)
      (hchanged : (Changeset.between history.current.state state).isEmpty = false) :
      Amended operation history
        (history.push (description ++ " (changed " ++
          (Changeset.between history.current.state state).display ++ ")") state)
  | cut {index : Nat} (hrestore : operation = .call (.restore index)) :
      Amended operation history (history.truncate index)
  | restarted {state : SavedState} (hreset : operation = .call .resetToStartingState) :
      Amended operation history (.start "Reset" state)

theorem Amended.of_eq {operation : Operation Outside} {history after : History}
    (hkept : after = history) : history.Amended operation after :=
  hkept ▸ .kept

section IsWellFormed

variable {history : History}

theorem isWellFormed_start {message : String}
    (hmessage : message = "Initial state" ∨ message = "Reset") (state : SavedState) :
    (start message state).IsWellFormed where
  begins := ⟨_, rfl, hmessage⟩
  indexed {position snapshot} hentry := by
    obtain ⟨hbound, rfl⟩ := List.getElem?_eq_some_iff.1 hentry
    obtain rfl := Nat.lt_one_iff.1 hbound
    rfl
  follows {position earlier later} _ hlater := by
    have hbound : position + 1 < 1 := (List.getElem?_eq_some_iff.1 hlater).1
    omega

theorem IsWellFormed.push (hformed : history.IsWellFormed) {state : SavedState}
    (hchanged : (Changeset.between history.current.state state).isEmpty = false)
    (description : String) :
    (history.push (description ++ " (changed " ++
      (Changeset.between history.current.state state).display ++ ")") state).IsWellFormed where
  begins := by
    obtain ⟨first, hfirst, hmessage⟩ := hformed.begins
    exact ⟨first, getElem?_entries_push hfirst _ _, hmessage⟩
  indexed {position snapshot} hentry := by
    rcases entry_push hentry with hentry | ⟨rfl, rfl⟩
    · exact hformed.indexed hentry
    · rfl
  follows {position earlier later} hearlier hlater := by
    rcases neighbours_push hearlier hlater with ⟨hearlier, hlater⟩ | ⟨-, rfl, rfl⟩
    · exact hformed.follows hearlier hlater
    · refine ⟨Bool.eq_false_iff.2 fun hsame => ?_, description, _, rfl, rfl⟩
      rw [Changeset.isEmpty_between_of_beq hsame] at hchanged
      cases hchanged

theorem IsWellFormed.truncate (hformed : history.IsWellFormed) (index : Nat) :
    (history.truncate index).IsWellFormed where
  begins := by
    obtain ⟨first, hfirst, hmessage⟩ := hformed.begins
    refine ⟨first, ?_, hmessage⟩
    rwa [entries_truncate, List.getElem?_take, if_pos (Nat.succ_pos index)]
  indexed hentry := hformed.indexed (getElem?_entries_of_truncate hentry)
  follows hearlier hlater :=
    hformed.follows (getElem?_entries_of_truncate hearlier) (getElem?_entries_of_truncate hlater)

theorem IsWellFormed.amended (hformed : history.IsWellFormed) {operation : Operation Outside}
    {after : History} (hamended : history.Amended operation after) : after.IsWellFormed := by
  cases hamended with
  | kept => exact hformed
  | appended _ hchanged => exact hformed.push hchanged _
  | cut _ => exact hformed.truncate _
  | restarted _ => exact isWellFormed_start (.inr rfl) _

end IsWellFormed

end History

namespace Controller

variable {controller : Controller Outside} {outside : Outside} {operation : Operation Outside}

theorem history_andThen {α β : Type} {outcome : Outcome Outside α}
    {next : α → Controller Outside → Outcome Outside β}
    (hnext : ∀ result reached, (next result reached).controller.history = reached.history) :
    (outcome.andThen next).controller.history = outcome.controller.history := by
  unfold Outcome.andThen
  split
  · rfl
  · exact hnext _ _

theorem history_commit (controller : Controller Outside) (outside : Outside)
    (description : String) (changes : Changeset) :
    (controller.commit outside description changes).controller.history =
      controller.history.push (description ++ " (changed " ++ changes.display ++ ")")
        controller.saveState :=
  congrArg Core.history (core_commit controller outside description changes)

theorem amended_settle (hcommits : operation.commits = true) (run : Run (Option String)) :
    controller.history.Amended operation (controller.settle outside run).controller.history := by
  cases houtcome : run.outcome with
  | error error =>
      rw [settle, houtcome]
      dsimp only
      split <;> exact .kept
  | ok description =>
      cases hsame : (Changeset.between controller.current.state run.bank.save).isEmpty with
      | true =>
          rw [settle_of_unchanged houtcome hsame]
          exact .kept
      | false =>
          rw [settle_of_changed houtcome hsame, history_commit]
          exact .appended hcommits hsame

theorem amended_fire (hcommits : operation.commits = true) (id : RuleId) :
    controller.history.Amended operation (controller.fire outside id).controller.history := by
  rw [fire]
  split
  · exact .kept
  · rw [history_andThen]
    · exact amended_settle hcommits _
    · -- What follows may only put the rule to sleep.
      intro changes settled
      split <;> rfl

theorem history_wouldChangeState (controller : Controller Outside) (outside : Outside)
    (mutator : Effect Unit) :
    (controller.wouldChangeState outside mutator).controller.history = controller.history := by
  rw [wouldChangeState]
  dsimp only
  split
  · rfl
  · split <;> exact (restoreState_keeps _ outside _).1

theorem history_wouldFire (controller : Controller Outside) (outside : Outside) (id : RuleId) :
    (controller.wouldFire outside id).controller.history = controller.history := by
  rw [wouldFire]
  split
  · rfl
  · exact history_wouldChangeState ..

theorem amended_resetToStartingState (hreset : operation = .call .resetToStartingState) :
    controller.history.Amended operation
      (controller.resetToStartingState outside).controller.history := by
  rw [resetToStartingState]
  split
  · exact .kept
  · dsimp only
    rw [history_andThen fun _ _ => rfl]
    exact .restarted hreset

theorem amended_restore {index : Nat} (hrestore : operation = .call (.restore index)) :
    controller.history.Amended operation
      (controller.restore outside index).controller.history := by
  by_cases hindex : index < controller.history.length
  · rw [history_restore hindex]
    exact .cut hrestore
  · rw [restore, if_neg hindex]
    exact .kept

/-- Whatever an operation meets, this is what it makes of the history. -/
theorem amended_outcome (operation : Operation Outside) (controller : Controller Outside)
    (outside : Outside) :
    controller.history.Amended operation
      (operation.outcome controller outside).controller.history := by
  cases operation with
  | reportChanges _ | setErrorHook _ | addView _ => exact .kept
  | call call =>
      cases call with
      | fire id => exact amended_fire rfl id
      | fireByName name =>
          rw [Operation.outcome, Call.outcome, fireByName]
          split
          · exact .kept
          · exact amended_fire rfl _
      | tryChangeState mutator => exact amended_settle rfl _
      | wouldChangeState mutator => exact .of_eq (history_wouldChangeState ..)
      | wouldFire id => exact .of_eq (history_wouldFire controller outside id)
      | restore index => exact amended_restore rfl
      | restoreState state => exact .of_eq (restoreState_keeps controller outside state).1
      | resetToStartingState => exact amended_resetToStartingState rfl
      | checkInvariants => exact .of_eq (history_checkInvariants controller outside)

section Growth

variable {setup : ControllerSetup Outside} {model : Model Outside} {start : Outside}
  {built controller : Controller Outside} {notices : List Notice}
  {permitted : Operation Outside → Controller Outside → Outside → Prop}

theorem isWellFormed_of_build (hbuild : (setup.build model start).result = .ok built) :
    built.history.IsWellFormed := by
  obtain ⟨rulesets, -, hcore⟩ := core_of_build hbuild
  have hhistory : built.history = .start "Initial state" model.bank.save :=
    congrArg Core.history hcore
  rw [hhistory]
  exact History.isWellFormed_start (.inl rfl) _

theorem isWellFormed_of_proceeds (hstart : built.history.IsWellFormed)
    (hproceeds : Proceeds permitted built controller notices) :
    controller.history.IsWellFormed := by
  induction hproceeds with
  | start => exact hstart
  | perform _ operation outside _ ih => exact ih.amended (amended_outcome operation _ outside)

/-- The history is well formed after any operations, and whatever is done next leaves its entries as
they are, adds one to them, which only a change does, keeps the first of them, which only going back
does, or puts a single one in their place, which only a reset does. -/
theorem history_is_well_formed (hbuild : (setup.build model start).result = .ok built)
    (hproceeds : Proceeds permitted built controller notices) :
    controller.history.IsWellFormed ∧ ∀ (operation : Operation Outside) (outside : Outside),
      let before := controller.history.entries
      let after := (operation.outcome controller outside).controller.history.entries
      after = before ∨
        (operation.commits = true ∧ ∃ entry, after = before ++ [entry]) ∨
        (∃ index, operation = .call (.restore index) ∧ after = before.take (index + 1)) ∨
        (operation = .call .resetToStartingState ∧ ∃ state, after = [⟨0, "Reset", state⟩]) := by
  refine ⟨isWellFormed_of_proceeds (isWellFormed_of_build hbuild) hproceeds, ?_⟩
  intro operation outside
  have hamended := amended_outcome operation controller outside
  generalize (operation.outcome controller outside).controller.history = after at hamended
  cases hamended with
  | kept => exact .inl rfl
  | appended hcommits _ => exact .inr (.inl ⟨hcommits, _, History.entries_push ..⟩)
  | cut hrestore =>
      exact .inr (.inr (.inl ⟨_, hrestore, History.entries_truncate ..⟩))
  | restarted hreset => exact .inr (.inr (.inr ⟨hreset, _, rfl⟩))

/-- Draining the cistern is refused but stays in the history until the cistern is filled up on top
of the initial state. -/
theorem history_is_well_formed_cistern :
    ∃ built, (ControllerSetup.standard.build cistern ()).result = .ok built ∧
      let drained := (Operation.call (.fire ⟨1, 0⟩)).outcome built ()
      let restored := (Operation.call (.restore 0)).outcome drained.controller ()
      let filled := (Operation.call (.fire ⟨0, 0⟩)).outcome restored.controller ()
      (∃ error, drained.result = .error error) ∧
        drained.controller.history.entries.map Snapshot.message =
          ["Initial state", "drain(0) (changed level)"] ∧
        filled.controller.history.entries.map Snapshot.message =
          ["Initial state", "fill (changed level)"] ∧
        filled.controller.history.IsWellFormed := by
  obtain ⟨built, hbuild⟩ :
      ∃ built, (ControllerSetup.standard.build cistern ()).result = .ok built := ⟨_, rfl⟩
  have hproceeds : Proceeds (fun _ _ _ => True) built _ _ :=
    ((Proceeds.start.perform (.call (.fire ⟨1, 0⟩)) () trivial).perform
      (.call (.restore 0)) () trivial).perform (.call (.fire ⟨0, 0⟩)) () trivial
  obtain ⟨hformed, -⟩ := history_is_well_formed hbuild hproceeds
  refine ⟨built, hbuild, ?_, ?_, ?_, hformed⟩
  · cases hbuild
    exact ⟨_, rfl⟩
  · cases hbuild
    rfl
  · cases hbuild
    rfl

end Growth

end Controller

end TransitionEngine
