import TransitionEngine.Proofs.Controller.Accounts

/-!
# What the views are shown

After an operation that commits, resets or goes back, every view is shown the history once, in the
order in which the views were added, and otherwise no view is shown anything. Only an error between
the change of the history and its showing keeps the views from it: that of the check of a commit, or
of an entry that does not decode.
-/

namespace TransitionEngine

variable {Outside α : Type}

namespace Notice

/-- The view that was shown a history. -/
def update? : Notice → Option (String × History)
  | .viewUpdated view history => some (view, history)
  | _ => none

def updates (notices : List Notice) : List (String × History) :=
  notices.filterMap update?

@[simp]
theorem updates_nil : updates [] = [] := rfl

@[simp]
theorem updates_event (payload : EventPayload) (notices : List Notice) :
    updates (.event payload :: notices) = updates notices := rfl

@[simp]
theorem updates_resetHookCalled (notices : List Notice) :
    updates (.resetHookCalled :: notices) = updates notices := rfl

@[simp]
theorem updates_append (notices others : List Notice) :
    updates (notices ++ others) = updates notices ++ updates others :=
  List.filterMap_append ..

theorem updates_of_asides {notices : List Notice} (hasides : ∀ notice ∈ notices, notice.IsAside) :
    updates notices = [] := by
  refine List.filterMap_eq_nil_iff.2 fun notice hmem => ?_
  have haside := hasides notice hmem
  unfold IsAside at haside
  split at haside <;> first | rfl | exact haside.elim

@[simp]
theorem updates_showing (controller : Controller Outside) (history : History) :
    updates (controller.showing history) = controller.views.map (·, history) := by
  rw [updates, Controller.showing, List.filterMap_map, ← List.filterMap_eq_map]
  rfl

end Notice

namespace Operation

variable (operation : Operation Outside) (controller : Controller Outside) (outside : Outside)

/-- The operation changes the history, starts it anew or goes back to an entry of it; these two may
leave it as it was. -/
def TouchesHistory : Prop :=
  (operation.outcome controller outside).controller.history ≠ controller.history ∨
    (operation = .call .resetToStartingState ∧
      ∃ reply, (operation.outcome controller outside).result = .ok reply) ∨
    ∃ index, operation = .call (.restore index) ∧ index < controller.history.length

/-- The operation fails before it comes to the views: a commit where the check does, and going back
where the entry does not decode. -/
def IsCutShort : Prop :=
  (operation.commits = true ∧
      ∃ error, (operation.outcome controller outside).result = .error error) ∨
    ∃ index, operation = .call (.restore index) ∧
      ¬controller.bank.Decodes (controller.history.truncate index).current.state

end Operation

namespace Controller

variable {controller : Controller Outside} {operation : Operation Outside} {outside : Outside}

/-- Either the history is touched and shown as a whole, or nothing is shown. -/
theorem updates_cases (hdomains : operation.DomainsSucceed controller outside) :
    operation.TouchesHistory controller outside ∧ ¬operation.IsCutShort controller outside ∧
        Notice.updates (operation.outcome controller outside).notices =
          controller.views.map (·, (operation.outcome controller outside).controller.history) ∨
      (¬operation.TouchesHistory controller outside ∨ operation.IsCutShort controller outside) ∧
        Notice.updates (operation.outcome controller outside).notices = [] := by
  have haccounts := accounts_outcome hdomains
  rw [Operation.TouchesHistory, Operation.IsCutShort]
  rw [AccountsFor] at haccounts
  generalize (operation.outcome controller outside).result = result,
    (operation.outcome controller outside).controller.history = history,
    (operation.outcome controller outside).notices = notices at haccounts ⊢
  cases haccounts with
  | silent hnotices hrestore hreset =>
      refine .inr ⟨.inl ?_, Notice.updates_of_asides hnotices⟩
      rintro (hchanged | ⟨hcall, reply, hreply⟩ | ⟨index, hcall, hindex⟩)
      · exact hchanged rfl
      · obtain ⟨error, rfl⟩ := hreset hcall
        cases hreply
      · exact absurd hindex (Nat.not_lt.2 (hrestore index hcall))
  | committed hcommits hasides =>
      refine .inl ⟨.inl fun hsame => ?_, ?_, by simp [Notice.updates_of_asides hasides]⟩
      · have hlength := congrArg (fun history => history.entries.length) hsame
        simp at hlength
      · rintro (⟨-, error, herror⟩ | ⟨index, rfl, -⟩)
        · cases herror
        · cases hcommits
  | interrupted hcommits hasides =>
      exact .inr ⟨.inr (.inl ⟨hcommits, _, rfl⟩), by simp [Notice.updates_of_asides hasides]⟩
  | restarted hreset =>
      refine .inl ⟨.inr (.inl ⟨hreset, _, rfl⟩), ?_, by simp⟩
      subst hreset
      rintro (⟨hcommits, -⟩ | ⟨index, hcall, -⟩)
      · cases hcommits
      · cases hcall
  | rewound hrestore hindex hdecodes hasides =>
      refine .inl ⟨.inr (.inr ⟨_, hrestore, hindex⟩), ?_,
        by simp [Notice.updates_of_asides hasides]⟩
      subst hrestore
      rintro (⟨hcommits, -⟩ | ⟨other, hcall, hstuck⟩)
      · cases hcommits
      · cases hcall
        exact hstuck hdecodes
  | stranded hrestore hindex hstuck =>
      exact .inr ⟨.inr (.inr ⟨_, hrestore, hstuck⟩), rfl⟩

/-- As long as the domains succeed, an operation that touches the history shows every view, once and
in order, the history that it leaves, unless it is cut short; and otherwise it shows nothing. -/
theorem views_follow_history (hdomains : operation.DomainsSucceed controller outside) :
    (operation.TouchesHistory controller outside → ¬operation.IsCutShort controller outside →
      Notice.updates (operation.outcome controller outside).notices =
        controller.views.map (·, (operation.outcome controller outside).controller.history)) ∧
    (¬operation.TouchesHistory controller outside ∨ operation.IsCutShort controller outside →
      Notice.updates (operation.outcome controller outside).notices = []) := by
  rcases updates_cases hdomains with ⟨htouches, hwhole, hshown⟩ | ⟨hmissed, hnone⟩
  · refine ⟨fun _ _ => hshown, fun hmissed => ?_⟩
    rcases hmissed with huntouched | hcut
    · exact absurd htouches huntouched
    · exact absurd hcut hwhole
  · refine ⟨fun htouches hwhole => ?_, fun _ => hnone⟩
    rcases hmissed with huntouched | hcut
    · exact absurd htouches huntouched
    · exact absurd hcut hwhole

/-- The display of a cistern shows that it was filled up. -/
theorem views_follow_history_cistern :
    ∃ built,
      (ControllerSetup.build ⟨.standard, .refuse, ["display"]⟩ cistern ()).result = .ok built ∧
      let filled := (Operation.call (.fire ⟨0, 0⟩)).outcome built ()
      filled.controller.history.length = 2 ∧
        Notice.updates filled.notices = [("display", filled.controller.history)] := by
  refine ⟨_, rfl, rfl, ?_⟩
  refine (views_follow_history ?_).1 (.inl ?_) ?_
  · refine List.forall_mem_cons.2 ⟨trivial, List.forall_mem_singleton.2 ?_⟩
    rintro outside bank rfl
    exact ⟨_, rfl⟩
  · intro hsame
    have hlength := congrArg History.length hsame
    cases hlength
  · rintro (⟨-, error, herror⟩ | ⟨index, hcall, -⟩)
    · cases herror
    · cases hcall

/-- The display misses that the cistern was drained, though every domain succeeds: the check fails
before the views are updated, and the hook that is the default refuses it. -/
theorem views_miss_refused_commit :
    ∃ built,
      (ControllerSetup.build ⟨.standard, .refuse, ["display"]⟩ cistern ()).result = .ok built ∧
      (Operation.call (.fire ⟨1, 0⟩)).DomainsSucceed built () ∧
      let drained := (Operation.call (.fire ⟨1, 0⟩)).outcome built ()
      built.history.length = 1 ∧ drained.controller.history.length = 2 ∧
        Notice.updates drained.notices = [] := by
  refine ⟨_, rfl, ?_, rfl, rfl, rfl⟩
  refine List.forall_mem_cons.2 ⟨trivial, List.forall_mem_singleton.2 ?_⟩
  rintro outside bank rfl
  exact ⟨_, rfl⟩

end Controller

end TransitionEngine
