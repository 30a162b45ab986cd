import TransitionEngine.Proofs.Controller.Determinism

/-!
# Going back is faithful

A controller that went on from an entry of its history and then goes back to it cannot be told from
the controller that had just made the entry. The calls in between leave the history up to the entry
alone, the entry determines the variables, and the variables determine the instances.
-/

namespace TransitionEngine

variable {Outside : Type}

namespace History

theorem ext_entries {left right : History} (hentries : left.entries = right.entries) :
    left = right := by
  obtain ⟨hearlier, hcurrent⟩ := List.append_inj' hentries rfl
  cases left
  cases right
  simp_all

theorem truncate_eq_of_entries {first history : History} {index : Nat}
    (hcurrent : index + 1 = first.length) (hentries : first.entries <+: history.entries) :
    history.truncate index = first := by
  apply ext_entries
  rw [entries_truncate, hcurrent, ← length_entries]
  exact (List.prefix_iff_eq_take.1 hentries).symm

end History

/-- The call leaves conforming values, and goes back to no entry before this one. -/
structure Call.GoesOnFrom (index : Nat) (call : Call Outside) (controller : Controller Outside)
    (outside : Outside) : Prop extends call.KeepsConforming controller outside where
  stays : call ≠ .resetToStartingState
  returns {target : Nat} (hcall : call = .restore target) : index ≤ target

namespace Controller

/-- The same instances of every ruleset, by name. -/
def instanceNames (controller : Controller Outside) : List (List String) :=
  controller.rulesets.map fun ruleset => ruleset.rules.map (·.name)

theorem Alike.instanceNames_eq {setup : ControllerSetup Outside} {model : Model Outside}
    {left right : Controller Outside} (halike : left.Alike setup model right) :
    left.instanceNames = right.instanceNames := by
  have hawake (controller : Controller Outside) : controller.instanceNames =
      (controller.rulesets.map Ruleset.awake).map fun ruleset => ruleset.rules.map (·.name) := by
    simp [instanceNames, Ruleset.awake, Function.comp_def]
  rw [hawake, hawake, halike.rulesets]

section Prefix

variable {first : History} {index : Nat} {call : Call Outside} {outside : Outside}
  {controller : Controller Outside}

/-- A call that goes on from an entry changes nothing of the history up to it. -/
theorem prefix_perform (hcurrent : index + 1 = first.length)
    (hcall : call.GoesOnFrom index controller outside)
    (hentries : first.entries <+: controller.history.entries) :
    first.entries <+: (call.perform controller outside).history.entries := by
  have hstep (before after : Controller Outside) (hstep : Step call outside before after)
      (hkept : first.entries <+: before.history.entries) :
      first.entries <+: after.history.entries := by
    cases hstep with
    | overwritten | slept | reported => exact hkept
    | checked =>
        have hhistory : (before.checkInvariants outside).controller.history = before.history :=
          congrArg Core.history (core_checkInvariants before outside)
        rwa [hhistory]
    | pushed => exact hkept.trans (List.prefix_append ..)
    | @rewound target hrestore =>
        -- Only here does the history get shorter, and the entry is not behind the target.
        rw [History.entries_truncate, List.prefix_take_iff, History.length_entries, ← hcurrent]
        exact ⟨hkept, Nat.succ_le_succ (hcall.returns hrestore)⟩
    | restarted hreset => exact absurd hreset hcall.stays
  exact perform_preserves hentries hstep

theorem prefix_of_reaches {start : Controller Outside}
    (hcurrent : index + 1 = start.history.length)
    (hreached : Reaches (Call.GoesOnFrom index) start controller) :
    start.history.entries <+: controller.history.entries := by
  induction hreached with
  | start => exact List.prefix_refl _
  | call _ call outside hcall ih => exact prefix_perform hcurrent hcall ih

end Prefix

variable {setup : ControllerSetup Outside} {model : Model Outside} {start : Outside}

/-- Of controllers whose rulesets are fresh for the current entry, the history tells all there is to
tell. -/
theorem alike_of_history_eq {left right : Controller Outside}
    (hrepeats : ∀ declared ∈ model.rules, declared.body.DomainRepeats)
    (hleftOf : left.IsOf setup model) (hrightOf : right.IsOf setup model)
    (hleft : left.core.IsCurrent model.bank.declarations model.rules)
    (hright : right.core.IsCurrent model.bank.declarations model.rules)
    (hhistory : left.history = right.history) (outside : Outside) :
    left.Alike setup model right := by
  have hsave : left.bank.save = right.bank.save :=
    calc left.bank.save = left.history.current.state := hleft.consistent.live
      _ = right.history.current.state := by rw [hhistory]
      _ = right.bank.save := hright.consistent.live.symm
  have hagree : left.bank.Agree right.bank :=
    Bank.agree_of_save_eq (hleft.consistent.declared.trans hright.consistent.declared.symm)
      hleft.conforms hright.conforms hsave
  exact ⟨hleftOf, hrightOf, hagree, hhistory,
    hleft.fresh.map_awake_eq hrepeats hright.fresh hagree outside⟩

/-- However a controller goes on from an entry of its history, going back to it makes the controller
that had just made the entry: with the same history, values and instances, and giving the same
results, notices and histories from then on. -/
theorem undo_is_faithful (hdistinct : model.bank.HasDistinctFields)
    (hconforms : model.bank.Conforms) (hdeterministic : model.IsDeterministic)
    (hdomains : ∀ declared ∈ model.rules,
      declared.body.DomainSucceeds (Bank.Fits model.bank.declarations))
    (hstateless : setup.errorHook.IsStateless) {built earlier later : Controller Outside}
    (hbuild : (setup.build model start).result = .ok built)
    (hearlier : Reaches Call.KeepsConforming built earlier) {index : Nat}
    (hcurrent : index + 1 = earlier.history.length)
    (hlater : Reaches (Call.GoesOnFrom index) earlier later) (outside : Outside) :
    let returned := (Call.restore index).perform later outside
    returned.history = earlier.history ∧ returned.bank.Agree earlier.bank ∧
      returned.instanceNames = earlier.instanceNames ∧
      ∀ calls calls', calls.map Prod.fst = calls'.map Prod.fst →
        (∀ call ∈ calls.map Prod.fst, call.IsDeterministic) →
          returned.transcript calls = earlier.transcript calls' := by
  intro returned
  have hrepeats : ∀ declared ∈ model.rules, declared.body.DomainRepeats := fun declared hmem =>
    (hdeterministic.rules hmem).repeats
  have hreproducible : ∀ declared ∈ model.rules,
      declared.body.IsReproducible model.bank.declarations := fun declared hmem =>
    ⟨hrepeats declared hmem, hdomains declared hmem⟩
  -- The entry is still there when the controller goes back to it.
  have hentries := prefix_of_reaches hcurrent hlater
  have hindex : index < later.history.length := by
    have hlength := hentries.length_le
    rw [History.length_entries, History.length_entries] at hlength
    omega
  have hhistory : returned.history = earlier.history :=
    (history_restore hindex).trans (History.truncate_eq_of_entries hcurrent hentries)
  -- Both are current, since going back is a call like any other.
  have hkeeps : (Call.restore index).KeepsConforming later outside :=
    ⟨(by simp), fun hattempt => by cases hattempt⟩
  have hreturned : Reaches Call.KeepsConforming earlier returned :=
    (hlater.mono fun _ _ _ hcall => hcall.toKeepsConforming).call _ outside hkeeps
  have hfirst := isCurrent_of_reaches hdistinct hreproducible
    (isCurrent_of_build hconforms hreproducible hbuild) hearlier
  have hsecond := isCurrent_of_reaches hdistinct hreproducible hfirst hreturned
  have hisOf := isOf_of_reaches (isOf_of_build hbuild) hearlier
  have halike : returned.Alike setup model earlier :=
    alike_of_history_eq hrepeats (isOf_of_reaches hisOf hreturned) hisOf hsecond hfirst hhistory
      start
  have hrules : returned.core.HasRulesOf model.rules :=
    hasRulesOf_of_reaches (hasRulesOf_of_reaches (hasRulesOf_of_build hbuild).1 hearlier) hreturned
  refine ⟨hhistory, halike.agree, halike.instanceNames_eq, fun calls calls' hsame hcalls => ?_⟩
  exact halike.transcript_eq hdeterministic hstateless hrules hsame hcalls

theorem isDeterministic_queue : queue.IsDeterministic where
  rules hmem := by
    have hoverwrite (value : Value) :
        Effect.IsDeterministic fun _ : Unit => Effect.overwrite "waiting" value :=
      (Effect.repeatable_overwrite "waiting" value).isDeterministic
    rcases List.mem_pair.1 hmem with rfl | rfl
    · refine ⟨fun heffect => ?_, trivial⟩
      exact heffect ▸ hoverwrite _
    · refine ⟨fun ⟨position, heffect⟩ => ?_, repeatable_waitingList⟩
      exact heffect ▸ hoverwrite _
  checks hmem := by cases hmem
  init hinit := by cases hinit

/-- Two have arrived. When the second was served and this is undone, he can be served again. -/
theorem undo_is_faithful_queue :
    ∃ built, (ControllerSetup.standard.build queue ()).result = .ok built ∧
      let arrived := (Call.fire ⟨0, 0⟩).perform built ()
      let served := (Call.fire ⟨1, 1⟩).perform arrived ()
      let returned := (Call.restore 1).perform served ()
      served.instanceNames = [["arrive"], ["serve(0)"]] ∧
        returned.instanceNames = [["arrive"], ["serve(0)", "serve(1)"]] ∧
        returned.transcript [(.fireByName "serve(1)", ())] =
          arrived.transcript [(.fireByName "serve(1)", ())] := by
  obtain ⟨built, hbuild⟩ : ∃ built, (ControllerSetup.standard.build queue ()).result = .ok built :=
    ⟨_, rfl⟩
  have harrived := Reaches.start.call _ () (keepsConforming_arrive hbuild)
  have hserve : (Call.fire ⟨1, 1⟩).GoesOnFrom 1 ((Call.fire ⟨0, 0⟩).perform built ()) () :=
    ⟨keepsConforming_serve hbuild, (by simp), (by simp)⟩
  have hcurrent : 1 + 1 = ((Call.fire ⟨0, 0⟩).perform built ()).history.length := by
    cases hbuild
    rfl
  obtain ⟨-, -, hnames, htranscript⟩ := undo_is_faithful (Bank.hasDistinctFields_of_range rfl)
    (Bank.conforms_of_range (by decide) (by decide) rfl) isDeterministic_queue
    (fun _ hmem => (isReproducible_queue hmem).succeeds) (fun _ _ _ _ => rfl) hbuild harrived
    hcurrent (Reaches.start.call _ () hserve) ()
  have harrivedNames : ((Call.fire ⟨0, 0⟩).perform built ()).instanceNames =
      [["arrive"], ["serve(0)", "serve(1)"]] := by
    cases hbuild
    rfl
  refine ⟨built, hbuild, ?_, hnames.trans harrivedNames, ?_⟩
  · cases hbuild
    rfl
  · refine htranscript _ _ rfl fun call hmem => ?_
    rw [List.mem_singleton.1 hmem]
    trivial

end Controller

end TransitionEngine
