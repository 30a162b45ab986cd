import TransitionEngine.Proofs.Bank.Agreement

/-!
# Effects that depend on their reads alone

An effect is repeatable when the outside does not matter to it and it tells no two equal values apart.
What such an effect does is settled by the variables that it reads: on two banks that agree there it
takes the same steps. If moreover it changes nothing that it did not read, then an evaluation that
changed nothing will change nothing again, for as long as those variables keep their values.
-/

namespace TransitionEngine

variable {Outside α : Type}

namespace Effect

/-- The effects take the same steps for as long as they are handed equal values; of a bank that they
inspect they see the declarations only. -/
inductive Alike : Effect α → Effect α → Prop
  | done (outcome : Except EngineError α) : Alike (.done outcome) (.done outcome)
  | read (name : String) {next next' : Except EngineError Value → Effect α}
      (hnext : ∀ value value', SameValue value value' → Alike (next value) (next' value')) :
      Alike (.read name next) (.read name next')
  | inspect {next next' : Bank → Effect α}
      (hnext : ∀ bank bank', bank.declarations = bank'.declarations →
        Alike (next bank) (next' bank')) : Alike (.inspect next) (.inspect next')
  | update (name : String) {change change' : Value → Value}
      {next next' : Except EngineError Value → Effect α}
      (hchange : ∀ value value', (value == value') = true →
        (change value == change' value') = true)
      (hnext : ∀ value value', SameValue value value' → Alike (next value) (next' value')) :
      Alike (.update name change next) (.update name change' next')
  | assign (name : String) {value value' : Value} (hvalue : (value == value') = true)
      {next next' : Except EngineError Unit → Effect α}
      (hnext : ∀ outcome, Alike (next outcome) (next' outcome)) :
      Alike (.assign name value next) (.assign name value' next')
  | restore (state : SavedState) {next next' : Except EngineError Unit → Effect α}
      (hnext : ∀ outcome, Alike (next outcome) (next' outcome)) :
      Alike (.restore state next) (.restore state next')
  | reset {next next' : Effect α} (hnext : Alike next next') : Alike (.reset next) (.reset next')

/-- What the effect does depends on the values that it reads, and on nothing else. -/
def Repeatable (effect : Outside → Effect α) : Prop :=
  ∀ outside outside', (effect outside).Alike (effect outside')

/-- On these banks the effect leaves every variable alone that it does not read. -/
def WritesOnlyRead (valid : Bank → Prop) (effect : Outside → Effect α) : Prop :=
  ∀ outside bank, valid bank → ∀ name, name ∉ ((effect outside).run bank ∅).readset →
    ((effect outside).run bank ∅).bank.get? name = bank.get? name

/-- Banks that agree on what one of two like effects reads are treated alike by both. -/
theorem Alike.run {effect effect' : Effect α} (halike : effect.Alike effect')
    {names : String → Prop} {left right : Bank} (hagree : left.AgreeOn names right)
    (readset : NameSet)
    (hread : ∀ name, name ∈ (effect.run left readset).readset → names name) :
    (effect'.run right readset).outcome = (effect.run left readset).outcome ∧
      (effect'.run right readset).readset = (effect.run left readset).readset ∧
      (effect.run left readset).bank.AgreeOn names (effect'.run right readset).bank := by
  induction halike generalizing left right readset with
  | done outcome => exact ⟨rfl, rfl, hagree⟩
  | @read name next next' hnext ih =>
      obtain ⟨hvalue, hreadset⟩ := hagree.read name readset
        fun other hother => hread other <|
          mem_run_of_mem (next (left.read name readset).1) hother
      simp only [Effect.run, hreadset]
      exact ih _ _ hvalue hagree _ hread
  | inspect hnext ih => exact ih _ _ hagree.declared hagree _ hread
  | @update name change change' next next' hchange hnext ih =>
      obtain ⟨hvalue, hbanks, hreadset⟩ := hagree.update name readset hchange
        fun other hother => hread other <|
          mem_run_of_mem (next (left.update name change readset).1) hother
      simp only [Effect.run, hreadset]
      exact ih _ _ hvalue hbanks _ hread
  | assign name hvalue hnext ih =>
      rcases hagree.assign name hvalue with ⟨error, hleft, hright⟩ |
        ⟨assigned, assigned', hleft, hright, hbanks⟩
      · simp only [Effect.run, hleft, hright] at hread ⊢
        exact ih _ hagree _ hread
      · simp only [Effect.run, hleft, hright] at hread ⊢
        exact ih _ hbanks _ hread
  | restore state hnext ih =>
      have hrestore := Bank.restore_congr hagree.declared state
      cases hleft : left.restore state with
      | error error =>
          rw [hleft] at hrestore
          simp only [Effect.run, hleft, ← hrestore] at hread ⊢
          exact ih _ hagree _ hread
      | ok bank =>
          rw [hleft] at hrestore
          simp only [Effect.run, hleft, ← hrestore] at hread ⊢
          exact ih _ (.refl bank) _ hread
  | reset hnext ih => exact ih (.of_eq (Bank.reset_congr hagree.declared)) _ hread

/-- On this bank the effect succeeds, reads these variables, and changes no document. -/
def Quiet (effect : Outside → Effect α) (readset : NameSet) (bank : Bank) : Prop :=
  ∀ outside, (∃ result, ((effect outside).run bank ∅).outcome = .ok result) ∧
    ((effect outside).run bank ∅).readset = readset ∧
    ((effect outside).run bank ∅).bank.save = bank.save

variable {effect : Outside → Effect α}

/-- One evaluation without a change stands for all. -/
theorem Repeatable.quiet_of_run (hrepeat : Repeatable effect) {outside : Outside} {bank : Bank}
    {result : α} (houtcome : ((effect outside).run bank ∅).outcome = .ok result)
    (hsave : ((effect outside).run bank ∅).bank.save = bank.save) :
    Quiet effect ((effect outside).run bank ∅).readset bank := by
  intro outside'
  have hagree : bank.AgreeOn (fun _ => True) bank := .refl bank
  obtain ⟨hsame, hreadset, hbanks⟩ := (hrepeat outside outside').run hagree ∅ fun _ _ => trivial
  refine ⟨⟨result, hsame.trans houtcome⟩, hreadset, ?_⟩
  rw [← hsave]
  exact ((Bank.save_eq_iff hbanks.declared).2 fun name => hbanks.document?_eq trivial).symm

/-- An effect stays quiet while the variables that it read keep their values. -/
theorem Quiet.of_agreeOn {readset : NameSet} {left right : Bank}
    (hquiet : Quiet effect readset left) (hrepeat : Repeatable effect) {valid : Bank → Prop}
    (hwrites : WritesOnlyRead valid effect) (hvalid : valid right)
    (hagree : left.AgreeOn (· ∈ readset) right) : Quiet effect readset right := by
  intro outside
  obtain ⟨⟨result, hresult⟩, hread, hsave⟩ := hquiet outside
  obtain ⟨hsame, hreadset, hbanks⟩ := (hrepeat outside outside).run hagree ∅
    fun name hname => hread ▸ hname
  refine ⟨⟨result, hsame.trans hresult⟩, hreadset.trans hread, ?_⟩
  have hdocuments := (Bank.save_eq_iff (declarations_run ..)).1 hsave
  refine (Bank.save_eq_iff (declarations_run ..)).2 fun name => ?_
  by_cases hname : name ∈ readset
  · rw [← hbanks.document?_eq hname, hdocuments name, hagree.document?_eq hname]
  · rw [Bank.document?, Bank.document?,
      hwrites outside right hvalid name (by rwa [hreadset, hread])]

end Effect

end TransitionEngine
