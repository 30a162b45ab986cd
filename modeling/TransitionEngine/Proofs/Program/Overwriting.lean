import TransitionEngine.Proofs.Program.Tracking

/-!
# Effects that keep to the types

An effect that leaves the values of a bank within their types cannot hide a change: there, different
values have different documents. Overwriting a variable by a value of its type is such an effect, and
it is repeatable and writes only what it reads.
-/

namespace TransitionEngine

variable {Outside α : Type} {declarations : List VariableDeclaration}

namespace Bank.Fits

variable {bank : Bank} {declared : VariableDeclaration}

theorem exists_lookupWritable (hfits : bank.Fits declarations) (hmem : declared ∈ declarations)
    (hvariable : declared.constant? = none) :
    ∃ entry, bank.lookupWritable declared.name = .ok entry ∧ entry.type = declared.type := by
  rw [← hfits.declared] at hmem
  obtain ⟨entry, hentry, rfl⟩ := List.mem_map.1 hmem
  have hwritable := Variable.isSome_constant?_declaration entry
  rw [hvariable] at hwritable
  have hget : bank.get? entry.name = some entry := get?_eq_some_iff.2 ⟨hentry, rfl⟩
  exact ⟨entry, lookupWritable_eq_ok_iff.2 ⟨hget, hwritable.symm⟩, rfl⟩

theorem setValue (hfits : bank.Fits declarations) {name : String} {entry : Variable}
    (hentry : bank.lookupWritable name = .ok entry) {value : Value}
    (hvalue : TransitionEngine.Conforms entry.type value) :
    (bank.setValue name value).Fits declarations := by
  obtain ⟨hget, -⟩ := lookupWritable_eq_ok_iff.1 hentry
  refine ⟨(declarations_setValue hentry value).trans hfits.declared, fun other hother => ?_⟩
  obtain ⟨before, hbefore, rfl⟩ := List.mem_map.1 hother
  unfold Variable.setIf
  split
  · rename_i hname
    have hsame := get?_eq_some_iff.2 ⟨hbefore, hname⟩
    rw [hget] at hsame
    rw [← Option.some.inj hsame]
    exact fun _ => hvalue
  · exact hfits.conforms before hbefore

end Bank.Fits

namespace Effect

variable {effect : Outside → Effect α} {valid : Bank → Prop}

/-- On these banks the effect succeeds, and leaves such a bank. -/
def SucceedsWithin (valid : Bank → Prop) (effect : Outside → Effect α) : Prop :=
  ∀ outside bank, valid bank → (∃ result, ((effect outside).run bank ∅).outcome = .ok result) ∧
    valid ((effect outside).run bank ∅).bank

/-- On these banks the effect never puts another value in place of one with the same document. -/
def ShowsChanges (valid : Bank → Prop) (effect : Outside → Effect α) : Prop :=
  ∀ outside bank, valid bank → ∀ name entry other, bank.get? name = some entry →
    ((effect outside).run bank ∅).bank.get? name = some other →
    entry.toJson = other.toJson → (entry.value == other.value) = true

theorem ShowsChanges.agreeOn (hshows : ShowsChanges valid effect) {outside : Outside}
    {bank : Bank} (hvalid : valid bank) {names : String → Prop}
    (hsame : ∀ name, names name →
      bank.document? name = ((effect outside).run bank ∅).bank.document? name) :
    bank.AgreeOn names ((effect outside).run bank ∅).bank where
  declared := (declarations_run ..).symm
  equal {name} hname {entry other} hentry hother := by
    have hdocument := hsame name hname
    rw [Bank.document?, Bank.document?, hentry, hother] at hdocument
    exact hshows outside bank hvalid name entry other hentry hother (Option.some.inj hdocument)

theorem SucceedsWithin.showsChanges (hsucceeds : SucceedsWithin (Bank.Fits declarations) effect) :
    ShowsChanges (Bank.Fits declarations) effect := by
  intro outside bank hfits name entry other hentry hother hdocument
  obtain ⟨-, hfits'⟩ := hsucceeds outside bank hfits
  have hdeclared := hfits.declared.trans hfits'.declared.symm
  have hagree : bank.AgreeOn (· = name) ((effect outside).run bank ∅).bank := by
    apply Bank.AgreeOn.of_document?_eq hdeclared hfits.conforms hfits'.conforms
    rintro _ rfl
    rw [Bank.document?, Bank.document?, hentry, hother, Option.map_some, Option.map_some, hdocument]
  exact hagree.equal rfl hentry hother

theorem repeatable_overwrite (name : String) (value : Value) :
    Repeatable fun _ : Outside => overwrite name value := by
  intro outside outside'
  refine .update name (fun _ _ _ => BEq.rfl) fun held held' hheld => ?_
  cases hheld <;> exact .done _

theorem get?_run_overwrite {name other : String} {value : Value} {bank : Bank} {readset : NameSet}
    (hother : other ∉ ((overwrite name value).run bank readset).readset) :
    ((overwrite name value).run bank readset).bank.get? other = bank.get? other := by
  simp only [overwrite, Effect.run, Bank.update] at hother ⊢
  cases hentry : bank.lookupWritable name with
  | error error => rfl
  | ok entry =>
      rw [hentry] at hother
      have hne : other ≠ name := fun heq => hother (NameSet.mem_insert.2 (.inl heq))
      exact Bank.get?_setValue_of_ne hne value

theorem writesOnlyRead_overwrite (valid : Bank → Prop) (name : String) (value : Value) :
    WritesOnlyRead valid fun _ : Outside => overwrite name value := by
  intro outside bank _ other hother
  exact get?_run_overwrite hother

theorem succeedsWithin_overwrite {declared : VariableDeclaration} (hmem : declared ∈ declarations)
    (hvariable : declared.constant? = none) {value : Value}
    (hvalue : Conforms declared.type value) :
    SucceedsWithin (Bank.Fits declarations)
      fun _ : Outside => overwrite declared.name value := by
  intro outside bank hfits
  obtain ⟨entry, hentry, htype⟩ := hfits.exists_lookupWritable hmem hvariable
  rw [overwrite, Effect.run, Bank.update, hentry]
  exact ⟨⟨(), rfl⟩, hfits.setValue hentry (htype ▸ hvalue)⟩

end Effect

end TransitionEngine
