import TransitionEngine.Proofs.Bank.Declarations

/-!
# What every run keeps

Whatever an effect does, it leaves the declarations of its bank alone and forgets none of its reads.
-/

namespace TransitionEngine

namespace Bank

theorem lookup_eq_ok_iff {bank : Bank} {name : String} {entry : Variable} :
    bank.lookup name = .ok entry ↔ bank.get? name = some entry := by
  unfold lookup
  cases bank.get? name <;> simp

theorem lookupWritable_eq_ok_iff {bank : Bank} {name : String} {entry : Variable} :
    bank.lookupWritable name = .ok entry ↔
      bank.get? name = some entry ∧ entry.isConstant = false := by
  rw [lookupWritable, Success.bind_eq_ok_iff]
  constructor
  · rintro ⟨found, hfound, hwritable⟩
    split at hwritable
    · cases hwritable
    · rename_i hconstant
      rw [← Except.ok.inj hwritable]
      exact ⟨lookup_eq_ok_iff.1 hfound, by simpa using hconstant⟩
  · rintro ⟨hget, hwritable⟩
    exact ⟨entry, lookup_eq_ok_iff.2 hget, by simp [hwritable]⟩

theorem declarations_setValue {bank : Bank} {name : String} {entry : Variable}
    (hentry : bank.lookupWritable name = .ok entry) (value : Value) :
    (bank.setValue name value).declarations = bank.declarations := by
  obtain ⟨hget, hwritable⟩ := lookupWritable_eq_ok_iff.1 hentry
  rw [declarations, declarations, setValue, List.map_map]
  refine List.map_congr_left fun other hother => Variable.declaration_setIf fun hname => ?_
  have hsame := get?_eq_some_iff.2 ⟨hother, hname⟩
  rw [hget] at hsame
  rw [← Option.some.inj hsame]
  exact hwritable

theorem assign_eq_ok_iff {bank assigned : Bank} {name : String} {value : Value} :
    bank.assign name value = .ok assigned ↔
      ∃ entry, bank.lookupWritable name = .ok entry ∧ entry.type.admits value = .ok () ∧
        assigned = bank.setValue name value := by
  rw [assign, Success.bind_eq_ok_iff]
  refine exists_congr fun entry => and_congr_right fun _ => ?_
  rw [Variable.assign]
  cases entry.type.admits value <;>
    simp [bind, Except.bind, pure, Except.pure, Except.mapError, eq_comm]

theorem declarations_assign {bank assigned : Bank} {name : String} {value : Value}
    (hassign : bank.assign name value = .ok assigned) :
    assigned.declarations = bank.declarations := by
  obtain ⟨entry, hentry, -, rfl⟩ := assign_eq_ok_iff.1 hassign
  exact declarations_setValue hentry value

@[simp]
theorem declarations_update (bank : Bank) (name : String) (change : Value → Value)
    (readset : NameSet) :
    (bank.update name change readset).2.1.declarations = bank.declarations := by
  unfold update
  split
  · rfl
  · rename_i hentry
    exact declarations_setValue hentry _

theorem mem_read_of_mem {bank : Bank} {name other : String} {readset : NameSet}
    (hmem : other ∈ readset) : other ∈ (bank.read name readset).2 := by
  unfold read
  split
  · exact hmem
  · exact NameSet.mem_insert.2 (.inr hmem)

theorem mem_update_of_mem {bank : Bank} {name other : String} {change : Value → Value}
    {readset : NameSet} (hmem : other ∈ readset) :
    other ∈ (bank.update name change readset).2.2 := by
  unfold update
  split
  · exact hmem
  · exact NameSet.mem_insert.2 (.inr hmem)

end Bank

namespace Effect

variable {α : Type}

@[simp]
theorem declarations_run (effect : Effect α) (bank : Bank) (readset : NameSet) :
    (effect.run bank readset).bank.declarations = bank.declarations := by
  induction effect generalizing bank readset with
  | done outcome => rfl
  | read name next ih => exact ih _ bank _
  | inspect next ih => exact ih bank bank readset
  | update name change next ih => exact (ih _ _ _).trans (Bank.declarations_update ..)
  | assign name value next ih =>
      rw [run]
      split
      · exact ih _ bank readset
      · rename_i hassign
        exact (ih _ _ readset).trans (Bank.declarations_assign hassign)
  | restore state next ih =>
      rw [run]
      split
      · exact ih _ bank readset
      · rename_i hrestore
        exact (ih _ _ readset).trans (Bank.declarations_restore hrestore)
  | reset next ih => exact (ih _ readset).trans bank.declarations_reset

theorem mem_run_of_mem (effect : Effect α) {bank : Bank} {name : String} {readset : NameSet}
    (hmem : name ∈ readset) : name ∈ (effect.run bank readset).readset := by
  induction effect generalizing bank readset with
  | done outcome => exact hmem
  | read other next ih => exact ih _ (Bank.mem_read_of_mem hmem)
  | inspect next ih => exact ih bank hmem
  | update other change next ih => exact ih _ (Bank.mem_update_of_mem hmem)
  | assign other value next ih =>
      rw [run]
      split
      · exact ih _ hmem
      · exact ih _ hmem
  | restore state next ih =>
      rw [run]
      split
      · exact ih _ hmem
      · exact ih _ hmem
  | reset next ih => exact ih hmem

end Effect

end TransitionEngine
