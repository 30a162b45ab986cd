import TransitionEngine.Proofs.Program.Running

/-!
# The starting state

Every variable is declared with the default of its type, so a reset of the variables that were just
declared changes nothing, and the setting-up code finds the same variables whether it runs for the
first time or again.
-/

namespace TransitionEngine

variable {Outside : Type}

theorem VariableDeclaration.reset_of_toVariable {declaration : VariableDeclaration}
    {entry : Variable} (hentry : declaration.toVariable = .ok entry) : entry.reset = entry := by
  unfold toVariable at hentry
  split at hentry
  · rw [← Except.ok.inj hentry]
    rfl
  · obtain ⟨-, -, hentry⟩ := Success.bind_eq_ok_iff.1 hentry
    rw [← Except.ok.inj hentry]
    rfl

theorem Bank.entries_of_declare {bank next : Bank} {entry : Variable}
    (hdeclare : bank.declare entry = .ok next) : next.entries = bank.entries ++ [entry] := by
  unfold declare at hdeclare
  split at hdeclare
  · cases hdeclare
  · rw [← Except.ok.inj hdeclare]

/-- A bank starts with the defaults of its types. -/
theorem Bank.reset_of_ofDeclarations {declared : List VariableDeclaration} {bank : Bank}
    (hbank : Bank.ofDeclarations declared = .ok bank) : bank.reset = bank := by
  have hentries : ∀ entry ∈ bank.entries, entry.reset = entry := by
    refine Success.foldlM_preserves (P := fun bank => ∀ entry ∈ bank.entries, entry.reset = entry)
      hbank (by simp [empty]) ?_
    intro bank declaration _ next hkept hnext
    obtain ⟨entry, hentry, hdeclare⟩ := Success.bind_eq_ok_iff.1 hnext
    have hstart : entry.reset = entry :=
      VariableDeclaration.reset_of_toVariable (Success.mapError_eq_ok_iff.1 hentry)
    rw [entries_of_declare hdeclare]
    intro other hother
    rcases List.mem_append.1 hother with hother | hother
    · exact hkept other hother
    · rwa [List.mem_singleton.1 hother]
  apply Bank.ext
  exact (List.map_congr_left hentries).trans (List.map_id _)

theorem Model.runInit_eq (model : Model Outside) (outside : Outside) :
    ∃ bank, (model.runInit outside).2 = { model with bank } ∧
      bank.declarations = model.bank.declarations := by
  unfold runInit
  split
  · exact ⟨model.bank, rfl, rfl⟩
  · exact ⟨_, rfl, Effect.declarations_run ..⟩

/-- What is built is the declared model after its setting-up code has run. -/
theorem Declarations.exists_of_build {declarations : Declarations Outside} {start : Outside}
    {model : Model Outside} (hmodel : (declarations.build start).result = .ok model) :
    ∃ bank, Bank.ofDeclarations declarations.entries = .ok bank ∧
      (⟨bank, declarations.rules, declarations.invariants, declarations.init?⟩ :
        Model Outside).runInit start = (.ok (), model) := by
  unfold build at hmodel
  split at hmodel
  · cases hmodel
  rename_i declared hdeclared
  obtain ⟨bank, hbank, hrest⟩ := Success.bind_eq_ok_iff.1 hdeclared
  obtain ⟨-, -, hrest⟩ := Success.bind_eq_ok_iff.1 hrest
  obtain ⟨-, -, hrest⟩ := Success.bind_eq_ok_iff.1 hrest
  obtain rfl := Except.ok.inj hrest
  split at hmodel
  · cases hmodel
  · rename_i started hrun
    obtain rfl := Except.ok.inj hmodel
    exact ⟨bank, hbank, hrun⟩

/-- A model that was just built is in its starting state. -/
theorem Model.reset_of_build {declarations : Declarations Outside} {start : Outside}
    {model : Model Outside} (hmodel : (declarations.build start).result = .ok model) :
    model.reset start = .ok model := by
  obtain ⟨bank, hbank, hrun⟩ := Declarations.exists_of_build hmodel
  generalize hdeclared : (⟨bank, declarations.rules, declarations.invariants, declarations.init?⟩ :
    Model Outside) = declared at hrun
  have hstart : declared.bank.reset = declared.bank := by
    rw [← hdeclared]
    exact Bank.reset_of_ofDeclarations hbank
  obtain ⟨bank, hsame, hkept⟩ := declared.runInit_eq start
  rw [hrun] at hsame
  dsimp only at hsame
  have hreset : ({ model with bank := model.bank.reset } : Model Outside) = declared := by
    rw [hsame, Bank.reset_congr hkept, hstart]
  rw [reset, hreset, hrun]

/-! ### What is declared -/

theorem VariableDeclaration.declaration_of_toVariable {declaration : VariableDeclaration}
    {entry : Variable} (hentry : declaration.toVariable = .ok entry) :
    entry.declaration = declaration := by
  obtain ⟨name, type, constant?⟩ := declaration
  unfold toVariable at hentry
  split at hentry
  · rename_i hconstant
    rw [← Except.ok.inj hentry]
    exact congrArg _ hconstant.symm
  · rename_i value hconstant
    obtain ⟨-, -, hentry⟩ := Success.bind_eq_ok_iff.1 hentry
    rw [← Except.ok.inj hentry]
    exact congrArg _ hconstant.symm

theorem Bank.declarations_of_ofDeclarations {declared : List VariableDeclaration} {bank : Bank}
    (hbank : Bank.ofDeclarations declared = .ok bank) : bank.declarations = declared := by
  suffices hfold : ∀ (declared : List VariableDeclaration) (start : Bank),
      declared.foldlM (fun bank declaration => do
        let entry ← declaration.toVariable.mapError EngineError.value
        bank.declare entry) start = .ok bank →
      bank.declarations = start.declarations ++ declared from
    hfold declared empty hbank
  intro declared
  induction declared with
  | nil =>
      intro start hfold
      rw [← Except.ok.inj hfold, List.append_nil]
  | cons declaration rest ih =>
      intro start hfold
      obtain ⟨next, hnext, hrest⟩ := Success.bind_eq_ok_iff.1 hfold
      obtain ⟨entry, hentry, hdeclare⟩ := Success.bind_eq_ok_iff.1 hnext
      have hdeclaration : entry.declaration = declaration :=
        VariableDeclaration.declaration_of_toVariable (Success.mapError_eq_ok_iff.1 hentry)
      rw [ih next hrest, declarations, entries_of_declare hdeclare, List.map_append, List.map_cons,
        List.map_nil, hdeclaration, List.append_assoc]
      rfl

theorem Model.declarations_of_build {declarations : Declarations Outside} {start : Outside}
    {model : Model Outside} (hmodel : (declarations.build start).result = .ok model) :
    model.bank.declarations = declarations.entries := by
  obtain ⟨bank, hbank, hrun⟩ := Declarations.exists_of_build hmodel
  obtain ⟨started, hsame, hkept⟩ := runInit_eq
    ⟨bank, declarations.rules, declarations.invariants, declarations.init?⟩ start
  rw [hrun] at hsame
  obtain rfl : model = _ := hsame
  exact hkept.trans (Bank.declarations_of_ofDeclarations hbank)

end TransitionEngine
