import TransitionEngine.Proofs.Program.Querying

/-!
# Restoring a bank

A restore can be seen as two passes over the variables that are no constants. The first collects what the
state holds for them and ends at the first for which it holds nothing that decodes; the second hands the
values out in the same order. However constants stand between them, each variable gets its own value.
-/

namespace TransitionEngine

namespace Variable

/-- What a state holds for the variable. -/
def reading (state : SavedState) (entry : Variable) : Except ValueError Value :=
  match state.get? entry.name with
  | some document => entry.type.decode document
  | none => .error (.internal (.missingEntry entry.name))

/-- Hands values out to the variables that are no constants, one after the other. -/
def handOut : List Variable → List Value → List Variable
  | [], _ => []
  | entry :: rest, values =>
      if entry.isConstant then entry :: handOut rest values
      else
        match values with
        | [] => entry :: rest
        | value :: values => { entry with value } :: handOut rest values

/-- The variable holds what the state has for it, unless it is a constant and was kept. -/
def IsRestored (state : SavedState) (entry restored : Variable) : Prop :=
  if entry.isConstant then restored = entry
  else ∃ value, entry.reading state = .ok value ∧ restored = { entry with value }

variable {state : SavedState} {entry : Variable} {rest entries : List Variable}

theorem IsRestored.name_eq {restored : Variable} (hrestored : entry.IsRestored state restored) :
    entry.name = restored.name := by
  unfold IsRestored at hrestored
  split at hrestored
  · rw [hrestored]
  · obtain ⟨value, -, rfl⟩ := hrestored
    rfl

theorem restore_of_isConstant (hconstant : entry.isConstant = true) (state : SavedState) :
    entry.restore state = .ok entry :=
  if_pos hconstant

theorem restore_of_writable (hwritable : entry.isConstant = false) (state : SavedState) :
    entry.restore state = (entry.reading state).map fun value => { entry with value } := by
  rw [restore, if_neg (by simp [hwritable]), reading]
  cases state.get? entry.name with
  | none => rfl
  | some document =>
      dsimp only
      rw [assignJson]
      cases entry.type.decode document <;> rfl

theorem handOut_of_isConstant (hconstant : entry.isConstant = true) (values : List Value) :
    handOut (entry :: rest) values = entry :: handOut rest values := by
  simp [handOut, hconstant]

theorem handOut_of_writable (hwritable : entry.isConstant = false) (value : Value)
    (values : List Value) :
    handOut (entry :: rest) (value :: values) = { entry with value } :: handOut rest values := by
  simp [handOut, hwritable]

/-- One pass over all variables does what the two passes over those that are no constants do. -/
theorem mapM_restore_eq (state : SavedState) (entries : List Variable) :
    entries.mapM (restore state) =
      ((entries.filter (!·.isConstant)).mapM (reading state)).map (handOut entries) := by
  induction entries with
  | nil => rfl
  | cons entry rest ih =>
      rw [List.mapM_cons, ih]
      generalize hread : (rest.filter (!·.isConstant)).mapM (reading state) = read
      cases hcase : entry.isConstant with
      | true =>
          rw [restore_of_isConstant hcase, List.filter_cons_of_neg (by simp [hcase]), hread]
          cases read with
          | error error => rfl
          | ok values => exact congrArg Except.ok (handOut_of_isConstant hcase values).symm
      | false =>
          rw [restore_of_writable hcase, List.filter_cons_of_pos (by simp [hcase]), List.mapM_cons,
            hread]
          cases entry.reading state with
          | error error => rfl
          | ok value =>
              cases read with
              | error error => rfl
              | ok values => exact congrArg Except.ok (handOut_of_writable hcase value values).symm

/-- Values that were collected in order reach the variables that they were read for. -/
theorem isRestored_handOut {values : List Value}
    (hvalues : List.Forall₂ (fun entry value => reading state entry = .ok value)
      (entries.filter (!·.isConstant)) values) :
    List.Forall₂ (IsRestored state) entries (handOut entries values) := by
  induction entries generalizing values with
  | nil => exact .nil
  | cons entry rest ih =>
      cases hcase : entry.isConstant with
      | true =>
          rw [List.filter_cons_of_neg (by simp [hcase])] at hvalues
          rw [handOut_of_isConstant hcase]
          refine .cons ?_ (ih hvalues)
          simp [IsRestored, hcase]
      | false =>
          rw [List.filter_cons_of_pos (by simp [hcase])] at hvalues
          cases hvalues with
          | @cons _ value _ _ hvalue hrest =>
              rw [handOut_of_writable hcase]
              refine .cons ?_ (ih hrest)
              simp [IsRestored, hcase, hvalue]

section Saved

variable {other : Variable} (hsame : other.declaration = entry.declaration)
  (hconforms : Conforms other)

include hsame hconforms

/-- The document of a conforming value reads as an equal one. -/
theorem exists_reading_of_conforms (hwritable : entry.isConstant = false)
    (hstate : state.get? entry.name = some other.toJson) :
    ∃ value, entry.reading state = .ok value ∧ (other.value == value) = true := by
  rw [(eq_of_declaration hsame).1] at hwritable hstate ⊢
  obtain ⟨value, hdecode, hequal⟩ := ModelType.recovers_of_conforms (hconforms hwritable)
  refine ⟨value, ?_, BEq.symm hequal⟩
  rw [reading, hstate]
  exact hdecode

theorem IsRestored.equal {restored : Variable} (hrestored : entry.IsRestored state restored)
    (hstate : entry.isConstant = false → state.get? entry.name = some other.toJson) :
    (other.value == restored.value) = true := by
  unfold IsRestored at hrestored
  split at hrestored
  · rename_i hconstant
    have hentry := (eq_of_declaration hsame.symm).2 hconstant
    rw [hrestored, hentry]
    exact BEq.rfl
  · rename_i hwritable
    rw [Bool.not_eq_true] at hwritable
    obtain ⟨value, hvalue, rfl⟩ := hrestored
    obtain ⟨read, hread, hequal⟩ :=
      exists_reading_of_conforms hsame hconforms hwritable (hstate hwritable)
    rw [hread] at hvalue
    rw [← Except.ok.inj hvalue]
    exact hequal

end Saved

end Variable

namespace Bank

variable {bank : Bank} {state : SavedState}

/-- The variables that are no constants, in the order of their declaration. -/
def writable (bank : Bank) : List Variable :=
  bank.entries.filter (!·.isConstant)

theorem mem_writable_iff {entry : Variable} :
    entry ∈ bank.writable ↔ entry ∈ bank.entries ∧ entry.isConstant = false := by
  simp [writable]

theorem map_entries_restore_eq (bank : Bank) (state : SavedState) :
    (bank.restore state).map entries =
      (bank.writable.mapM (Variable.reading state)).map (Variable.handOut bank.entries) := by
  rw [map_entries_restore, Variable.mapM_restore_eq, writable]

/-- The first variable for which the state holds nothing that decodes gives its error. -/
theorem restore_of_error {earlier later : List Variable} {failing : Variable} {error : ValueError}
    (hsplit : bank.writable = earlier ++ failing :: later)
    (hearlier : ∀ entry ∈ earlier, ∃ value, entry.reading state = .ok value)
    (hfails : failing.reading state = .error error) : bank.restore state = .error error := by
  have hentries := map_entries_restore_eq bank state
  rw [hsplit, Success.mapM_append_of_error hearlier hfails] at hentries
  exact Success.map_eq_error_iff.1 hentries

/-- A state that holds something for every variable that is no constant is restored exactly. -/
theorem exists_isRestored (hreads : ∀ entry ∈ bank.writable, ∃ value, entry.reading state = .ok value) :
    ∃ restored, bank.restore state = .ok restored ∧
      List.Forall₂ (Variable.IsRestored state) bank.entries restored.entries := by
  obtain ⟨values, hvalues⟩ := Success.exists_forall₂ hreads
  have hentries := map_entries_restore_eq bank state
  rw [Success.mapM_eq_ok_iff.2 hvalues] at hentries
  obtain ⟨restored, hrestore, hrestored⟩ := Success.map_eq_ok_iff.1 hentries
  refine ⟨restored, hrestore, ?_⟩
  rw [hrestored]
  exact Variable.isRestored_handOut hvalues

/-- The saved state has the document of the variable under the name of the one that is declared alike. -/
theorem get?_save_of_declaration {saved : Bank} {other entry : Variable} (hmem : other ∈ saved.entries)
    (hsame : other.declaration = entry.declaration) (hwritable : entry.isConstant = false) :
    saved.save.get? entry.name = some other.toJson := by
  rw [(Variable.eq_of_declaration hsame).1] at hwritable ⊢
  exact save_mem_get? hmem hwritable

/-- What was saved from conforming values is restored to equal ones, in any bank of the declarations. -/
theorem exists_agree_of_conforms {saved : Bank} (hdeclared : saved.declarations = bank.declarations)
    (hconforms : saved.Conforms) :
    ∃ restored, bank.restore saved.save = .ok restored ∧ saved.Agree restored := by
  have hreads : ∀ entry ∈ bank.writable, ∃ value, entry.reading saved.save = .ok value := by
    intro entry hmem
    obtain ⟨hmem, hwritable⟩ := mem_writable_iff.1 hmem
    obtain ⟨other, hother, hsame⟩ := Success.exists_of_mem_right (forall₂_entries hdeclared) hmem
    obtain ⟨value, hvalue, -⟩ := Variable.exists_reading_of_conforms hsame (hconforms other hother)
      hwritable (get?_save_of_declaration hother hsame hwritable)
    exact ⟨value, hvalue⟩
  obtain ⟨restored, hrestore, hexact⟩ := exists_isRestored hreads
  refine ⟨restored, hrestore, hdeclared.trans (declarations_restore hrestore).symm, ?_⟩
  intro name _ other held hother hheld
  have hmem := (get?_eq_some_iff.1 hother).1
  have hsame := rel_get? hdeclared name
  have hrestored := rel_get?_of_forall₂ hexact (fun _ _ hentry => hentry.name_eq) name
  rw [hother] at hsame
  rw [hheld] at hrestored
  generalize bank.get? name = entry? at hsame hrestored
  cases hsame with
  | some hsame =>
      cases hrestored with
      | some hrestored =>
          exact hrestored.equal hsame (hconforms other hmem)
            (get?_save_of_declaration hmem hsame)

/-- A restore is all or nothing. The first variable, in the order of the declarations, for which the state
holds nothing that decodes gives its error, and the bank stays as it is; else every variable that is no
constant holds what the state has for it, and nothing else is changed. And what was saved from conforming
values is restored to equal ones. -/
theorem restore_is_exact (bank : Bank) :
    (∀ state earlier failing later error, bank.writable = earlier ++ failing :: later →
        (∀ entry ∈ earlier, ∃ value, entry.reading state = .ok value) →
        failing.reading state = .error error →
        bank.restore state = .error error ∧
          ∀ (α : Type) (next : Except EngineError Unit → Effect α) (readset : NameSet),
            (Effect.restore state next).run bank readset =
              (next (.error (.value error))).run bank readset) ∧
      (∀ state, (∀ entry ∈ bank.writable, ∃ value, entry.reading state = .ok value) →
        ∃ restored, bank.restore state = .ok restored ∧
          List.Forall₂ (Variable.IsRestored state) bank.entries restored.entries ∧
          ∀ (α : Type) (next : Except EngineError Unit → Effect α) (readset : NameSet),
            (Effect.restore state next).run bank readset = (next (.ok ())).run restored readset) ∧
      ∀ saved : Bank, saved.declarations = bank.declarations → saved.Conforms →
        ∃ restored, bank.restore saved.save = .ok restored ∧ saved.Agree restored := by
  refine ⟨?_, ?_, fun saved hdeclared hconforms => exists_agree_of_conforms hdeclared hconforms⟩
  · intro state earlier failing later error hsplit hearlier hfails
    have hrestore := restore_of_error hsplit hearlier hfails
    refine ⟨hrestore, fun α next readset => ?_⟩
    rw [Effect.run, hrestore]
  · intro state hreads
    obtain ⟨restored, hrestore, hexact⟩ := exists_isRestored hreads
    refine ⟨restored, hrestore, hexact, fun α next readset => ?_⟩
    rw [Effect.run, hrestore]

def caskLevel (number : Int64) : Variable :=
  ⟨"level", .range 0 3, false, .number number⟩

def caskFillings (number : Int64) : Variable :=
  ⟨"fillings", .number, false, .number number⟩

/-- A cask, with two constants before and between how full it is and how often it was filled. -/
def cask (full filled : Int64) : Bank :=
  ⟨[⟨"capacity", .number, true, .number 3⟩, caskLevel full, ⟨"wood", .number, true, .number 1⟩,
    caskFillings filled], (by decide : ["capacity", "level", "wood", "fillings"].Nodup)⟩

theorem conforms_cask {full : Int64} (hlow : 0 ≤ full) (hhigh : full ≤ 3) (filled : Int64) :
    (cask full filled).Conforms := by
  intro entry hmem hwritable
  simp only [cask, List.mem_cons, List.not_mem_nil, or_false] at hmem
  rcases hmem with rfl | rfl | rfl | rfl
  · cases hwritable
  · exact .range hlow hhigh
  · cases hwritable
  · exact .number filled

/-- What a cask is restored from: without its fillings, with a level that is too high, with all it needs and
a constant besides, and as another cask was saved. -/
theorem restore_is_exact_cask :
    (Effect.restore (.ofEntries [("level", .ofInt64 2)]) .done).run (cask 1 5) ∅ =
        ⟨.error (.value (.internal (.missingEntry "fillings"))), cask 1 5, ∅⟩ ∧
      (Effect.restore (.ofEntries [("level", .ofInt64 4)]) .done).run (cask 1 5) ∅ =
        ⟨.error (.value (.bounds (.notInRange 4 "0..3"))), cask 1 5, ∅⟩ ∧
      (Effect.restore (.ofEntries [("fillings", .ofInt64 7), ("level", .ofInt64 2),
          ("wood", .ofInt64 9)]) .done).run (cask 1 5) ∅ = ⟨.ok (), cask 2 7, ∅⟩ ∧
      ∃ restored, (cask 1 5).restore (cask 3 0).save = .ok restored ∧ (cask 3 0).Agree restored := by
  obtain ⟨hfails, hsucceeds, hinverse⟩ := restore_is_exact (cask 1 5)
  have hwritable : (cask 1 5).writable = [caskLevel 1, caskFillings 5] := rfl
  obtain ⟨-, hmissing⟩ := hfails (.ofEntries [("level", .ofInt64 2)]) [caskLevel 1] (caskFillings 5) [] _
    hwritable (List.forall_mem_singleton.2 ⟨.number 2, rfl⟩) rfl
  obtain ⟨-, hbounds⟩ := hfails (.ofEntries [("level", .ofInt64 4)]) [] (caskLevel 1) [caskFillings 5]
    (.bounds (.notInRange 4 "0..3")) hwritable (List.forall_mem_nil _) rfl
  obtain ⟨restored, hrestore, -, hrun⟩ := hsucceeds
    (.ofEntries [("fillings", .ofInt64 7), ("level", .ofInt64 2), ("wood", .ofInt64 9)]) (by
      rw [hwritable]
      exact List.forall_mem_cons.2
        ⟨⟨.number 2, rfl⟩, List.forall_mem_singleton.2 ⟨.number 7, rfl⟩⟩)
  obtain rfl : cask 2 7 = restored := Except.ok.inj hrestore
  refine ⟨hmissing Unit .done ∅, hbounds Unit .done ∅, hrun Unit .done ∅, hinverse (cask 3 0) rfl ?_⟩
  exact conforms_cask (by decide) (by decide) 0

end Bank

end TransitionEngine
