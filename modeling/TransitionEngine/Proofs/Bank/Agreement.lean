import TransitionEngine.Proofs.Bank.Saving
import TransitionEngine.Proofs.Program.Running

/-!
# Banks that agree on some variables

Two banks of the same declarations agree on some names when their values there are equal. Each single
operation on one of these names gives the same on both, and leaves banks that still agree.
-/

namespace TransitionEngine

namespace ModelType

theorem refuse_congr (type : ModelType) {left right : Value} (hequal : left == right) :
    admits.refuse type left = admits.refuse type right := by
  rw [admits.refuse, admits.refuse, Value.kind_eq_of_beq hequal, Value.display_eq_of_beq hequal]

/-- Equal values are admitted alike, or refused with the same words. -/
theorem admits_congr (type : ModelType) {left right : Value} (hequal : left == right) :
    type.admits left = type.admits right := by
  have hrefuse := refuse_congr type hequal
  cases left <;> cases right <;>
    simp only [Value.beq_def, Value.same, Bool.false_eq_true, Bool.and_eq_true, beq_iff_eq]
      at hequal
  case number.number => rw [hequal]
  case either.either tag fields tag' fields' =>
    obtain ⟨rfl, -⟩ := hequal
    cases type <;> first | exact hrefuse | simp only [admits, hrefuse]
  all_goals cases type <;> first | exact hrefuse | rfl

end ModelType

/-- The same error, or equal values. -/
inductive SameValue : Except EngineError Value → Except EngineError Value → Prop
  | error (error : EngineError) : SameValue (.error error) (.error error)
  | ok {left right : Value} (hequal : (left == right) = true) : SameValue (.ok left) (.ok right)

namespace Bank

/-- The banks declare the same, and have equal values under the names. -/
structure AgreeOn (names : String → Prop) (left right : Bank) : Prop where
  declared : left.declarations = right.declarations
  equal {name : String} (hname : names name) {entry other : Variable}
    (hleft : left.get? name = some entry) (hright : right.get? name = some other) :
    (entry.value == other.value) = true

namespace AgreeOn

variable {names : String → Prop} {left right : Bank}

theorem refl (bank : Bank) : AgreeOn names bank bank where
  declared := rfl
  equal _ _ _ hleft hright := by
    rw [hleft] at hright
    rw [Option.some.inj hright]
    exact BEq.rfl

theorem of_eq (hsame : left = right) : AgreeOn names left right :=
  hsame ▸ refl left

theorem document?_eq (hagree : AgreeOn names left right) {name : String} (hname : names name) :
    left.document? name = right.document? name := by
  have hrel := rel_get? hagree.declared name
  rw [document?, document?]
  cases hleft : left.get? name <;> cases hright : right.get? name <;>
    rw [hleft, hright] at hrel
  · cases hrel
  · cases hrel
  · exact congrArg some (Value.toJson_eq_of_beq (hagree.equal hname hleft hright))

/-- Conforming banks with the same documents under the names agree on them. -/
theorem of_document?_eq (hdeclared : left.declarations = right.declarations)
    (hleft : left.Conforms) (hright : right.Conforms)
    (hsame : ∀ name, names name → left.document? name = right.document? name) :
    AgreeOn names left right where
  declared := hdeclared
  equal {name} hname {entry other} hentry hother := by
    have hdocument := hsame name hname
    rw [document?, document?, hentry, hother] at hdocument
    have hrel := rel_get? hdeclared name
    rw [hentry, hother] at hrel
    cases hrel with
    | some hentries =>
        obtain ⟨hupdated, hconstant⟩ := Variable.eq_of_declaration hentries
        have hmem := (get?_eq_some_iff.1 hentry).1
        cases hcase : entry.isConstant with
        | true =>
            rw [hconstant hcase]
            exact BEq.rfl
        | false =>
            have htype : other.type = entry.type := congrArg VariableDeclaration.type hentries.symm
            have hcase' : other.isConstant = false := by
              rw [hupdated]
              exact hcase
            have hconforms := hright other (get?_eq_some_iff.1 hother).1 hcase'
            rw [htype] at hconforms
            exact (hleft entry hmem hcase).beq_of_toJson_eq hconforms (Option.some.inj hdocument)

theorem lookup (hagree : AgreeOn names left right) (name : String) :
    (∃ error, left.lookup name = .error error ∧ right.lookup name = .error error) ∨
      ∃ entry other, left.lookup name = .ok entry ∧ right.lookup name = .ok other ∧
        entry.declaration = other.declaration ∧
          (names name → (entry.value == other.value) = true) := by
  have hrel := rel_get? hagree.declared name
  cases hleft : left.get? name <;> cases hright : right.get? name <;>
    rw [hleft, hright] at hrel
  · exact .inl ⟨.unknownVariable name, by simp [Bank.lookup, hleft], by simp [Bank.lookup, hright]⟩
  · cases hrel
  · cases hrel
  · cases hrel with
    | some hdeclared =>
        exact .inr ⟨_, _, lookup_eq_ok_iff.2 hleft, lookup_eq_ok_iff.2 hright, hdeclared,
          fun hname => hagree.equal hname hleft hright⟩

theorem lookupWritable (hagree : AgreeOn names left right) (name : String) :
    (∃ error, left.lookupWritable name = .error error ∧
        right.lookupWritable name = .error error) ∨
      ∃ entry other, left.lookupWritable name = .ok entry ∧
        right.lookupWritable name = .ok other ∧ entry.type = other.type ∧
          (names name → (entry.value == other.value) = true) := by
  rcases hagree.lookup name with ⟨error, hleft, hright⟩ |
    ⟨entry, other, hleft, hright, hdeclared, hequal⟩
  · refine .inl ⟨error, ?_, ?_⟩ <;> rw [Bank.lookupWritable]
    · rw [hleft]
      rfl
    · rw [hright]
      rfl
  · have hconstant := congrArg (fun declared => declared.constant?.isSome) hdeclared
    simp only [Variable.isSome_constant?_declaration] at hconstant
    have htype : entry.type = other.type := congrArg VariableDeclaration.type hdeclared
    cases hcase : entry.isConstant with
    | true =>
        rw [hcase] at hconstant
        refine .inl ⟨.value (.internal (.constantWritten name)), ?_, ?_⟩
        · simp [Bank.lookupWritable, hleft, hcase, bind, Except.bind]
        · simp [Bank.lookupWritable, hright, ← hconstant, bind, Except.bind]
    | false =>
        rw [hcase] at hconstant
        have hwritable := lookupWritable_eq_ok_iff.2 ⟨lookup_eq_ok_iff.1 hleft, hcase⟩
        have hwritable' := lookupWritable_eq_ok_iff.2 ⟨lookup_eq_ok_iff.1 hright, hconstant.symm⟩
        exact .inr ⟨entry, other, hwritable, hwritable', htype, hequal⟩

/-- Writing equal values keeps the agreement. -/
theorem setValue (hagree : AgreeOn names left right) {name : String} {entry other : Variable}
    (hleft : left.lookupWritable name = .ok entry)
    (hright : right.lookupWritable name = .ok other) {value value' : Value}
    (hequal : (value == value') = true) :
    AgreeOn names (left.setValue name value) (right.setValue name value') where
  declared := by
    rw [declarations_setValue hleft, declarations_setValue hright]
    exact hagree.declared
  equal {target} hname {first second} hfirst hsecond := by
    by_cases heq : target = name
    · rw [heq, get?_setValue_self (lookupWritable_eq_ok_iff.1 hleft).1] at hfirst
      rw [heq, get?_setValue_self (lookupWritable_eq_ok_iff.1 hright).1] at hsecond
      rw [← Option.some.inj hfirst, ← Option.some.inj hsecond]
      exact hequal
    · rw [get?_setValue_of_ne heq] at hfirst hsecond
      exact hagree.equal hname hfirst hsecond

theorem read (hagree : AgreeOn names left right) (name : String) (readset : NameSet)
    (hread : ∀ other, other ∈ (left.read name readset).2 → names other) :
    SameValue (left.read name readset).1 (right.read name readset).1 ∧
      (right.read name readset).2 = (left.read name readset).2 := by
  rcases hagree.lookup name with ⟨error, hleft, hright⟩ |
    ⟨entry, other, hleft, hright, -, hequal⟩
  · simp only [Bank.read, hleft, hright]
    exact ⟨.error error, trivial⟩
  · simp only [Bank.read, hleft, hright] at hread ⊢
    exact ⟨.ok (hequal (hread name (NameSet.mem_insert.2 (.inl rfl)))), trivial⟩

theorem update (hagree : AgreeOn names left right) (name : String) (readset : NameSet)
    {change change' : Value → Value}
    (hchange : ∀ value other, (value == other) = true → (change value == change' other) = true)
    (hread : ∀ other, other ∈ (left.update name change readset).2.2 → names other) :
    SameValue (left.update name change readset).1 (right.update name change' readset).1 ∧
      AgreeOn names (left.update name change readset).2.1
        (right.update name change' readset).2.1 ∧
      (right.update name change' readset).2.2 = (left.update name change readset).2.2 := by
  rcases hagree.lookupWritable name with ⟨error, hleft, hright⟩ |
    ⟨entry, other, hleft, hright, -, hequal⟩
  · simp only [Bank.update, hleft, hright]
    exact ⟨.error error, hagree, trivial⟩
  · simp only [Bank.update, hleft, hright] at hread ⊢
    have hsame := hequal (hread name (NameSet.mem_insert.2 (.inl rfl)))
    exact ⟨.ok hsame, hagree.setValue hleft hright (hchange _ _ hsame), trivial⟩

theorem assign (hagree : AgreeOn names left right) (name : String) {value value' : Value}
    (hequal : (value == value') = true) :
    (∃ error, left.assign name value = .error error ∧
        right.assign name value' = .error error) ∨
      ∃ assigned assigned', left.assign name value = .ok assigned ∧
        right.assign name value' = .ok assigned' ∧ AgreeOn names assigned assigned' := by
  rcases hagree.lookupWritable name with ⟨error, hleft, hright⟩ |
    ⟨entry, other, hleft, hright, htype, -⟩
  · refine .inl ⟨error, ?_, ?_⟩ <;> rw [Bank.assign]
    · rw [hleft]
      rfl
    · rw [hright]
      rfl
  · have hadmits := ModelType.admits_congr entry.type hequal
    cases hcase : entry.type.admits value with
    | error error =>
        rw [hcase, htype] at hadmits
        refine .inl ⟨.value error, ?_, ?_⟩
        · simp [Bank.assign, hleft, Variable.assign, hcase, bind, Except.bind, Except.mapError]
        · simp [Bank.assign, hright, Variable.assign, ← hadmits, bind, Except.bind,
            Except.mapError]
    | ok _ =>
        have hcase' : other.type.admits value' = .ok () := by rw [← htype, ← hadmits, hcase]
        exact .inr ⟨_, _, assign_eq_ok_iff.2 ⟨entry, hleft, hcase, rfl⟩,
          assign_eq_ok_iff.2 ⟨other, hright, hcase', rfl⟩, hagree.setValue hleft hright hequal⟩

end AgreeOn

end Bank

end TransitionEngine
