import TransitionEngine.Proofs.Program.Tracking

/-!
# Queries and effects that are deterministic

Banks that agree on every variable hold the same values. What is deterministic cannot tell them
apart, however it looks at them, and does not depend on the outside. A repeatable query moreover
depends on the variables that it reads, and on nothing else.
-/

namespace TransitionEngine

variable {Outside α : Type}

namespace Bank

/-- The banks have the same declarations and equal values. -/
abbrev Agree (left right : Bank) : Prop :=
  left.AgreeOn (fun _ => True) right

namespace Agree

variable {left right : Bank}

theorem on (hagree : left.Agree right) (names : String → Prop) : left.AgreeOn names right :=
  ⟨hagree.declared, fun _ => hagree.equal trivial⟩

theorem symm (hagree : left.Agree right) : right.Agree left where
  declared := hagree.declared.symm
  equal _ _ _ hright hleft := BEq.symm (hagree.equal trivial hleft hright)

theorem trans {other : Bank} (hleft : left.Agree right) (hright : right.Agree other) :
    left.Agree other where
  declared := hleft.declared.trans hright.declared
  equal {name} _ {entry final} hentry hfinal := by
    have hrel := rel_get? hleft.declared name
    cases hget : right.get? name with
    | none =>
        rw [hentry, hget] at hrel
        cases hrel
    | some middle =>
        exact BEq.trans (hleft.equal trivial hentry hget) (hright.equal trivial hget hfinal)

theorem save_eq (hagree : left.Agree right) : left.save = right.save :=
  (save_eq_iff hagree.declared).2 fun _ => hagree.document?_eq trivial

end Agree

/-- Conforming banks that are saved alike hold the same values. -/
theorem agree_of_save_eq {left right : Bank} (hdeclared : left.declarations = right.declarations)
    (hleft : left.Conforms) (hright : right.Conforms) (hsave : left.save = right.save) :
    left.Agree right :=
  .of_document?_eq hdeclared hleft hright fun name _ => (save_eq_iff hdeclared).1 hsave name

end Bank

namespace Query

/-- The queries take the same steps for as long as they are handed equal values; of a bank that they
inspect they see the declarations only. -/
inductive Alike : Query α → Query α → Prop
  | done (outcome : Except EngineError α) : Alike (.done outcome) (.done outcome)
  | read (name : String) {next next' : Except EngineError Value → Query α}
      (hnext : ∀ value value', SameValue value value' → Alike (next value) (next' value')) :
      Alike (.read name next) (.read name next')
  | inspect {next next' : Bank → Query α}
      (hnext : ∀ bank bank', bank.declarations = bank'.declarations →
        Alike (next bank) (next' bank')) : Alike (.inspect next) (.inspect next')

/-- What the query finds depends on the values that it reads, and on nothing else. -/
def Repeatable (query : Outside → Query α) : Prop :=
  ∀ outside outside', (query outside).Alike (query outside')

theorem mem_run_of_mem (query : Query α) {bank : Bank} {name : String} {readset : NameSet}
    (hmem : name ∈ readset) : name ∈ (query.run bank readset).readset := by
  induction query generalizing readset with
  | done outcome => exact hmem
  | read other next ih => exact ih _ (Bank.mem_read_of_mem hmem)
  | inspect next ih => exact ih bank hmem

/-- Banks that agree on what one of two like queries reads give both the same answer. -/
theorem Alike.run {query query' : Query α} (halike : query.Alike query')
    {names : String → Prop} {left right : Bank} (hagree : left.AgreeOn names right)
    (readset : NameSet)
    (hread : ∀ name, name ∈ (query.run left readset).readset → names name) :
    query'.run right readset = query.run left readset := by
  induction halike generalizing readset with
  | done outcome => rfl
  | @read name next next' hnext ih =>
      obtain ⟨hvalue, hreadset⟩ := hagree.read name readset
        fun other hother => hread other <|
          mem_run_of_mem (next (left.read name readset).1) hother
      simp only [Query.run, hreadset]
      exact ih _ _ hvalue _ hread
  | inspect hnext ih => exact ih _ _ hagree.declared readset hread

/-- A query that goes by the number in a variable, if there is one, is repeatable. -/
theorem repeatable_readNumber (name : String) (next : Option Int64 → Except EngineError α) :
    Repeatable fun _ : Outside =>
      .read name fun held => .done (next (held.toOption.bind Value.asNumber?)) := by
  intro outside outside'
  refine .read name fun held held' hheld => ?_
  cases hheld with
  | error error => exact .done _
  | @ok left right hequal =>
      have hnumber : left.asNumber? = right.asNumber? := by
        cases left <;> cases right <;> simp_all [Value.beq_def, Value.same, Value.asNumber?]
      simp only [Except.toOption, Option.bind_some, hnumber]
      exact .done _

/-- The query comes to the same on banks that hold the same values, whatever the outside. -/
def IsDeterministic (query : Outside → Query α) : Prop :=
  ∀ outside outside' left right, left.Agree right →
    ((query outside).run left ∅).outcome = ((query outside').run right ∅).outcome

theorem Repeatable.isDeterministic {query : Outside → Query α} (hrepeat : Repeatable query) :
    IsDeterministic query := by
  intro outside outside' left right hagree
  rw [(hrepeat outside outside').run hagree ∅ fun _ _ => trivial]

end Query

namespace Effect

/-- The effect comes to the same, and leaves the same values behind, on banks that hold the same
values, whatever the outside. -/
def IsDeterministic (effect : Outside → Effect α) : Prop :=
  ∀ outside outside' left right, left.Agree right →
    ((effect outside).run left ∅).outcome = ((effect outside').run right ∅).outcome ∧
      ((effect outside).run left ∅).bank.Agree ((effect outside').run right ∅).bank

theorem Repeatable.isDeterministic {effect : Outside → Effect α} (hrepeat : Repeatable effect) :
    IsDeterministic effect := by
  intro outside outside' left right hagree
  obtain ⟨houtcome, -, hbanks⟩ := (hrepeat outside outside').run hagree ∅ fun _ _ => trivial
  exact ⟨houtcome.symm, hbanks⟩

end Effect

end TransitionEngine
