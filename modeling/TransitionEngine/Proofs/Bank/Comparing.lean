import TransitionEngine.Proofs.Changeset
import TransitionEngine.Proofs.Program.Querying

/-!
# Comparing banks by what is saved of them

Banks are compared by their documents. Within one type two conforming values have the same document exactly
when they are equal, so a comparison of what was saved names the variables whose values differ, and no others.
-/

namespace TransitionEngine

/-- Of conforming values of one type, documents tell apart those that differ, and only those. -/
theorem Conforms.toJson_eq_iff {type : ModelType} {left right : Value} (hleft : Conforms type left)
    (hright : Conforms type right) : left.toJson = right.toJson ↔ (left == right) = true :=
  ⟨hleft.beq_of_toJson_eq hright, Value.toJson_eq_of_beq⟩

/-- Variables of one declaration are saved differently when they may be written and their values differ. -/
theorem Variable.saved?_ne_iff {entry other : Variable}
    (hdeclared : entry.declaration = other.declaration) (hentry : entry.Conforms)
    (hother : other.Conforms) :
    entry.saved? ≠ other.saved? ↔
      entry.isConstant = false ∧ (entry.value == other.value) = false := by
  rw [Ne, saved?_eq_iff hdeclared]
  obtain ⟨hsame, hconstant⟩ := eq_of_declaration hdeclared
  cases hcase : entry.isConstant with
  | true => simp [hconstant hcase]
  | false =>
      rw [hsame] at hother
      rw [toJson, toJson, (hentry hcase).toJson_eq_iff (hother hcase), Bool.not_eq_true]
      exact (and_iff_right rfl).symm

namespace Bank

section Comparing

variable {left right : Bank} (hdeclared : left.declarations = right.declarations)
  (hleft : left.Conforms) (hright : right.Conforms)

include hdeclared hleft hright

theorem get?_save_ne_iff (name : String) :
    left.save.get? name ≠ right.save.get? name ↔
      ∃ entry other, left.get? name = some entry ∧ right.get? name = some other ∧
        entry.isConstant = false ∧ (entry.value == other.value) = false := by
  have hrel := rel_get? hdeclared name
  rw [get?_save, get?_save]
  cases hentry : left.get? name <;> cases hother : right.get? name <;>
    rw [hentry, hother] at hrel
  · simp
  · cases hrel
  · cases hrel
  · rename_i entry other
    have hconforms := hleft entry (get?_eq_some_iff.1 hentry).1
    have hconforms' := hright other (get?_eq_some_iff.1 hother).1
    cases hrel with
    | some hsame => simpa using Variable.saved?_ne_iff hsame hconforms hconforms'

theorem save_eq_iff_agree : left.save = right.save ↔ left.Agree right :=
  ⟨agree_of_save_eq hdeclared hleft hright, fun hagree => hagree.save_eq⟩

/-- What was saved of two banks is compared exactly: the names that are found are those of the variables that
are no constants and hold different values, and none are found exactly when all values are equal. -/
theorem comparison_is_exact :
    (∃ names, Changeset.between left.save right.save = .vars names ∧
      ∀ name, name ∈ names ↔
        ∃ entry other, left.get? name = some entry ∧ right.get? name = some other ∧
          entry.isConstant = false ∧ (entry.value == other.value) = false) ∧
      ((Changeset.between left.save right.save).isEmpty = true ↔ left.Agree right) := by
  constructor
  · refine ⟨_, rfl, fun name => ?_⟩
    rw [mem_changedNames_save_iff, get?_save_ne_iff hdeclared hleft hright]
  · rw [isEmpty_between_save_iff, save_eq_iff_agree hdeclared hleft hright]

end Comparing

/-- A card is a joker or has a rank. -/
def cardType : ModelType :=
  .either ⟨"Card", ⟨"Joker", []⟩, [⟨"Ranked", [("rank", .range 1 13)]⟩]⟩

def ranked (rank : Int64) : Value :=
  .either "Ranked" [("rank", .number rank)]

/-- A table with a hand that holds one card, beside which another value is left in the spare slot. -/
def table (rank : Int64) (spare : Value) (rounds : Int64) : Bank :=
  ⟨[⟨"trump", cardType, true, .either "Joker" []⟩,
    ⟨"hand", .orderedSet cardType 0 1, false, .orderedSet ⟨cardType, 0, [ranked rank], [spare]⟩⟩,
    ⟨"rounds", .number, false, .number rounds⟩], (by decide : ["trump", "hand", "rounds"].Nodup)⟩

theorem conforms_ranked {rank : Int64} (hlow : 1 ≤ rank) (hhigh : rank ≤ 13) :
    TransitionEngine.Conforms cardType (ranked rank) := by
  apply Conforms.either
  · rfl
  · exact fieldsConform_singleton (.range hlow hhigh)

theorem conforms_table {rank : Int64} (hlow : 1 ≤ rank) (hhigh : rank ≤ 13) (spare : Value)
    (rounds : Int64) : (table rank spare rounds).Conforms := by
  intro entry hmem hwritable
  simp only [table, List.mem_cons, List.not_mem_nil, or_false] at hmem
  rcases hmem with rfl | rfl | rfl
  · cases hwritable
  · exact .orderedSet rfl rfl (List.pairwise_singleton ..)
      (List.forall_mem_singleton.2 (conforms_ranked hlow hhigh))
  · exact .number rounds

/-- Another number of rounds is found and so is a card of another rank, but not another value that was left
in the spare slot: banks that differ in such a value alone hold the same. -/
theorem comparison_is_exact_table :
    (∃ names, Changeset.between (table 13 (.number 0) 1).save (table 13 (.number 5) 2).save =
        .vars names ∧ "rounds" ∈ names ∧ "hand" ∉ names) ∧
      (∃ names, Changeset.between (table 13 (.number 0) 1).save (table 12 (.number 0) 1).save =
        .vars names ∧ "hand" ∈ names ∧ "rounds" ∉ names) ∧
      (table 13 (.number 0) 1).Agree (table 13 (.number 5) 1) := by
  have hking (spare : Value) (rounds : Int64) : (table 13 spare rounds).Conforms :=
    conforms_table (by decide) (by decide) spare rounds
  have hqueen : (table 12 (.number 0) 1).Conforms := conforms_table (by decide) (by decide) _ 1
  have hdeclared (rank : Int64) (spare : Value) (rounds : Int64) :
      (table 13 (.number 0) 1).declarations = (table rank spare rounds).declarations := rfl
  obtain ⟨⟨names, hnames, hmem⟩, -⟩ :=
    comparison_is_exact (hdeclared 13 (.number 5) 2) (hking _ 1) (hking _ 2)
  obtain ⟨⟨others, hothers, hmemOthers⟩, -⟩ :=
    comparison_is_exact (hdeclared 12 (.number 0) 1) (hking _ 1) hqueen
  obtain ⟨-, hagree⟩ := comparison_is_exact (hdeclared 13 (.number 5) 1) (hking _ 1) (hking _ 1)
  refine ⟨⟨names, hnames, ?_, ?_⟩, ⟨others, hothers, ?_, ?_⟩, hagree.1 rfl⟩
  · exact (hmem "rounds").2 ⟨_, _, rfl, rfl, rfl, by decide⟩
  · intro hfound
    obtain ⟨entry, other, hentry, hother, -, hdiffer⟩ := (hmem "hand").1 hfound
    cases hentry
    cases hother
    exact absurd hdiffer (by decide)
  · exact (hmemOthers "hand").2 ⟨_, _, rfl, rfl, rfl, by decide⟩
  · intro hfound
    obtain ⟨entry, other, hentry, hother, -, hdiffer⟩ := (hmemOthers "rounds").1 hfound
    cases hentry
    cases hother
    exact absurd hdiffer (by decide)

end Bank

end TransitionEngine
