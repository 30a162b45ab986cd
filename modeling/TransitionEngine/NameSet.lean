/-!
# Sets of names

A set of names is kept as its strictly ascending list, so that two sets with the same members are
the same set and listing one needs no sorting. Names are ordered by their code points.
-/

namespace TransitionEngine

structure NameSet where
  names : List String
  ascending : names.Pairwise (· < ·)
  deriving DecidableEq

namespace NameSet

def insertSorted (name : String) : List String → List String
  | [] => [name]
  | other :: rest =>
      if name < other then name :: other :: rest
      else if name = other then other :: rest
      else other :: insertSorted name rest

theorem mem_insertSorted {name member : String} {names : List String} :
    member ∈ insertSorted name names ↔ member = name ∨ member ∈ names := by
  induction names with
  | nil => simp [insertSorted]
  | cons other rest ih =>
      simp only [insertSorted]
      split
      · simp
      · split
        · rename_i heq
          subst heq
          simp
        · simp only [List.mem_cons, ih]
          exact or_left_comm

theorem pairwise_insertSorted {name : String} {names : List String}
    (hnames : names.Pairwise (· < ·)) : (insertSorted name names).Pairwise (· < ·) := by
  induction names with
  | nil => simp [insertSorted]
  | cons other rest ih =>
      obtain ⟨hhead, hrest⟩ := List.pairwise_cons.1 hnames
      simp only [insertSorted]
      split
      · rename_i hlt
        refine List.pairwise_cons.2 ⟨fun member hmember => ?_, hnames⟩
        rcases List.mem_cons.1 hmember with rfl | hmember
        · exact hlt
        · exact String.lt_trans hlt (hhead member hmember)
      · split
        · exact hnames
        · rename_i hlt hne
          refine List.pairwise_cons.2 ⟨fun member hmember => ?_, ih hrest⟩
          rcases mem_insertSorted.1 hmember with rfl | hmember
          · have hle : other ≤ member := hlt
            refine Decidable.byContradiction fun hnot => hne ?_
            exact String.le_antisymm hnot hle
          · exact hhead member hmember

def empty : NameSet := ⟨[], .nil⟩

def insert (name : String) (set : NameSet) : NameSet :=
  ⟨insertSorted name set.names, pairwise_insertSorted set.ascending⟩

def ofList (names : List String) : NameSet :=
  names.foldl (fun set name => set.insert name) empty

def union (left right : NameSet) : NameSet :=
  right.names.foldl (fun set name => set.insert name) left

instance : Membership String NameSet := ⟨fun set name => name ∈ set.names⟩

instance (name : String) (set : NameSet) : Decidable (name ∈ set) :=
  inferInstanceAs (Decidable (name ∈ set.names))

instance : EmptyCollection NameSet := ⟨empty⟩

def isEmpty (set : NameSet) : Bool :=
  set.names.isEmpty

def size (set : NameSet) : Nat :=
  set.names.length

def meets (left right : NameSet) : Bool :=
  left.names.any (· ∈ right)

theorem mem_def {name : String} {set : NameSet} : name ∈ set ↔ name ∈ set.names :=
  Iff.rfl

@[simp]
theorem not_mem_empty (name : String) : name ∉ (∅ : NameSet) := by
  change name ∉ ([] : List String)
  simp

@[simp]
theorem mem_insert {name member : String} {set : NameSet} :
    member ∈ set.insert name ↔ member = name ∨ member ∈ set :=
  mem_insertSorted

private theorem mem_foldl_insert {member : String} (names : List String) (set : NameSet) :
    member ∈ names.foldl (fun set name => set.insert name) set ↔
      member ∈ set ∨ member ∈ names := by
  induction names generalizing set with
  | nil => simp
  | cons name rest ih =>
      rw [List.foldl_cons, ih, mem_insert, List.mem_cons]
      grind

@[simp]
theorem mem_ofList {member : String} {names : List String} :
    member ∈ ofList names ↔ member ∈ names := by
  have hempty : member ∉ empty := not_mem_empty member
  simp [ofList, mem_foldl_insert, hempty]

@[simp]
theorem mem_union {member : String} {left right : NameSet} :
    member ∈ left.union right ↔ member ∈ left ∨ member ∈ right :=
  mem_foldl_insert right.names left

theorem meets_iff {left right : NameSet} :
    left.meets right = true ↔ ∃ name, name ∈ left ∧ name ∈ right := by
  simp [meets, mem_def]

theorem isEmpty_iff {set : NameSet} : set.isEmpty = true ↔ ∀ name, name ∉ set := by
  simp [isEmpty, mem_def, List.eq_nil_iff_forall_not_mem]

private theorem names_eq_of_mem_iff {left right : List String}
    (hleft : left.Pairwise (· < ·)) (hright : right.Pairwise (· < ·))
    (hmem : ∀ name, name ∈ left ↔ name ∈ right) : left = right := by
  induction left generalizing right with
  | nil =>
      cases right with
      | nil => rfl
      | cons name rest => simpa using hmem name
  | cons name rest ih =>
      cases right with
      | nil => simpa using hmem name
      | cons other others =>
          obtain ⟨hname, hrest⟩ := List.pairwise_cons.1 hleft
          obtain ⟨hother, hothers⟩ := List.pairwise_cons.1 hright
          have heq : name = other := by
            rcases List.mem_cons.1 ((hmem name).1 (List.mem_cons_self ..)) with h | h
            · exact h
            · rcases List.mem_cons.1 ((hmem other).2 (List.mem_cons_self ..)) with h' | h'
              · exact h'.symm
              · exact absurd (hname other h') (String.lt_asymm (hother name h))
          subst heq
          congr 1
          refine ih hrest hothers fun member => ?_
          have hiff := hmem member
          simp only [List.mem_cons] at hiff
          constructor
          · intro h
            rcases hiff.1 (.inr h) with rfl | h'
            · exact absurd (hname member h) (String.lt_irrefl member)
            · exact h'
          · intro h
            rcases hiff.2 (.inr h) with rfl | h'
            · exact absurd (hother member h) (String.lt_irrefl member)
            · exact h'

@[ext]
theorem ext {left right : NameSet} (hmem : ∀ name, name ∈ left ↔ name ∈ right) :
    left = right := by
  cases left with
  | mk left hleft =>
      cases right with
      | mk right hright =>
          have := names_eq_of_mem_iff hleft hright hmem
          subst this
          rfl

end NameSet

end TransitionEngine
