/-!
# Named fields

Fields are a list of named entries. Those that hold data keep their names strictly ascending, which
`Fields.put` preserves; a declaration may list names in any order and more than once.
-/

namespace TransitionEngine

abbrev Fields (α : Type) := List (String × α)

namespace Fields

variable {α : Type}

def get? (fields : Fields α) (name : String) : Option α :=
  match fields with
  | [] => none
  | (other, value) :: rest => if name = other then some value else get? rest name

/-- Adds an entry, or replaces the one of this name. -/
def put (name : String) (value : α) : Fields α → Fields α
  | [] => [(name, value)]
  | (other, held) :: rest =>
      if name < other then (name, value) :: (other, held) :: rest
      else if name = other then (name, value) :: rest
      else (other, held) :: put name value rest

def names (fields : Fields α) : List String :=
  fields.map Prod.fst

def Ascending (fields : Fields α) : Prop :=
  fields.Pairwise (fun left right => left.1 < right.1)

/-- Entries in ascending order of names; of two with one name the later counts. -/
def ofList (entries : List (String × α)) : Fields α :=
  entries.foldl (fun fields entry => put entry.1 entry.2 fields) []

@[simp]
theorem get?_nil (name : String) : get? ([] : Fields α) name = none := rfl

theorem get?_cons (name other : String) (value : α) (rest : Fields α) :
    get? ((other, value) :: rest) name = if name = other then some value else get? rest name :=
  rfl

theorem get?_put (name other : String) (value : α) (fields : Fields α) :
    get? (put other value fields) name =
      if name = other then some value else get? fields name := by
  induction fields with
  | nil => rfl
  | cons entry rest ih =>
      obtain ⟨held, content⟩ := entry
      simp only [put]
      split
      · rfl
      · split
        · rename_i heq
          subst heq
          simp only [get?_cons]
          split <;> rfl
        · rename_i hne
          simp only [get?_cons, ih]
          by_cases heq : name = held
          · subst heq
            simp [Ne.symm hne]
          · simp [heq]

theorem mem_put {name : String} {value : α} {entry : String × α} {fields : Fields α}
    (hmem : entry ∈ put name value fields) : entry = (name, value) ∨ entry ∈ fields := by
  induction fields with
  | nil => simpa [put] using hmem
  | cons first rest ih =>
      simp only [put] at hmem
      split at hmem
      · exact List.mem_cons.1 hmem
      · split at hmem
        · rcases List.mem_cons.1 hmem with h | h
          · exact .inl h
          · exact .inr (List.mem_cons_of_mem _ h)
        · rcases List.mem_cons.1 hmem with h | h
          · exact .inr (h ▸ List.mem_cons_self ..)
          · exact (ih h).imp_right (List.mem_cons_of_mem _)

theorem ascending_put (name : String) (value : α) {fields : Fields α}
    (hfields : Ascending fields) : Ascending (put name value fields) := by
  induction fields with
  | nil => simp [put, Ascending]
  | cons entry rest ih =>
      obtain ⟨hhead, hrest⟩ := List.pairwise_cons.1 hfields
      simp only [put]
      split
      · rename_i hlt
        refine List.pairwise_cons.2 ⟨fun other hother => ?_, hfields⟩
        rcases List.mem_cons.1 hother with rfl | hother
        · exact hlt
        · exact String.lt_trans hlt (hhead other hother)
      · split
        · rename_i heq
          exact List.pairwise_cons.2 ⟨fun other hother => heq ▸ hhead other hother, hrest⟩
        · rename_i hlt hne
          refine List.pairwise_cons.2 ⟨fun other hother => ?_, ih hrest⟩
          rcases mem_put hother with rfl | hother
          · have hle : entry.1 ≤ name := hlt
            exact Decidable.byContradiction fun hnot => hne (String.le_antisymm hnot hle)
          · exact hhead other hother

theorem ascending_ofList (entries : List (String × α)) : Ascending (ofList entries) := by
  suffices hfold : ∀ fields : Fields α, Ascending fields →
      Ascending (entries.foldl (fun fields entry => put entry.1 entry.2 fields) fields) from
    hfold [] .nil
  induction entries with
  | nil => exact fun _ h => h
  | cons entry rest ih => exact fun fields h => ih _ (ascending_put entry.1 entry.2 h)

end Fields

end TransitionEngine
