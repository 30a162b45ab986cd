import Mathlib.Data.List.Forall2
import TransitionEngine.Fields

/-!
# Fields as maps

Ascending fields are determined by what is found under each name. So a relation between two of them
may be proved name by name, and entries with distinct names keep their content when they are put
into order.
-/

namespace TransitionEngine.Fields

variable {α β : Type}

theorem get?_cons_self (entry : String × α) (rest : Fields α) :
    get? (entry :: rest) entry.1 = some entry.2 :=
  if_pos rfl

theorem get?_cons_of_ne {name : String} {entry : String × α} {rest : Fields α}
    (hne : name ≠ entry.1) : get? (entry :: rest) name = get? rest name :=
  if_neg hne

theorem mem_of_get? {fields : Fields α} {name : String} {value : α}
    (hget : get? fields name = some value) : (name, value) ∈ fields := by
  induction fields with
  | nil => simp at hget
  | cons entry rest ih =>
      rw [get?_cons] at hget
      split at hget
      · rename_i heq
        rw [heq, ← Option.some.inj hget]
        exact List.mem_cons_self ..
      · exact List.mem_cons_of_mem _ (ih hget)

theorem mem_names_iff {fields : Fields α} {name : String} :
    name ∈ names fields ↔ ∃ value, get? fields name = some value := by
  induction fields with
  | nil => simp [names]
  | cons entry rest ih =>
      obtain ⟨other, held⟩ := entry
      rw [names] at ih
      rw [names, List.map_cons, List.mem_cons, ih, get?_cons]
      split
      · rename_i heq
        simp [heq]
      · rename_i hne
        simp [hne]

theorem get?_eq_none_iff {fields : Fields α} {name : String} :
    get? fields name = none ↔ name ∉ names fields := by
  rw [mem_names_iff, Option.eq_none_iff_forall_ne_some, not_exists]

theorem get?_of_mem {fields : Fields α} (hdistinct : (names fields).Nodup)
    {name : String} {value : α} (hmem : (name, value) ∈ fields) :
    get? fields name = some value := by
  induction fields with
  | nil => simp at hmem
  | cons entry rest ih =>
      obtain ⟨hhead, hrest⟩ := List.nodup_cons.1 hdistinct
      rcases List.mem_cons.1 hmem with rfl | hmem
      · simp [get?_cons]
      · have hne : name ≠ entry.1 := by
          rintro rfl
          exact hhead (List.mem_map.2 ⟨_, hmem, rfl⟩)
        rw [get?_cons_of_ne hne, ih hrest hmem]

theorem get?_eq_some_iff {fields : Fields α} (hdistinct : (names fields).Nodup) {name : String}
    {value : α} : get? fields name = some value ↔ (name, value) ∈ fields :=
  ⟨mem_of_get?, get?_of_mem hdistinct⟩

theorem Ascending.nodup_names {fields : Fields α} (hfields : Ascending fields) :
    (names fields).Nodup := by
  refine List.pairwise_map.2 (hfields.imp fun hlt heq => ?_)
  exact String.lt_irrefl _ (heq ▸ hlt)

theorem get?_map (f : α → β) (fields : Fields α) (name : String) :
    get? (fields.map fun entry => (entry.1, f entry.2)) name = (get? fields name).map f := by
  induction fields with
  | nil => rfl
  | cons entry rest ih =>
      obtain ⟨other, held⟩ := entry
      rw [List.map_cons, get?_cons, get?_cons, ih]
      split <;> rfl

private theorem get?_foldl_put {entries : List (String × α)} (hdistinct : (names entries).Nodup)
    (fields : Fields α) (name : String) :
    get? (entries.foldl (fun fields entry => put entry.1 entry.2 fields) fields) name =
      (get? entries name).or (get? fields name) := by
  induction entries generalizing fields with
  | nil => simp
  | cons entry rest ih =>
      obtain ⟨hhead, hrest⟩ := List.nodup_cons.1 hdistinct
      rw [List.foldl_cons, ih hrest, get?_put, get?_cons]
      by_cases heq : name = entry.1
      · have hnone : get? rest name = none := by
          rw [Option.eq_none_iff_forall_ne_some]
          intro value hget
          exact hhead (heq ▸ mem_names_iff.2 ⟨value, hget⟩)
        simp [heq, heq ▸ hnone]
      · simp [heq]

/-- Entries with distinct names are found again when they are put into order. -/
theorem get?_ofList {entries : List (String × α)} (hdistinct : (names entries).Nodup)
    (name : String) : get? (ofList entries) name = get? entries name := by
  rw [ofList, get?_foldl_put hdistinct, get?_nil, Option.or_none]

theorem get?_foldl_put_of_not_mem {entries : Fields α} {name : String} (hname : name ∉ names entries)
    (fields : Fields α) :
    get? (entries.foldl (fun fields entry => put entry.1 entry.2 fields) fields) name =
      get? fields name := by
  induction entries generalizing fields with
  | nil => rfl
  | cons entry rest ih =>
      obtain ⟨hhead, hrest⟩ := not_or.1 (mt List.mem_cons.2 hname)
      rw [List.foldl_cons, ih hrest, get?_put, if_neg hhead]

theorem mem_names_put {name other : String} {value : α} {fields : Fields α} :
    other ∈ names (put name value fields) ↔ other = name ∨ other ∈ names fields := by
  rw [mem_names_iff, mem_names_iff, get?_put]
  by_cases heq : other = name <;> simp [heq]

/-- Putting entries into order loses no name, and brings in no entry. -/
theorem mem_names_ofList (entries : List (String × α)) (name : String) :
    name ∈ names (ofList entries) ↔ name ∈ names entries := by
  suffices hfold : ∀ fields : Fields α,
      name ∈ names (entries.foldl (fun fields entry => put entry.1 entry.2 fields) fields) ↔
        name ∈ names fields ∨ name ∈ names entries from
    (hfold []).trans (or_iff_right List.not_mem_nil)
  induction entries with
  | nil => exact fun _ => (or_iff_left List.not_mem_nil).symm
  | cons entry rest ih =>
      intro fields
      have hnames : name ∈ names (entry :: rest) ↔ name = entry.1 ∨ name ∈ names rest :=
        List.mem_cons
      rw [List.foldl_cons, ih, mem_names_put, hnames, or_assoc, or_left_comm]

theorem mem_of_mem_ofList {entries : List (String × α)} {entry : String × α}
    (hmem : entry ∈ ofList entries) : entry ∈ entries := by
  suffices hfold : ∀ fields : Fields α,
      entry ∈ entries.foldl (fun fields entry => put entry.1 entry.2 fields) fields →
        entry ∈ fields ∨ entry ∈ entries by
    simpa using hfold [] hmem
  clear hmem
  induction entries with
  | nil => exact fun _ h => .inl h
  | cons first rest ih =>
      intro fields hmem
      rcases ih _ hmem with hput | hrest
      · rcases mem_put hput with rfl | hold
        · exact .inr (List.mem_cons_self ..)
        · exact .inl hold
      · exact .inr (List.mem_cons_of_mem _ hrest)

theorem get?_eq_none_of_forall_lt {fields : Fields α} {name : String}
    (hlt : ∀ entry ∈ fields, name < entry.1) : get? fields name = none := by
  rw [Option.eq_none_iff_forall_ne_some]
  intro value hget
  exact String.lt_irrefl name (hlt _ (mem_of_get? hget))

theorem get?_eq_none_of_lt {name : String} {entry : String × α} {rest : Fields α}
    (hlt : name < entry.1) (hrest : ∀ other ∈ rest, entry.1 < other.1) :
    get? (entry :: rest) name = none := by
  refine get?_eq_none_of_forall_lt fun other hother => ?_
  rcases List.mem_cons.1 hother with rfl | hother
  · exact hlt
  · exact String.lt_trans hlt (hrest other hother)

/-- Ascending fields that are related under every name are related entry by entry. -/
theorem forall₂_of_get? {R : α → β → Prop} {left : Fields α} {right : Fields β}
    (hleft : Ascending left) (hright : Ascending right)
    (hrel : ∀ name, Option.Rel R (get? left name) (get? right name)) :
    List.Forall₂ (fun l r => l.1 = r.1 ∧ R l.2 r.2) left right := by
  induction left generalizing right with
  | nil =>
      cases right with
      | nil => exact .nil
      | cons entry rest =>
          have hhead := hrel entry.1
          rw [get?_cons_self] at hhead
          cases hhead
  | cons entry rest ih =>
      cases right with
      | nil =>
          have hhead := hrel entry.1
          rw [get?_cons_self] at hhead
          cases hhead
      | cons other others =>
          obtain ⟨hentry, hrest⟩ := List.pairwise_cons.1 hleft
          obtain ⟨hother, hothers⟩ := List.pairwise_cons.1 hright
          -- The lesser of the two heads would be missing on the other side.
          have hname : entry.1 = other.1 := by
            refine String.le_antisymm (fun hlt => ?_) (fun hlt => ?_)
            · have hmissing := hrel other.1
              rw [get?_cons_self, get?_eq_none_of_lt hlt hentry] at hmissing
              cases hmissing
            · have hmissing := hrel entry.1
              rw [get?_cons_self, get?_eq_none_of_lt hlt hother] at hmissing
              cases hmissing
          have hhead : R entry.2 other.2 := by
            have hboth := hrel entry.1
            rw [get?_cons_self, hname, get?_cons_self] at hboth
            cases hboth with
            | some hvalue => exact hvalue
          refine .cons ⟨hname, hhead⟩ (ih hrest hothers fun name => ?_)
          by_cases heq : name = entry.1
          · rw [heq, get?_eq_none_of_forall_lt hentry,
              get?_eq_none_of_forall_lt (hname ▸ hother)]
            exact .none
          · have htail := hrel name
            rwa [get?_cons_of_ne heq, get?_cons_of_ne (hname ▸ heq)] at htail

theorem ext_get? {left right : Fields α} (hleft : Ascending left) (hright : Ascending right)
    (hget : ∀ name, get? left name = get? right name) : left = right := by
  have hrel : ∀ name, Option.Rel (· = ·) (get? left name) (get? right name) := by
    intro name
    rw [hget name]
    cases get? right name with
    | none => exact .none
    | some value => exact .some rfl
  refine List.forall₂_eq_eq_eq ▸ (forall₂_of_get? hleft hright hrel).imp ?_
  rintro ⟨name, value⟩ ⟨other, held⟩ ⟨hname, hvalue⟩
  exact Prod.ext hname hvalue

/-- Ascending fields stay as they are when they are put into order. -/
theorem ofList_eq_self {fields : Fields α} (hascending : Ascending fields) : ofList fields = fields :=
  ext_get? (ascending_ofList fields) hascending (get?_ofList hascending.nodup_names)

end TransitionEngine.Fields
