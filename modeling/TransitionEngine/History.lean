import TransitionEngine.SavedState

/-!
# Histories

A history is the list of the states that were committed, oldest first. It always has a last entry,
which is the current one.
-/

namespace TransitionEngine

structure Snapshot where
  index : Nat
  message : String
  state : SavedState

structure History where
  earlier : List Snapshot
  current : Snapshot

namespace History

def entries (history : History) : List Snapshot :=
  history.earlier ++ [history.current]

def length (history : History) : Nat :=
  history.earlier.length + 1

def start (message : String) (state : SavedState) : History :=
  ⟨[], ⟨0, message, state⟩⟩

def push (history : History) (message : String) (state : SavedState) : History :=
  ⟨history.entries, ⟨history.length, message, state⟩⟩

/-- Drops every entry behind the one at this position, if there is one. -/
def truncate (history : History) (position : Nat) : History :=
  match history.earlier[position]? with
  | some snapshot => ⟨history.earlier.take position, snapshot⟩
  | none => history

@[simp]
theorem length_entries (history : History) : history.entries.length = history.length := by
  simp [entries, length]

@[simp]
theorem entries_push (history : History) (message : String) (state : SavedState) :
    (history.push message state).entries =
      history.entries ++ [⟨history.length, message, state⟩] :=
  rfl

theorem entries_truncate (history : History) (position : Nat) :
    (history.truncate position).entries = history.entries.take (position + 1) := by
  unfold truncate
  split
  · rename_i snapshot hget
    obtain ⟨hlt, hget⟩ := List.getElem?_eq_some_iff.1 hget
    simp only [entries]
    rw [List.take_append_of_le_length (by omega), List.take_succ_eq_append_getElem hlt, hget]
  · rename_i hget
    have hle := List.getElem?_eq_none_iff.1 hget
    rw [List.take_of_length_le]
    simp [entries, hle]

end History

end TransitionEngine
