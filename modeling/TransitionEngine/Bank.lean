import TransitionEngine.SavedState
import TransitionEngine.Typing.Decode

/-!
# The bank of variables

A bank holds the variables of a model in the order of their declaration, under pairwise different
names. Constants keep the value of their declaration: they are neither written nor saved.
-/

namespace TransitionEngine

structure Variable where
  name : String
  type : ModelType
  isConstant : Bool
  value : Value

namespace Variable

def ofType (name : String) (type : ModelType) : Variable :=
  ⟨name, type, false, type.defaultValue⟩

def toJson (entry : Variable) : Json :=
  entry.value.toJson

def assign (entry : Variable) (value : Value) : Except ValueError Variable := do
  entry.type.admits value
  return { entry with value }

def assignJson (entry : Variable) (document : Json) : Except ValueError Variable := do
  let value ← entry.type.decode document
  return { entry with value }

/-- A variable with its entry of a saved state; a constant needs none. -/
def restore (state : SavedState) (entry : Variable) : Except ValueError Variable :=
  if entry.isConstant then .ok entry
  else
    match state.get? entry.name with
    | some document => entry.assignJson document
    | none => .error (.internal (.missingEntry entry.name))

def reset (entry : Variable) : Variable :=
  if entry.isConstant then entry
  else { entry with value := entry.type.defaultValue }

def setIf (name : String) (value : Value) (entry : Variable) : Variable :=
  if entry.name = name then { entry with value } else entry

theorem name_restore {state : SavedState} {entry restored : Variable}
    (hrestore : entry.restore state = .ok restored) : restored.name = entry.name := by
  unfold restore at hrestore
  split at hrestore
  · cases hrestore
    rfl
  · split at hrestore
    · rename_i document _
      cases hdecode : entry.type.decode document with
      | error error => simp [assignJson, hdecode, bind, Except.bind] at hrestore
      | ok value =>
          simp only [assignJson, hdecode, bind, Except.bind, pure, Except.pure] at hrestore
          cases hrestore
          rfl
    · simp at hrestore

@[simp]
theorem name_reset (entry : Variable) : entry.reset.name = entry.name := by
  unfold reset
  split <;> rfl

@[simp]
theorem name_setIf (name : String) (value : Value) (entry : Variable) :
    (entry.setIf name value).name = entry.name := by
  unfold setIf
  split <;> rfl

end Variable

structure Bank where
  entries : List Variable
  distinct : (entries.map (·.name)).Nodup

namespace Bank

def empty : Bank :=
  ⟨[], .nil⟩

instance : Inhabited Bank := ⟨empty⟩

def get? (bank : Bank) (name : String) : Option Variable :=
  bank.entries.find? (·.name = name)

def declare (bank : Bank) (entry : Variable) : Except EngineError Bank :=
  if hmem : entry.name ∈ bank.entries.map (·.name) then
    .error (.config (.variableDeclaredTwice entry.name))
  else
    .ok ⟨bank.entries ++ [entry], by
      rw [List.map_append, List.nodup_append]
      refine ⟨bank.distinct, by simp, fun name hname other hother => ?_⟩
      rintro rfl
      rw [List.map_cons, List.map_nil, List.mem_singleton] at hother
      exact hmem (hother ▸ hname)⟩

def lookup (bank : Bank) (name : String) : Except EngineError Variable :=
  match bank.get? name with
  | some entry => .ok entry
  | none => .error (.unknownVariable name)

def lookupWritable (bank : Bank) (name : String) : Except EngineError Variable := do
  let entry ← bank.lookup name
  if entry.isConstant then .error (.value (.internal (.constantWritten name)))
  else .ok entry

def peek (bank : Bank) (name : String) : Except EngineError Value := do
  return (← bank.lookup name).value

def setValue (bank : Bank) (name : String) (value : Value) : Bank :=
  ⟨bank.entries.map (Variable.setIf name value), by
    simpa [List.map_map, Function.comp_def] using bank.distinct⟩

def assign (bank : Bank) (name : String) (value : Value) : Except EngineError Bank := do
  let entry ← bank.lookupWritable name
  let assigned ← (entry.assign value).mapError EngineError.value
  return bank.setValue name assigned.value

/-- The documents of every variable that is no constant. -/
def save (bank : Bank) : SavedState :=
  .ofEntries ((bank.entries.filter (!·.isConstant)).map fun entry =>
    (entry.name, entry.toJson))

private theorem names_mapM_restore {state : SavedState} {entries restored : List Variable}
    (hrestore : entries.mapM (Variable.restore state) = .ok restored) :
    restored.map (·.name) = entries.map (·.name) := by
  induction entries generalizing restored with
  | nil =>
      simp only [List.mapM_nil, pure, Except.pure] at hrestore
      cases hrestore
      rfl
  | cons entry rest ih =>
      rw [List.mapM_cons] at hrestore
      cases hfirst : entry.restore state with
      | error error => simp [hfirst, bind, Except.bind] at hrestore
      | ok first =>
          cases hothers : rest.mapM (Variable.restore state) with
          | error error => simp [hfirst, hothers, bind, Except.bind] at hrestore
          | ok others =>
              simp only [hfirst, hothers, bind, Except.bind, pure, Except.pure] at hrestore
              cases hrestore
              simp [Variable.name_restore hfirst, ih hothers]

/-- Sets every variable that is no constant to its entry of the state. Every entry is decoded first,
so a missing or malformed one changes nothing. -/
def restore (bank : Bank) (state : SavedState) : Except ValueError Bank :=
  match hrestored : bank.entries.mapM (Variable.restore state) with
  | .error error => .error error
  | .ok entries => .ok ⟨entries, names_mapM_restore hrestored ▸ bank.distinct⟩

def reset (bank : Bank) : Bank :=
  ⟨bank.entries.map Variable.reset, by
    simpa [List.map_map, Function.comp_def] using bank.distinct⟩

end Bank

end TransitionEngine
