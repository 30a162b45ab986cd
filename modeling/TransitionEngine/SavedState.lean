import TransitionEngine.Digest.Blake3
import TransitionEngine.Json.Printer

/-!
# Saved states

A saved state gives the document of every variable that is no constant, in ascending order of the
names. Its fingerprint is the hash of its canonical text.
-/

namespace TransitionEngine

structure SavedState where
  entries : List (String × Json)
  ascending : Fields.Ascending entries

namespace SavedState

/-- Of two entries with one name the later counts. -/
def ofEntries (entries : List (String × Json)) : SavedState :=
  ⟨Fields.ofList entries, Fields.ascending_ofList entries⟩

def get? (state : SavedState) (name : String) : Option Json :=
  Fields.get? state.entries name

def names (state : SavedState) : List String :=
  Fields.names state.entries

def size (state : SavedState) : Nat :=
  state.entries.length

def isEmpty (state : SavedState) : Bool :=
  state.entries.isEmpty

def toJson (state : SavedState) : Json :=
  .obj state.entries

def same (left right : SavedState) : Bool :=
  Json.sameFields left.entries right.entries

instance : BEq SavedState := ⟨same⟩

def fingerprint (state : SavedState) : String :=
  Digest.Blake3.hexOfText state.toJson.compact

def display (state : SavedState) : String :=
  state.toJson.pretty

end SavedState

end TransitionEngine
