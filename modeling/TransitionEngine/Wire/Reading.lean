import TransitionEngine.Json.Basic

/-!
# Reading wire forms

A wire form is a document. An object is read by its known fields; others do not matter. A field that
may be missing has a default, but null is not missing. What has fields is read from an object alone:
the format also has it as the list of its fields in order (`[2, 7]` for a rule id), which is not read
here.
-/

namespace TransitionEngine.Wire

def required {α : Type} (read? : Json → Option α) (fields : Fields Json) (name : String) :
    Option α :=
  (Fields.get? fields name).bind read?

/-- A field that has a default when it is not there. -/
def defaulted {α : Type} (read? : Json → Option α) (fallback : α) (fields : Fields Json)
    (name : String) : Option α :=
  match Fields.get? fields name with
  | some document => read? document
  | none => some fallback

def listOf? {α : Type} (read? : Json → Option α) (document : Json) : Option (List α) := do
  (← document.asArray?).mapM read?

/-- A name among alternatives: a bare text, or an object with one field of that name that is null. -/
def alternative? : Json → Option String
  | .str name => some name
  | .obj [(name, .null)] => some name
  | _ => none

def sizeJson (size : Nat) : Json :=
  .int size

def stringsJson (texts : List String) : Json :=
  .arr (texts.map .str)

end TransitionEngine.Wire
