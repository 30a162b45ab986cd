import TransitionEngine.Json.Printer
import TransitionEngine.Typing.Default

/-!
# Decoding and admission

A document is decoded by the type it is for. Decoding looks at the whole document; whether a variable
admits a value is decided by its kind, its bounds and its tag alone.
-/

namespace TransitionEngine.ModelType

def undecodable (document : Json) (shown : String) : ValueError :=
  .internal (.undecodable document.compact shown)

def decodeInteger (document : Json) (shown : String) : Except ValueError Int64 :=
  match document.asInt64? with
  | some integer => .ok integer
  | none => .error (undecodable document shown)

def decodeArray (document : Json) (shown : String) : Except ValueError (List Json) :=
  match document.asArray? with
  | some items => .ok items
  | none => .error (undecodable document shown)

def checkRange (number low high : Int64) : Except ValueError Unit :=
  if number < low ∨ high < number then
    .error (.bounds (.notInRange number.toInt (ModelType.range low high).display))
  else .ok ()

/-- The tag of a union document, with the document of its fields: a bare tag has none. -/
def decodeTag (document : Json) (shown : String) :
    Except ValueError (String × Option Json) :=
  match document with
  | .str tag => .ok (tag, none)
  | .obj fields =>
      match (Fields.get? fields "tag").bind Json.asString? with
      | some tag => .ok (tag, Fields.get? fields "fields")
      | none => .error (undecodable document shown)
  | _ => .error (undecodable document shown)

mutual

def decode : ModelType → Json → Except ValueError Value
  | .number, document => do
      return .number (← decodeInteger document "Number")
  | .range low high, document => do
      let number ← decodeInteger document (ModelType.range low high).display
      checkRange number low high
      return .number number
  | .record name fields, document =>
      match document.asObject? with
      | none => .error (undecodable document name)
      | some object => do
          let decoded ← decodeFields fields (Fields.get? object) name document.compact
          return .record (Fields.ofList decoded)
  | .array element low high, document => do
      let shown := (ModelType.array element low high).display
      let items ← decodeArray document shown
      if items.length = capacity low high then
        let decoded ← items.mapM (decode element)
        return .array ⟨low, decoded⟩
      else .error (.internal (.itemCount shown (capacity low high) items.length))
  | .either union, document => do
      let (tag, fields?) ← decodeTag document union.name
      decodeUnion tag fields? document union
  | .variant parent expected, document => do
      let (tag, fields?) ← decodeTag document expected
      let decoded ← decodeUnion tag fields? document parent
      if tag = expected then return decoded else .error (undecodable document expected)
  | .orderedSet element low high, document => do
      let items ← decodeArray document (ModelType.orderedSet element low high).display
      let set ← items.foldlM (fun set item => do set.push (← decode element item))
        (OrderedSetOf.new element low high)
      return .orderedSet set

/-- The fields of a declaration, each looked up by its name and decoded by its type. -/
def decodeFields : List (String × ModelType) → (String → Option Json) → String → String →
    Except ValueError (List (String × Value))
  | [], _, _, _ => .ok []
  | (name, type) :: rest, lookup, holder, shown =>
      match lookup name with
      | none => .error (.internal (.missingField holder name shown))
      | some document => do
          let value ← decode type document
          let others ← decodeFields rest lookup holder shown
          return (name, value) :: others

/-- A union value, by the first variant that has the tag. -/
def decodeUnion (tag : String) (fields? : Option Json) (document : Json) :
    UnionOf ModelType → Except ValueError Value
  | ⟨name, first, others⟩ =>
      if first.tag = tag then decodeVariant tag fields? document first
      else decodeOthers name tag fields? document others

def decodeOthers (name tag : String) (fields? : Option Json) (document : Json) :
    List (VariantOf ModelType) → Except ValueError Value
  | [] => .error (.internal (.noSuchVariant name tag))
  | branch :: rest =>
      if branch.tag = tag then decodeVariant tag fields? document branch
      else decodeOthers name tag fields? document rest

def decodeVariant (tag : String) (fields? : Option Json) (document : Json) :
    VariantOf ModelType → Except ValueError Value
  | ⟨_, fields⟩ => do
      let decoded ← decodeFields fields (fun name => fields?.bind (·.get? name)) tag
        document.compact
      return .either tag (Fields.ofList decoded)

end

/-- Whether a variable of this type may take the value: by its kind, its bounds and its tag. -/
def admits (type : ModelType) (value : Value) : Except ValueError Unit :=
  match type, value with
  | .number, .number _ => .ok ()
  | .range low high, .number n => checkRange n low high
  | .record _ _, .record _ => .ok ()
  | .array _ _ _, .array _ => .ok ()
  | .orderedSet _ _ _, .orderedSet _ => .ok ()
  | .either union, .either tag _ =>
      if (union.variant? tag).isSome then .ok () else refuse type value
  | .variant _ expected, .either tag _ => if tag = expected then .ok () else refuse type value
  | _, _ => refuse type value
where
  refuse (type : ModelType) (value : Value) : Except ValueError Unit :=
    .error (.internal (.notAdmitted value.kind value.display type.display))

end TransitionEngine.ModelType
