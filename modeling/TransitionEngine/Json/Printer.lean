import TransitionEngine.Double.Shortest
import TransitionEngine.Json.Basic

/-!
# The text of a document

The compact text has no blanks and lists the fields of an object in their order, which makes it a
canonical form. The pretty text puts every item and field on a line of its own.
-/

namespace TransitionEngine

/-- How the shortest decimal of a double is laid out. -/
structure DoubleLayout where
  /-- The least exponent of the first digit that is written positionally. -/
  positionalFrom : Int
  /-- The first exponent beyond those that are written positionally. -/
  positionalBelow : Int

namespace DoubleLayout

/-- The digits with a point behind the first `whole` of them, filled up with zeros on both sides. -/
def positional (digits : List Char) (whole : Int) : List Char :=
  if whole ≤ 0 then "0.".toList ++ List.replicate (-whole).toNat '0' ++ digits
  else
    let count := whole.toNat
    let integral := digits.take count ++ List.replicate (count - digits.length) '0'
    let rest := digits.drop count
    integral ++ '.' :: (if rest.isEmpty then ['0'] else rest)

def scientific (digits : List Char) (exponent : Int) : List Char :=
  let sign := if exponent < 0 then '-' else '+'
  let mantissa := digits.take 1 ++ (if digits.length ≤ 1 then [] else '.' :: digits.drop 1)
  mantissa ++ 'e' :: sign :: Nat.toDigits 10 exponent.natAbs

def write (layout : DoubleLayout) (double : Double) : List Char :=
  let decimal := double.shortest
  let digits := Nat.toDigits 10 decimal.digits
  let leading := decimal.exponent + digits.length - 1
  let sign := if double.isNegative then ['-'] else []
  if layout.positionalFrom ≤ leading ∧ leading < layout.positionalBelow then
    sign ++ positional digits (leading + 1)
  else sign ++ scientific digits leading

end DoubleLayout

namespace Json

/-- Doubles are positional from `0.00001` up to below `1e+16`. -/
def doubleLayout : DoubleLayout := ⟨-5, 16⟩

def hexDigit (value : Nat) : Char :=
  Nat.digitChar value

/-- Quotes, backslashes and control characters are escaped, all else stands for itself. -/
def escape (char : Char) : List Char :=
  match char with
  | '"' => ['\\', '"']
  | '\\' => ['\\', '\\']
  | '\x08' => ['\\', 'b']
  | '\x0c' => ['\\', 'f']
  | '\n' => ['\\', 'n']
  | '\r' => ['\\', 'r']
  | '\t' => ['\\', 't']
  | other =>
      if other.toNat < 0x20 then
        ['\\', 'u', '0', '0', hexDigit (other.toNat / 16), hexDigit (other.toNat % 16)]
      else [other]

def quoted (text : String) : List Char :=
  '"' :: (text.toList.flatMap escape ++ ['"'])

mutual

def compactChars : Json → List Char
  | .null => "null".toList
  | .bool true => "true".toList
  | .bool false => "false".toList
  | .int value => (toString value).toList
  | .double value => doubleLayout.write value
  | .str text => quoted text
  | .arr items => '[' :: ([','].intercalate (itemTexts items) ++ [']'])
  | .obj fields => '\x7b' :: ([','].intercalate (fieldTexts fields) ++ ['\x7d'])

def itemTexts : List Json → List (List Char)
  | [] => []
  | item :: rest => compactChars item :: itemTexts rest

def fieldTexts : List (String × Json) → List (List Char)
  | [] => []
  | (name, value) :: rest => (quoted name ++ ':' :: compactChars value) :: fieldTexts rest

end

def compact (document : Json) : String :=
  String.ofList (compactChars document)

def newline (depth : Nat) : List Char :=
  '\n' :: List.replicate (2 * depth) ' '

/-- Entries on lines of their own between two brackets, or just the brackets when there are none. -/
def bracketed (opening closing : Char) (depth : Nat) (entries : List (List Char)) : List Char :=
  if entries.isEmpty then [opening, closing]
  else
    let lines := entries.map (newline (depth + 1) ++ ·)
    opening :: ([','].intercalate lines ++ newline depth ++ [closing])

mutual

def prettyChars (depth : Nat) : Json → List Char
  | .arr items => bracketed '[' ']' depth (prettyItems depth items)
  | .obj fields => bracketed '\x7b' '\x7d' depth (prettyFields depth fields)
  | .null => compactChars .null
  | .bool value => compactChars (.bool value)
  | .int value => compactChars (.int value)
  | .double value => compactChars (.double value)
  | .str text => compactChars (.str text)

def prettyItems (depth : Nat) : List Json → List (List Char)
  | [] => []
  | item :: rest => prettyChars (depth + 1) item :: prettyItems depth rest

def prettyFields (depth : Nat) : List (String × Json) → List (List Char)
  | [] => []
  | (name, value) :: rest =>
      (quoted name ++ ':' :: ' ' :: prettyChars (depth + 1) value) :: prettyFields depth rest

end

/-- The text of a document for reading, indented by two blanks a level. -/
def pretty (document : Json) : String :=
  String.ofList (prettyChars 0 document)

end Json

end TransitionEngine
