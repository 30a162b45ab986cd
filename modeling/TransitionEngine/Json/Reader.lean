import TransitionEngine.Double.Scaled
import TransitionEngine.Json.Basic

/-!
# Reading a document

Reading takes the standard grammar. A number written with a point or an exponent, an integer beyond
64 bits, and a negative zero are doubles; of two fields with one name the later counts.
-/

namespace TransitionEngine.Json

/-- A reader takes a value off the front of a text and leaves the rest. -/
abbrev Reader (α : Type) := List Char → Option (α × List Char)

namespace Reader

def isBlank (char : Char) : Bool :=
  char = ' ' || char = '\n' || char = '\r' || char = '\t'

def skipBlanks (text : List Char) : List Char :=
  text.dropWhile isBlank

def digits (text : List Char) : List Nat × List Char :=
  ((text.takeWhile Char.isDigit).map fun char => char.toNat - '0'.toNat, text.dropWhile Char.isDigit)

/-- Appends digits to a number up to the first with which it would not fit 64 bits, and counts them. -/
def accumulate (number : Nat) : List Nat → Nat × Nat
  | [] => (number, 0)
  | digit :: rest =>
      if 10 * number + digit < UInt64.size then
        let (number, taken) := accumulate (10 * number + digit) rest
        (number, taken + 1)
      else (number, 0)

def literal (word : String) (document : Json) : Reader Json := fun text =>
  if word.toList.isPrefixOf text then some (document, text.drop word.length) else none

def fractionPart (text : List Char) : Option (List Nat × List Char) :=
  match text with
  | '.' :: rest =>
      let (fraction, rest) := digits rest
      if fraction.isEmpty then none else some (fraction, rest)
  | _ => some ([], text)

def exponentPart (text : List Char) : Option (Option Int × List Char) :=
  let signed (negative : Bool) (text : List Char) : Option (Option Int × List Char) :=
    let (exponent, rest) := digits text
    let value : Nat := exponent.foldl (fun value digit => 10 * value + digit) 0
    if exponent.isEmpty then none else some (some (if negative then -value else value), rest)
  match text with
  | mark :: rest =>
      if mark = 'e' || mark = 'E' then
        match rest with
        | '-' :: rest => signed true rest
        | '+' :: rest => signed false rest
        | rest => signed false rest
      else some (none, text)
  | [] => some (none, text)

/-- The double for a number, given its parts. Digits that do not fit 64 bits are left out. -/
def doubleOf? (negative : Bool) (whole fraction : List Nat) (exponent : Int) : Option Json :=
  let (number, taken) := accumulate 0 whole
  let (number, places) := accumulate number fraction
  let omitted := whole.length - taken
  (Double.ofDecimal? negative number (omitted - places + exponent)).map .double

/-- The document for a number, given its parts. -/
def ofParts? (negative : Bool) (whole fraction : List Nat) (exponent : Option Int) : Option Json :=
  let (number, taken) := accumulate 0 whole
  let value : Int := if negative then -number else number
  if fraction.isEmpty ∧ exponent = none ∧ taken = whole.length ∧ Int64.minValue.toInt ≤ value ∧
      ¬ (negative ∧ number = 0) then
    some (.int value)
  else doubleOf? negative whole fraction (exponent.getD 0)

def number : Reader Json := fun text => do
  let (negative, text) := match text with
    | '-' :: rest => (true, rest)
    | text => (false, text)
  let (whole, rest) := digits text
  if whole.isEmpty ∨ (1 < whole.length ∧ whole.head? = some 0) then none
  else
    let (fraction, rest) ← fractionPart rest
    let (exponent, rest) ← exponentPart rest
    let document ← ofParts? negative whole fraction exponent
    some (document, rest)

def hexValue? (char : Char) : Option Nat :=
  if char.isDigit then some (char.toNat - '0'.toNat)
  else if 'a' ≤ char ∧ char ≤ 'f' then some (char.toNat - 'a'.toNat + 10)
  else if 'A' ≤ char ∧ char ≤ 'F' then some (char.toNat - 'A'.toNat + 10)
  else none

def codeUnit : Reader Nat
  | first :: second :: third :: fourth :: rest => do
      let value := ((← hexValue? first) * 16 + (← hexValue? second)) * 256
        + (← hexValue? third) * 16 + (← hexValue? fourth)
      some (value, rest)
  | _ => none

/-- The character of an escape by code unit; a high surrogate takes its low one with it. -/
def escapedUnit : Reader Char := fun text => do
  let (unit, rest) ← codeUnit text
  if 0xd800 ≤ unit ∧ unit < 0xdc00 then
    match rest with
    | '\\' :: 'u' :: rest =>
        let (low, rest) ← codeUnit rest
        if 0xdc00 ≤ low ∧ low < 0xe000 then
          some (Char.ofNat (0x10000 + (unit - 0xd800) * 0x400 + (low - 0xdc00)), rest)
        else none
    | _ => none
  else if 0xdc00 ≤ unit ∧ unit < 0xe000 then none
  else some (Char.ofNat unit, rest)

def escaped : Reader Char
  | 'b' :: rest => some ('\x08', rest)
  | 'f' :: rest => some ('\x0c', rest)
  | 'n' :: rest => some ('\n', rest)
  | 'r' :: rest => some ('\r', rest)
  | 't' :: rest => some ('\t', rest)
  | 'u' :: rest => escapedUnit rest
  | char :: rest =>
      if char = '"' || char = '\\' || char = '/' then some (char, rest) else none
  | [] => none

/-- The characters up to the closing quote; the fuel is at least the length of the text. -/
def stringBody (fuel : Nat) (text read : List Char) : Option (String × List Char) :=
  match fuel, text with
  | _ + 1, '"' :: rest => some (String.ofList read.reverse, rest)
  | fuel + 1, '\\' :: rest => do
      let (char, rest) ← escaped rest
      stringBody fuel rest (char :: read)
  | fuel + 1, char :: rest =>
      if char.toNat < 0x20 then none else stringBody fuel rest (char :: read)
  | _, _ => none

def string : Reader String
  | '"' :: rest => stringBody (rest.length + 1) rest []
  | _ => none

mutual

/-- A document, with fuel for one unit a nested document, item or field. -/
def document (fuel : Nat) (text : List Char) : Option (Json × List Char) :=
  match fuel with
  | 0 => none
  | fuel + 1 =>
      match skipBlanks text with
      | '[' :: rest =>
          match skipBlanks rest with
          | ']' :: rest => some (.arr [], rest)
          | rest => items fuel rest []
      | '\x7b' :: rest =>
          match skipBlanks rest with
          | '\x7d' :: rest => some (.obj [], rest)
          | rest => fields fuel rest []
      | '"' :: rest => (string ('"' :: rest)).map fun (text, rest) => (.str text, rest)
      | 't' :: rest => literal "true" (.bool true) ('t' :: rest)
      | 'f' :: rest => literal "false" (.bool false) ('f' :: rest)
      | 'n' :: rest => literal "null" .null ('n' :: rest)
      | rest => number rest

def items (fuel : Nat) (text : List Char) (read : List Json) : Option (Json × List Char) :=
  match fuel with
  | 0 => none
  | fuel + 1 => do
      let (item, rest) ← document fuel text
      match skipBlanks rest with
      | ',' :: rest => items fuel rest (item :: read)
      | ']' :: rest => some (.arr (item :: read).reverse, rest)
      | _ => none

def fields (fuel : Nat) (text : List Char) (read : Fields Json) : Option (Json × List Char) :=
  match fuel with
  | 0 => none
  | fuel + 1 => do
      let (name, rest) ← string (skipBlanks text)
      match skipBlanks rest with
      | ':' :: rest =>
          let (value, rest) ← document fuel rest
          let read := Fields.put name value read
          match skipBlanks rest with
          | ',' :: rest => fields fuel rest read
          | '\x7d' :: rest => some (.obj read, rest)
          | _ => none
      | _ => none

end

end Reader

def read? (text : String) : Option Json := do
  let chars := text.toList
  let (document, rest) ← Reader.document (2 * chars.length + 1) chars
  if (Reader.skipBlanks rest).isEmpty then some document else none

end TransitionEngine.Json
