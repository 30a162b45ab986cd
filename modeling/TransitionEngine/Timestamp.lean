import TransitionEngine.Text.Blank

/-!
# Timestamps

A moment is counted in seconds and nanoseconds from the start of 1970 in UTC. It has the form of RFC
3339, which is read with some allowance for blanks and for digits left out, and written in UTC with
as few groups of three fraction digits as are exact. A leap second belongs to the second before it,
with a nanosecond count of a full second or more.
-/

namespace TransitionEngine

structure Timestamp where
  seconds : Int
  nanoseconds : Nat
  deriving DecidableEq

namespace Timestamp

structure Date where
  year : Int
  month : Nat
  day : Nat
  deriving DecidableEq

namespace Date

/-- Days from 1970-01-01, by counting whole eras of 400 years from a March. -/
def toDays (date : Date) : Int :=
  let year := if date.month ≤ 2 then date.year - 1 else date.year
  let era := year.fdiv 400
  let yearOfEra := year - era * 400
  let monthFromMarch : Nat := (date.month + 9) % 12
  let dayOfYear : Int := (153 * monthFromMarch + 2) / 5 + date.day - 1
  let dayOfEra := yearOfEra * 365 + yearOfEra / 4 - yearOfEra / 100 + dayOfYear
  era * 146097 + dayOfEra - 719468

def ofDays (days : Int) : Date :=
  let shifted := days + 719468
  let era := shifted.fdiv 146097
  let dayOfEra := shifted - era * 146097
  let yearOfEra := (dayOfEra - dayOfEra / 1460 + dayOfEra / 36524 - dayOfEra / 146096) / 365
  let dayOfYear := dayOfEra - (365 * yearOfEra + yearOfEra / 4 - yearOfEra / 100)
  let monthFromMarch := (5 * dayOfYear + 2) / 153
  let day := dayOfYear - (153 * monthFromMarch + 2) / 5 + 1
  let month := if monthFromMarch < 10 then monthFromMarch + 3 else monthFromMarch - 9
  let year := yearOfEra + era * 400 + (if month ≤ 2 then 1 else 0)
  ⟨year, month.toNat, day.toNat⟩

/-- A date of the calendar is the one that its day count gives back. -/
def isValid (date : Date) : Bool :=
  ofDays date.toDays = date

end Date

def valueOf (digits : List Char) : Nat :=
  digits.foldl (fun value char => 10 * value + (char.toNat - '0'.toNat)) 0

def skipBlanks (text : List Char) : List Char :=
  text.dropWhile Text.isBlankChar

/-- The digits at the front of a text as a number: at least one, and so many at most. -/
def digits? (most : Nat) (text : List Char) : Option (Nat × List Char) :=
  let taken := (text.take most).takeWhile Char.isDigit
  if taken.isEmpty then none else some (valueOf taken, text.drop taken.length)

def twoDigits? (text : List Char) : Option (Nat × List Char) :=
  match text with
  | first :: second :: rest =>
      if first.isDigit && second.isDigit then some (valueOf [first, second], rest) else none
  | _ => none

/-- A part of a date or a time of day, which blanks may precede. -/
def part? (text : List Char) : Option (Nat × List Char) :=
  digits? 2 (skipBlanks text)

/-- A year has four digits at most, unless it has a sign. -/
def year? (text : List Char) : Option (Int × List Char) :=
  match skipBlanks text with
  | '-' :: rest => (digits? rest.length rest).map fun (year, rest) => (-year, rest)
  | '+' :: rest => (digits? rest.length rest).map fun (year, rest) => (year, rest)
  | text => (digits? 4 text).map fun (year, rest) => (year, rest)

def mark? (mark : Char) (text : List Char) : Option (List Char) :=
  match skipBlanks text with
  | char :: rest => if char = mark then some rest else none
  | [] => none

def timeMark? (text : List Char) : Option (List Char) :=
  match text with
  | char :: rest => if char ∈ ['T', 't', ' '] then some rest else none
  | [] => none

/-- The fraction of a second in nanoseconds; digits beyond the ninth are dropped. -/
def fraction? (text : List Char) : Option (Nat × List Char) :=
  match text with
  | '.' :: rest =>
      let digits := rest.takeWhile Char.isDigit
      if digits.isEmpty then none
      else
        let padded := digits.take 9 ++ List.replicate (9 - digits.length) '0'
        some (valueOf padded, rest.dropWhile Char.isDigit)
  | _ => some (0, text)

/-- An offset from UTC in seconds, given in hours and minutes. -/
def hoursAndMinutes? (text : List Char) : Option (Int × List Char) := do
  let (hours, rest) ← twoDigits? text
  let (minutes, rest) ← twoDigits? (rest.dropWhile fun char => char = ':' || Text.isBlankChar char)
  if 23 < hours ∨ 59 < minutes then none else some (3600 * hours + 60 * minutes, rest)

/-- The offset from UTC in seconds, which ends the text but for blanks. -/
def offset? (text : List Char) : Option Int := do
  let (offset, rest) ← match skipBlanks text with
    | 'Z' :: rest | 'z' :: rest => some (0, rest)
    | '+' :: rest => hoursAndMinutes? rest
    | '-' :: rest | '−' :: rest => (hoursAndMinutes? rest).map fun (offset, rest) => (-offset, rest)
    | text => if (text.take 3).map Char.toUpper = ['U', 'T', 'C'] then some (0, text.drop 3) else none
  if (skipBlanks rest).isEmpty then some offset else none

def isCovered (date : Date) : Bool :=
  -262143 ≤ date.year ∧ date.year ≤ 262142

def date (timestamp : Timestamp) : Date :=
  .ofDays (timestamp.seconds.fdiv 86400)

def read? (text : String) : Option Timestamp := do
  let (year, rest) ← year? text.toList
  let (month, rest) ← part? (← mark? '-' rest)
  let (day, rest) ← part? (← mark? '-' rest)
  let (hour, rest) ← part? (← timeMark? rest)
  let (minute, rest) ← part? (← mark? ':' rest)
  let (second, rest) ← part? (← mark? ':' rest)
  let (fraction, rest) ← fraction? rest
  let offset ← offset? rest
  let date : Date := ⟨year, month, day⟩
  if ¬ isCovered date ∨ ¬ date.isValid ∨ 23 < hour ∨ 59 < minute ∨ 60 < second then none
  else
    let leap := if second = 60 then 1 else 0
    let seconds := date.toDays * 86400 + hour * 3600 + minute * 60 + (second - leap : Nat) - offset
    let timestamp : Timestamp := ⟨seconds, fraction + leap * 1000000000⟩
    if isCovered timestamp.date then some timestamp else none

def padded (width value : Nat) : List Char :=
  let digits := Nat.toDigits 10 value
  List.replicate (width - digits.length) '0' ++ digits

def writeYear (year : Int) : List Char :=
  if 0 ≤ year ∧ year ≤ 9999 then padded 4 year.toNat
  else (if year < 0 then '-' else '+') :: padded 4 year.natAbs

def writeFraction (nanoseconds : Nat) : List Char :=
  if nanoseconds = 0 then []
  else if nanoseconds % 1000000 = 0 then '.' :: padded 3 (nanoseconds / 1000000)
  else if nanoseconds % 1000 = 0 then '.' :: padded 6 (nanoseconds / 1000)
  else '.' :: padded 9 nanoseconds

def write (timestamp : Timestamp) : String :=
  let date := timestamp.date
  let inDay := (timestamp.seconds.fmod 86400).toNat
  let leap := timestamp.nanoseconds / 1000000000
  String.ofList (writeYear date.year ++ '-' :: padded 2 date.month ++ '-' :: padded 2 date.day
    ++ 'T' :: padded 2 (inDay / 3600) ++ ':' :: padded 2 (inDay / 60 % 60)
    ++ ':' :: padded 2 (inDay % 60 + leap) ++ writeFraction (timestamp.nanoseconds % 1000000000)
    ++ ['Z'])

end Timestamp

end TransitionEngine
