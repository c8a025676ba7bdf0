import GatedFlow.Json.Layout
import GatedFlow.Json.Reader
import GatedFlow.Text.Blank

/-! # Points in time

A point in time counts seconds from 1970-01-01 in UTC and nanoseconds; a leap second has a full second of
nanoseconds on top. It is written as `2024-05-06T07:08:09Z` with as many fraction digits in groups of three
as it needs. Reading is lenient about blanks, leading zeros and the offset, which is taken off. -/

namespace GatedFlow

structure Timestamp where
  seconds : Int
  nanos : Nat
  deriving DecidableEq

structure Day where
  year : Int
  month : Nat
  day : Nat
  deriving DecidableEq

def isLeapYear (year : Int) : Bool := year % 4 = 0 && (year % 100 ≠ 0 || year % 400 = 0)

def daysInMonth (year : Int) (month : Nat) : Nat :=
  if month = 2 then if isLeapYear year then 29 else 28
  else if month = 4 || month = 6 || month = 9 || month = 11 then 30
  else 31

namespace Day

def isValid (d : Day) : Bool :=
  1 ≤ d.month && d.month ≤ 12 && 1 ≤ d.day && d.day ≤ daysInMonth d.year d.month &&
    -262143 ≤ d.year && d.year ≤ 262142

/-- The number of days from 1970-01-01. Years are counted from March, so that leap days come last. -/
def number (d : Day) : Int :=
  let year := if d.month ≤ 2 then d.year - 1 else d.year
  let era := year / 400
  let ofEra := year % 400
  let month : Int := (d.month + 9) % 12
  let ofYear := (153 * month + 2) / 5 + d.day - 1
  era * 146097 + (ofEra * 365 + ofEra / 4 - ofEra / 100 + ofYear) - 719468

def ofNumber (n : Int) : Day :=
  let z := n + 719468
  let era := z / 146097
  let ofEra := z % 146097
  let yearOfEra := (ofEra - ofEra / 1460 + ofEra / 36524 - ofEra / 146096) / 365
  let ofYear := ofEra - (365 * yearOfEra + yearOfEra / 4 - yearOfEra / 100)
  let month := (5 * ofYear + 2) / 153
  let day := ofYear - (153 * month + 2) / 5 + 1
  let calendarMonth := if month < 10 then month + 3 else month - 9
  let year := yearOfEra + era * 400 + if calendarMonth ≤ 2 then 1 else 0
  ⟨year, calendarMonth.toNat, day.toNat⟩

end Day

/-- A number with zeros in front, up to a width. -/
def paddedText (width n : Nat) : String :=
  let text := toString n
  String.ofList (List.replicate (width - text.length) '0') ++ text

namespace Timestamp

/-- The text of a year; beyond four digits it has a sign. -/
def yearText (year : Int) : String :=
  if 0 ≤ year ∧ year ≤ 9999 then paddedText 4 year.toNat
  else (if year < 0 then "-" else "+") ++ paddedText 4 year.natAbs

/-- The text of a fraction of a second, in groups of three digits. -/
def fractionText (nanos : Nat) : String :=
  if nanos = 0 then ""
  else if nanos % 1000000 = 0 then "." ++ paddedText 3 (nanos / 1000000)
  else if nanos % 1000 = 0 then "." ++ paddedText 6 (nanos / 1000)
  else "." ++ paddedText 9 nanos

def text (t : Timestamp) : String :=
  let day := Day.ofNumber (t.seconds / 86400)
  let ofDay := (t.seconds % 86400).toNat
  let second := ofDay % 60 + t.nanos / 1000000000
  yearText day.year ++ "-" ++ paddedText 2 day.month ++ "-" ++ paddedText 2 day.day ++ "T" ++
    paddedText 2 (ofDay / 3600) ++ ":" ++ paddedText 2 (ofDay / 60 % 60) ++ ":" ++ paddedText 2 second ++
    fractionText (t.nanos % 1000000000) ++ "Z"

def skipBlanks (cs : List Char) : List Char := cs.dropWhile isBlank

/-- At least one digit and no more than `width`, after blanks, and the rest. -/
def readDigits? (width : Nat) (cs : List Char) : Option (Nat × List Char) :=
  let cs := skipBlanks cs
  let digits := (cs.take width).takeWhile Char.isDigit
  if digits.isEmpty then none else some (natOfDigits digits, cs.drop digits.length)

/-- A year: up to four digits, or any number of them after a sign. -/
def readYear? (cs : List Char) : Option (Int × List Char) :=
  match skipBlanks cs with
  | '-' :: rest => if (skipBlanks rest).length = rest.length then
      (readDigits? rest.length rest).map fun r => (-(r.1 : Int), r.2) else none
  | '+' :: rest => if (skipBlanks rest).length = rest.length then
      (readDigits? rest.length rest).map fun r => ((r.1 : Int), r.2) else none
  | cs => (readDigits? 4 cs).map fun r => ((r.1 : Int), r.2)

/-- A mark after blanks, and the rest. -/
def readMark? (mark : Char) (cs : List Char) : Option (List Char) :=
  match skipBlanks cs with
  | c :: rest => if c = mark then some rest else none
  | [] => none

/-- A fraction of a second in nanoseconds, if there is one; digits after the ninth are dropped. -/
def readFraction? : List Char → Option (Nat × List Char)
  | '.' :: rest =>
    let digits := rest.takeWhile Char.isDigit
    let kept := digits.take 9
    if digits.isEmpty then none
    else some (natOfDigits kept * tenTo (9 - kept.length), rest.drop digits.length)
  | cs => some (0, cs)

/-- Two digits at the start of a text, and the rest. -/
def readTwo? : List Char → Option (Nat × List Char)
  | a :: b :: rest => if a.isDigit && b.isDigit then some (natOfDigits [a, b], rest) else none
  | _ => none

/-- An offset from UTC in seconds, and the rest: `Z`, `UTC`, or a sign with hours and minutes. -/
def readOffset? (cs : List Char) : Option (Int × List Char) :=
  match cs with
  | u :: t :: c :: rest =>
    if u.toUpper = 'U' && t.toUpper = 'T' && c.toUpper = 'C' then some (0, rest) else signed cs
  | _ => signed cs
where
  /-- An offset that is not written `UTC`. -/
  signed : List Char → Option (Int × List Char)
    | 'Z' :: rest => some (0, rest)
    | 'z' :: rest => some (0, rest)
    | '+' :: rest => amount 1 rest
    | '-' :: rest => amount (-1) rest
    | '−' :: rest => amount (-1) rest
    | _ => none
  /-- Hours and minutes. -/
  amount (sign : Int) (cs : List Char) : Option (Int × List Char) := do
    let (hours, rest) ← readTwo? cs
    let (minutes, rest) ← readTwo? (rest.dropWhile fun c => c == ':' || isBlank c)
    if minutes < 60 ∧ hours < 24 then some (sign * (hours * 3600 + minutes * 60 : Nat), rest) else none

def ofText? (text : String) : Option Timestamp := do
  let (year, rest) ← readYear? text.toList
  let (month, rest) ← readDigits? 2 (← readMark? '-' rest)
  let (day, rest) ← readDigits? 2 (← readMark? '-' rest)
  let rest ← match rest with
    | c :: rest => if c = 'T' ∨ c = 't' ∨ c = ' ' then some rest else none
    | [] => none
  let (hour, rest) ← readDigits? 2 rest
  let (minute, rest) ← readDigits? 2 (← readMark? ':' rest)
  let (second, rest) ← readDigits? 2 (← readMark? ':' rest)
  let (nanos, rest) ← readFraction? rest
  let (offset, rest) ← readOffset? (skipBlanks rest)
  let day : Day := ⟨year, month, day⟩
  if (skipBlanks rest).isEmpty && day.isValid && hour < 24 && minute < 60 && second ≤ 60 then
    let leap := second / 60
    some ⟨day.number * 86400 + (hour * 3600 + minute * 60 + (second - leap) : Nat) - offset,
      nanos + leap * 1000000000⟩
  else none

def form : TextForm Timestamp := ⟨text, ofText?⟩

end Timestamp
end GatedFlow
