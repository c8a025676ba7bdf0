import GatedFlow.Json.Value
import GatedFlow.Record

/-! # Reading JSON text

A recursive descent reader over characters. An integer literal within `-2 ^ 63 .. 2 ^ 64 - 1` becomes a whole
number, any other literal (also `-0`) the nearest binary64 number; a literal beyond the finite range is
refused. Of fields with the same name the last counts. -/

namespace GatedFlow

/-- The number a run of decimal digits stands for. -/
def natOfDigits (digits : List Char) : Nat :=
  digits.foldl (fun n c => n * 10 + (c.toNat - 48)) 0

def hexValue? (c : Char) : Option Nat :=
  if c.isDigit then some (c.toNat - 48)
  else if 'a' ≤ c ∧ c ≤ 'f' then some (c.toNat - 87)
  else if 'A' ≤ c ∧ c ≤ 'F' then some (c.toNat - 55)
  else none

def natOfHex? (digits : List Char) : Option Nat :=
  digits.foldlM (fun n c => (hexValue? c).map (n * 16 + ·)) 0

namespace JsonReader

def isSpace (c : Char) : Bool := c == ' ' || c == '\n' || c == '\r' || c == '\t'

def skip (cs : List Char) : List Char := cs.dropWhile isSpace

/-- The value of a number literal: sign, whole digits, fraction digits, exponent. -/
def numberOf? (negative : Bool) (whole : List Char) (fraction : Option (List Char)) (exponent : Option Int) :
    Option Number :=
  let digits := natOfDigits whole
  let inRange := if negative then digits ≤ signedLimit else digits < wordCount
  if fraction.isNone && exponent.isNone && inRange && !(negative && digits == 0) then
    some (.int (if negative then -digits else digits))
  else
    let fraction := fraction.getD []
    let all := natOfDigits (whole ++ fraction)
    (Double.ofDecimal? negative all (exponent.getD 0 - fraction.length)).map .float

/-- An exponent after its `e`: an optional sign and digits. -/
def readExponent (cs : List Char) : Option (Int × List Char) :=
  let (negative, cs) := match cs with
    | '+' :: rest => (false, rest)
    | '-' :: rest => (true, rest)
    | _ => (false, cs)
  let digits := cs.takeWhile Char.isDigit
  if digits.isEmpty then none
  else
    let n : Int := natOfDigits digits
    some (if negative then -n else n, cs.dropWhile Char.isDigit)

def readNumber (cs : List Char) : Option (Number × List Char) := do
  let (negative, cs) := match cs with
    | '-' :: rest => (true, rest)
    | _ => (false, cs)
  let whole := cs.takeWhile Char.isDigit
  if whole.isEmpty || (whole.head? == some '0' && whole.length != 1) then none
  let cs := cs.dropWhile Char.isDigit
  let (fraction, cs) ← match cs with
    | '.' :: rest =>
      let digits := rest.takeWhile Char.isDigit
      if digits.isEmpty then none else some (some digits, rest.dropWhile Char.isDigit)
    | _ => some (none, cs)
  let (exponent, cs) ← match cs with
    | 'e' :: rest | 'E' :: rest => (readExponent rest).map fun (e, rest) => (some e, rest)
    | _ => some (none, cs)
  return (← numberOf? negative whole fraction exponent, cs)

/-- The characters of a string after its opening quote, gathered in reverse. Two `\u` escapes that form a
surrogate pair stand for one character; a lone surrogate is refused. -/
def readString (gathered : List Char) : List Char → Option (String × List Char)
  | [] => none
  | '"' :: rest => some (String.ofList gathered.reverse, rest)
  | '\\' :: 'u' :: a :: b :: c :: d :: rest =>
    match natOfHex? [a, b, c, d] with
    | none => none
    | some high =>
      if 0xD800 ≤ high ∧ high < 0xDC00 then
        match rest with
        | '\\' :: 'u' :: e :: f :: g :: h :: rest =>
          match natOfHex? [e, f, g, h] with
          | none => none
          | some low =>
            if 0xDC00 ≤ low ∧ low < 0xE000 then
              readString (Char.ofNat (0x10000 + (high - 0xD800) * 0x400 + (low - 0xDC00)) :: gathered) rest
            else none
        | _ => none
      else if 0xDC00 ≤ high ∧ high < 0xE000 then none
      else readString (Char.ofNat high :: gathered) rest
  | '\\' :: c :: rest =>
    match c with
    | '"' => readString ('"' :: gathered) rest
    | '\\' => readString ('\\' :: gathered) rest
    | '/' => readString ('/' :: gathered) rest
    | 'b' => readString (Char.ofNat 8 :: gathered) rest
    | 'f' => readString (Char.ofNat 12 :: gathered) rest
    | 'n' => readString ('\n' :: gathered) rest
    | 'r' => readString ('\r' :: gathered) rest
    | 't' => readString ('\t' :: gathered) rest
    | _ => none
  | c :: rest => if c.toNat < 32 || c == '\\' then none else readString (c :: gathered) rest

mutual
/-- One value; the fuel bounds the number of calls. -/
def readValue : Nat → List Char → Option (Value × List Char)
  | 0, _ => none
  | fuel + 1, cs =>
    match skip cs with
    | 'n' :: 'u' :: 'l' :: 'l' :: rest => some (.null, rest)
    | 't' :: 'r' :: 'u' :: 'e' :: rest => some (.bool true, rest)
    | 'f' :: 'a' :: 'l' :: 's' :: 'e' :: rest => some (.bool false, rest)
    | '"' :: rest => (readString [] rest).map fun (s, rest) => (.string s, rest)
    | '[' :: rest =>
      match skip rest with
      | ']' :: rest => some (.array [], rest)
      | _ => readItems fuel [] rest
    | '\x7b' :: rest =>
      match skip rest with
      | '\x7d' :: rest => some (.object [], rest)
      | _ => readFields fuel [] rest
    | rest => (readNumber rest).map fun (n, rest) => (.number n, rest)

/-- The items of an array up to its closing bracket, gathered in reverse. -/
def readItems : Nat → List Value → List Char → Option (Value × List Char)
  | 0, _, _ => none
  | fuel + 1, gathered, cs =>
    match readValue fuel cs with
    | none => none
    | some (v, rest) =>
      match skip rest with
      | ',' :: rest => readItems fuel (v :: gathered) rest
      | ']' :: rest => some (.array (v :: gathered).reverse, rest)
      | _ => none

/-- The fields of an object up to its closing brace, gathered in key order. -/
def readFields : Nat → List (String × Value) → List Char → Option (Value × List Char)
  | 0, _, _ => none
  | fuel + 1, gathered, cs =>
    match skip cs with
    | '"' :: rest =>
      match readString [] rest with
      | none => none
      | some (key, rest) =>
        match skip rest with
        | ':' :: rest =>
          match readValue fuel rest with
          | none => none
          | some (v, rest) =>
            match skip rest with
            | ',' :: rest => readFields fuel (insertEntry key v gathered) rest
            | '\x7d' :: rest => some (.object (insertEntry key v gathered), rest)
            | _ => none
        | _ => none
    | _ => none
end

end JsonReader

/-- The value written by a JSON text, if it is one. -/
def Value.ofText? (text : String) : Option Value :=
  let cs := text.toList
  match JsonReader.readValue (cs.length + 1) cs with
  | some (v, rest) => if (JsonReader.skip rest).isEmpty then some v else none
  | none => none

end GatedFlow
