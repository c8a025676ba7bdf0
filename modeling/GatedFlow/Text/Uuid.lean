import GatedFlow.Json.Layout
import GatedFlow.Json.Reader
import GatedFlow.Json.Text

/-! # Universally unique identifiers

An identifier is a 128-bit number, written as 32 hexadecimal digits in lower case in groups of 8, 4, 4, 4 and
12. It is also read without hyphens, in braces, and after `urn:uuid:`. -/

namespace GatedFlow

structure Uuid where
  value : Nat
  deriving DecidableEq

namespace Uuid

/-- The lowest hexadecimal digits of a number, the highest of them first. -/
def hexDigits : Nat → Nat → List Char
  | 0, _ => []
  | count + 1, n => hexDigits count (n / 16) ++ [hexDigit (n % 16)]

/-- Hexadecimal digits in the groups of an identifier. -/
def grouped (digits : List Char) : List Char :=
  digits.take 8 ++ '-' :: (digits.drop 8).take 4 ++ '-' :: (digits.drop 12).take 4 ++
    '-' :: (digits.drop 16).take 4 ++ '-' :: digits.drop 20

def text (u : Uuid) : String := String.ofList (grouped (hexDigits 32 u.value))

def ofDigits? (digits : List Char) : Option Uuid :=
  if digits.length = 32 then (natOfHex? digits).map Uuid.mk else none

def ofGroups? (cs : List Char) : Option Uuid :=
  let digits := cs.filter (· ≠ '-')
  if grouped digits = cs then ofDigits? digits else none

def ofText? (text : String) : Option Uuid :=
  let cs := text.toList
  let urn := "urn:uuid:".toList
  if cs.length = 32 then ofDigits? cs
  else if cs.length = 36 then ofGroups? cs
  else if cs.length = 38 ∧ cs.head? = some '\x7b' ∧ cs.getLast? = some '\x7d' then ofGroups? ((cs.drop 1).take 36)
  else if cs.length = 45 ∧ urn.isPrefixOf cs then ofGroups? (cs.drop urn.length)
  else none

def form : TextForm Uuid := ⟨text, ofText?⟩

end Uuid
end GatedFlow
