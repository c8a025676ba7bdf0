/-! # Tables of code points

Large character tables are kept as text: hexadecimal code points and ranges separated by blanks, such as
`41-5a 61-7a aa`, or runs of letters with a common shift. The readers here turn such text into lists. -/

namespace GatedFlow

/-- The value of a lower-case hexadecimal digit; other characters count as zero. -/
def tableDigit (c : Char) : Nat :=
  if c.isDigit then c.toNat - 48 else if 'a' ≤ c ∧ c ≤ 'f' then c.toNat - 87 else 0

/-- The words of a text, split at blanks; `word` holds the characters of the current one in reverse. -/
def tableWords (word : List Char) : List Char → List (List Char)
  | [] => if word.isEmpty then [] else [word.reverse]
  | ' ' :: rest => if word.isEmpty then tableWords [] rest else word.reverse :: tableWords [] rest
  | c :: rest => tableWords (c :: word) rest

def tableNat (word : List Char) : Nat := word.foldl (fun n c => n * 16 + tableDigit c) 0

def rangesOfText (text : String) : List (Nat × Nat) :=
  (tableWords [] text.toList).map fun word =>
    let low := tableNat (word.takeWhile (· != '-'))
    match word.dropWhile (· != '-') with
    | _ :: high => (low, tableNat high)
    | [] => (low, low)

/-- Whether a code point lies in one of the ranges. -/
def inRanges (ranges : List (Nat × Nat)) (n : Nat) : Bool :=
  ranges.any fun r => r.1 ≤ n && n ≤ r.2

/-- A run of code points `first, first + stride, …` that are all shifted by the same amount. -/
structure ShiftRun where
  first : Nat
  count : Nat
  stride : Nat
  shift : Int

/-- The runs written in a table text, each as `first:count:stride:shift` in hexadecimal. -/
def shiftRunsOfText (text : String) : List ShiftRun :=
  (tableWords [] text.toList).filterMap fun word =>
    match tableWords [] (word.map fun c => if c == ':' then ' ' else c) with
    | [first, count, stride, '-' :: shift] =>
      some ⟨tableNat first, tableNat count, tableNat stride, -(tableNat shift : Int)⟩
    | [first, count, stride, shift] => some ⟨tableNat first, tableNat count, tableNat stride, tableNat shift⟩
    | _ => none

def ShiftRun.holds (r : ShiftRun) (n : Nat) : Bool :=
  r.first ≤ n && n < r.first + r.count * r.stride && (n - r.first) % r.stride == 0

/-- The code point that a list of runs sends `n` to. -/
def shiftBy (runs : List ShiftRun) (n : Nat) : Nat :=
  match runs.find? (·.holds n) with
  | some r => (n + r.shift).toNat
  | none => n

end GatedFlow
