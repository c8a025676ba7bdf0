import GatedFlow.Text.Category
import GatedFlow.Text.Folding
import GatedFlow.Text.Lowercase
import GatedFlow.Text.Script

/-! # Sets of characters

The sets a pattern can name: ranges, the classes of digits, blanks and word characters, the general
categories and scripts, and what set operations make of them. A set is described, not enumerated; `mem`
decides membership of a code point. -/

namespace GatedFlow

inductive CharSet where
  | none
  | range (low high : Nat)
  | ranges (table : List (Nat × Nat))
  | digits
  | blanks
  | wordChars
  | categories (names : List String)
  | union (a b : CharSet)
  | inter (a b : CharSet)
  | diff (a b : CharSet)
  | complement (a : CharSet)
  | anyCase (a : CharSet)

namespace CharSet

def mem : CharSet → Nat → Bool
  | none, _ => false
  | range low high, n => low ≤ n && n ≤ high
  | ranges table, n => inRanges table n
  | digits, n => isDecimalDigit (Char.ofNat n)
  | blanks, n => isBlank (Char.ofNat n)
  | wordChars, n => isWordChar (Char.ofNat n)
  | categories names, n => names.contains (categoryOf (Char.ofNat n))
  | union a b, n => a.mem n || b.mem n
  | inter a b, n => a.mem n && b.mem n
  | diff a b, n => a.mem n && !b.mem n
  | complement a, n => !a.mem n
  | anyCase a, n => (caseVariants n).any fun m => a.mem m

def single (n : Nat) : CharSet := range n n

/-- The set of the listed ranges of ASCII characters. -/
def ofAscii (pairs : List (Char × Char)) : CharSet :=
  ranges (pairs.map fun p => (p.1.toNat, p.2.toNat))

/-- The ASCII class of this name, as in `[:alpha:]`. -/
def ascii? (name : String) : Option CharSet :=
  match name with
  | "alnum" => some (ofAscii [('0', '9'), ('A', 'Z'), ('a', 'z')])
  | "alpha" => some (ofAscii [('A', 'Z'), ('a', 'z')])
  | "ascii" => some (range 0 127)
  | "blank" => some (ofAscii [('\t', '\t'), (' ', ' ')])
  | "cntrl" => some (union (range 0 31) (single 127))
  | "digit" => some (ofAscii [('0', '9')])
  | "graph" => some (ofAscii [('!', '~')])
  | "lower" => some (ofAscii [('a', 'z')])
  | "print" => some (ofAscii [(' ', '~')])
  | "punct" => some (ofAscii [('!', '/'), (':', '@'), ('[', '\x60'), ('\x7b', '~')])
  | "space" => some (union (range 9 13) (single 32))
  | "upper" => some (ofAscii [('A', 'Z')])
  | "word" => some (ofAscii [('0', '9'), ('A', 'Z'), ('a', 'z'), ('_', '_')])
  | "xdigit" => some (ofAscii [('0', '9'), ('A', 'F'), ('a', 'f')])
  | _ => Option.none

/-- The general categories with their long names; a name of several categories lists them all. -/
def categoryNames : List (List String × List String) := [
  (["c", "other"], ["Cc", "Cf", "Cn", "Co"]), (["cc", "control", "cntrl"], ["Cc"]), (["cf", "format"], ["Cf"]),
  (["cn", "unassigned"], ["Cn"]), (["co", "privateuse"], ["Co"]),
  (["l", "letter"], ["Lu", "Ll", "Lt", "Lm", "Lo"]), (["lc", "casedletter"], ["Lu", "Ll", "Lt"]),
  (["ll", "lowercaseletter"], ["Ll"]), (["lm", "modifierletter"], ["Lm"]), (["lo", "otherletter"], ["Lo"]),
  (["lt", "titlecaseletter"], ["Lt"]), (["lu", "uppercaseletter"], ["Lu"]),
  (["m", "mark", "combiningmark"], ["Mn", "Mc", "Me"]), (["mc", "spacingmark"], ["Mc"]),
  (["me", "enclosingmark"], ["Me"]), (["mn", "nonspacingmark"], ["Mn"]),
  (["n", "number"], ["Nd", "Nl", "No"]), (["nd", "decimalnumber", "digit"], ["Nd"]),
  (["nl", "letternumber"], ["Nl"]), (["no", "othernumber"], ["No"]),
  (["p", "punctuation", "punct"], ["Pc", "Pd", "Ps", "Pe", "Pi", "Pf", "Po"]),
  (["pc", "connectorpunctuation"], ["Pc"]), (["pd", "dashpunctuation"], ["Pd"]),
  (["pe", "closepunctuation"], ["Pe"]), (["pf", "finalpunctuation"], ["Pf"]),
  (["pi", "initialpunctuation"], ["Pi"]), (["po", "otherpunctuation"], ["Po"]),
  (["ps", "openpunctuation"], ["Ps"]), (["s", "symbol"], ["Sm", "Sc", "Sk", "So"]),
  (["sc", "currencysymbol"], ["Sc"]), (["sk", "modifiersymbol"], ["Sk"]), (["sm", "mathsymbol"], ["Sm"]),
  (["so", "othersymbol"], ["So"]), (["z", "separator"], ["Zs", "Zl", "Zp"]), (["zl", "lineseparator"], ["Zl"]),
  (["zp", "paragraphseparator"], ["Zp"]), (["zs", "spaceseparator"], ["Zs"])]

/-- The set of the general category with this name in plain form. -/
def category? (name : String) : Option CharSet :=
  match name with
  | "any" => some (complement none)
  | "assigned" => some (complement (categories ["Cn"]))
  | "ascii" => some (range 0 127)
  | _ => (categoryNames.find? fun row => row.1.contains name).map fun row => categories row.2

/-- A property name in plain form: lower case, without separators and without a leading `is`. -/
def plainName (name : List Char) : String :=
  let kept := (name.filter fun c => c.toNat < 128 && c != ' ' && c != '_' && c != '-').map Char.toLower
  match kept with
  | 'i' :: 's' :: rest => if rest == ['c'] || rest.isEmpty then String.ofList kept else String.ofList rest
  | _ => String.ofList kept

/-- The set of the characters with a named property: a yes-or-no property, a category or a script. -/
def property? (name : List Char) : Option CharSet :=
  match plainName name with
  | "alphabetic" | "alpha" => some (union (ofAscii [('A', 'Z'), ('a', 'z')]) (ranges alphabeticRanges))
  | "whitespace" | "wspace" | "space" => some blanks
  | "cased" => some (ranges casedRanges)
  | "caseignorable" | "ci" => some (ranges caseIgnorableRanges)
  | plain =>
    match category? plain with
    | some s => some s
    | Option.none => (scriptRanges? plain).map ranges

/-- The set of the characters whose property has a named value. -/
def propertyValue? (name value : List Char) : Option CharSet :=
  match plainName name with
  | "generalcategory" | "gc" => category? (plainName value)
  | "script" | "sc" | "scriptextensions" | "scx" => (scriptRanges? (plainName value)).map ranges
  | _ => Option.none

end CharSet
end GatedFlow
