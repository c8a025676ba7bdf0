import GatedFlow.Json.Reader
import GatedFlow.Pattern.Tree

/-! # Reading patterns

The syntax of regular patterns: alternatives, repetitions, groups with names and flags, character classes
with set operations, escapes and Unicode properties. There is no look-around and no back-reference, and a
brace always opens a counted repetition. `PatternTree.ofText?` refuses everything else, patterns nested deeper
than 250 levels, and patterns whose counted repetitions write out to too many states. -/

namespace GatedFlow

namespace PatternReader

/-- The switches that change how what follows is read. -/
structure Flags where
  ignoreCase : Bool
  multiLine : Bool
  dotNewline : Bool
  carriageReturn : Bool
  unicode : Bool
  spaced : Bool

/-- No switch is on, apart from the Unicode classes. -/
def Flags.start : Flags := ⟨false, false, false, false, true, false⟩

def skipComment (cs : List Char) : List Char := (cs.dropWhile (· != '\n')).drop 1

/-- Skips blanks and comments when the pattern is spaced; the fuel bounds the number of comments. -/
def skipSpace (flags : Flags) : Nat → List Char → List Char
  | 0, cs => cs
  | fuel + 1, cs =>
    if flags.spaced then
      match cs.dropWhile isBlank with
      | '#' :: rest => skipSpace flags fuel (skipComment rest)
      | rest => rest
    else cs

/-- Skips blanks and comments, whatever their number. -/
def skipSpaces (flags : Flags) (cs : List Char) : List Char :=
  if flags.spaced then skipSpace flags cs.length cs else cs

/-- A set with the other cases of its characters when case is ignored. -/
def caseOf (flags : Flags) (s : CharSet) : CharSet := if flags.ignoreCase then .anyCase s else s

def isScalar (n : Nat) : Bool := n < 0xD800 || (0xE000 ≤ n && n < 0x110000)

/-- A character written by its hexadecimal code point, after `x`, `u` or `U`: in braces, or with a fixed
number of digits. -/
def readHex (width : Nat) (cs : List Char) : Option (Nat × List Char) :=
  let check (digits : List Char) (rest : List Char) : Option (Nat × List Char) :=
    match natOfHex? digits with
    | some n => if isScalar n then some (n, rest) else none
    | none => none
  match cs with
  | '\x7b' :: rest =>
    let digits := rest.takeWhile (· != '\x7d')
    match rest.dropWhile (· != '\x7d') with
    | _ :: after => if digits.isEmpty then none else check digits after
    | [] => none
  | _ => if (cs.take width).length = width then check (cs.take width) (cs.drop width) else none

/-- A Unicode property after `p`: one letter, or a name in braces with an optional value. -/
def readProperty (cs : List Char) : Option (CharSet × List Char) :=
  match cs with
  | [] => none
  | '\x7b' :: rest =>
    let name := rest.takeWhile (· != '\x7d')
    match rest.dropWhile (· != '\x7d') with
    | [] => none
    | _ :: after =>
      let split (p : Char → Bool) : List Char × List Char := (name.takeWhile p, (name.dropWhile p).drop 1)
      let set :=
        if name.contains '!' then
          let (n, v) := split (· != '!')
          match v with
          | '=' :: v => (CharSet.propertyValue? n v).map .complement
          | _ => none
        else if name.contains ':' then
          let (n, v) := split (· != ':')
          CharSet.propertyValue? n v
        else if name.contains '=' then
          let (n, v) := split (· != '=')
          CharSet.propertyValue? n v
        else CharSet.property? name
      set.map fun s => (s, after)
  | c :: rest => if c == '\\' then none else (CharSet.category? (CharSet.plainName [c])).map fun s => (s, rest)

inductive Escape where
  | literal (point : Nat)
  | set (s : CharSet)
  | look (l : Look)

/-- A class of digits, blanks or word characters. Without Unicode its complement would match single bytes
and is refused. -/
def shorthandClass (flags : Flags) (kind : Char) : Option CharSet :=
  let plain : CharSet := match kind.toLower with
    | 'd' => if flags.unicode then .digits else .ofAscii [('0', '9')]
    | 's' => if flags.unicode then .blanks else .union (.range 9 13) (.single 32)
    | _ => if flags.unicode then .wordChars else .ofAscii [('0', '9'), ('A', 'Z'), ('a', 'z'), ('_', '_')]
  if kind.isUpper then if flags.unicode then some (.complement plain) else none else some plain

/-- The characters that have a meaning of their own, so that an escape takes it away. -/
def isMeta (c : Char) : Bool := "\\.+*?()|[]\x7b\x7d^$#&-~".toList.contains c

/-- The condition named in braces after `\b`. A name that is not one is refused; braces that hold no
letters are a counted repetition. -/
def readEdgeName (ascii : Bool) (cs : List Char) : Option (Look × List Char) :=
  match cs with
  | '\x7b' :: rest =>
    let isName (c : Char) : Bool := c.isAlpha || c == '-'
    let name := rest.takeWhile isName
    if name.isEmpty then some (.wordEdge ascii, cs)
    else
      match rest.dropWhile isName with
      | '\x7d' :: after =>
        match String.ofList name with
        | "start" => some (.wordStart ascii, after)
        | "end" => some (.wordEnd ascii, after)
        | "start-half" => some (.wordStartHalf ascii, after)
        | "end-half" => some (.wordEndHalf ascii, after)
        | _ => none
      | _ => none
  | _ => some (.wordEdge ascii, cs)

def readEscape (flags : Flags) (cs : List Char) : Option (Escape × List Char) :=
  let ascii := !flags.unicode
  match cs with
  | [] => none
  | c :: rest =>
    if isMeta c then some (.literal c.toNat, rest)
    else
      match c with
      | 'x' => (readHex 2 rest).map fun (n, rest) => (.literal n, rest)
      | 'u' => (readHex 4 rest).map fun (n, rest) => (.literal n, rest)
      | 'U' => (readHex 8 rest).map fun (n, rest) => (.literal n, rest)
      | 'p' => if ascii then none else (readProperty rest).map fun (s, rest) => (.set (caseOf flags s), rest)
      | 'P' =>
        if ascii then none
        else (readProperty rest).map fun (s, rest) => (.set (.complement (caseOf flags s)), rest)
      | 'd' | 's' | 'w' | 'D' | 'S' | 'W' => (shorthandClass flags c).map fun s => (.set s, rest)
      | 'a' => some (.literal 7, rest)
      | 'f' => some (.literal 12, rest)
      | 't' => some (.literal 9, rest)
      | 'n' => some (.literal 10, rest)
      | 'r' => some (.literal 13, rest)
      | 'v' => some (.literal 11, rest)
      | 'A' => some (.look .textStart, rest)
      | 'z' => some (.look .textEnd, rest)
      | 'b' => (readEdgeName ascii rest).map fun (l, rest) => (.look l, rest)
      | 'B' => some (.look (.noWordEdge ascii), rest)
      | '<' => some (.look (.wordStart ascii), rest)
      | '>' => some (.look (.wordEnd ascii), rest)
      | _ => if c.toNat < 128 && !c.isAlphanum then some (.literal c.toNat, rest) else none

/-- An operation between two parts of a class. -/
inductive SetOp where
  | inter
  | diff
  | symmetric

/-- The set that an operation makes of its two sides. -/
def SetOp.apply (op : SetOp) (a b : CharSet) : CharSet :=
  match op with
  | .inter => .inter a b
  | .diff => .diff a b
  | .symmetric => .union (.diff a b) (.diff b a)

/-- Joins the operand before an operator to the part after it. -/
def joinSets (flags : Flags) (pending : Option (SetOp × CharSet)) (part : CharSet) : CharSet :=
  match pending with
  | none => part
  | some (op, left) => op.apply (caseOf flags left) (caseOf flags part)

/-- An ASCII class such as `[:alpha:]` after its bracket. -/
def readAsciiClass (cs : List Char) : Option (CharSet × List Char) :=
  match cs with
  | ':' :: rest =>
    let (negated, rest) := match rest with
      | '^' :: rest => (true, rest)
      | _ => (false, rest)
    let name := rest.takeWhile (· != ':')
    match rest.dropWhile (· != ':') with
    | ':' :: ']' :: after =>
      (CharSet.ascii? (String.ofList name)).map fun s => (if negated then .complement s else s, after)
    | _ => none
  | _ => none

/-- One item of a class: a character or an escape. -/
def readClassItem (flags : Flags) (cs : List Char) : Option (Escape × List Char) :=
  match cs with
  | [] => none
  | '\\' :: rest => readEscape flags rest
  | c :: rest => some (.literal c.toNat, rest)

/-- An item of a class, or a range of two characters. A hyphen before the closing bracket or another hyphen
does not make a range. -/
def readClassRange (flags : Flags) (cs : List Char) : Option (CharSet × List Char) := do
  let (first, rest) ← readClassItem flags cs
  let rest := skipSpaces flags rest
  let alone : Option (CharSet × List Char) :=
    match first with
    | .literal n => if !flags.unicode && 128 ≤ n then none else some (.single n, rest)
    | .set s => some (s, rest)
    | .look _ => none
  match rest with
  | [] => none
  | '-' :: after =>
    match skipSpaces flags after with
    | ']' :: _ | '-' :: _ => alone
    | [] => none
    | after =>
      let (last, rest) ← readClassItem flags after
      match first, last with
      | .literal low, .literal high =>
        if low ≤ high && (flags.unicode || high < 128) then some (.range low high, rest) else none
      | _, _ => none
  | _ => alone

mutual
def readClass (flags : Flags) : Nat → List Char → Option (CharSet × List Char)
  | 0, _ => none
  | fuel + 1, cs =>
    let cs := skipSpaces flags cs
    let (negated, cs) := match cs with
      | '^' :: rest => (true, skipSpaces flags rest)
      | _ => (false, cs)
    let hyphens := cs.takeWhile (· == '-')
    let cs := cs.dropWhile (· == '-')
    let start : CharSet := if hyphens.isEmpty then .none else .single '-'.toNat
    let (start, cs) := match cs with
      | ']' :: rest => if hyphens.isEmpty then (CharSet.single ']'.toNat, rest) else (start, cs)
      | _ => (start, cs)
    match readClassItems flags fuel none start cs with
    | none => none
    | some (s, rest) =>
      let s := caseOf flags s
      if negated then if flags.unicode then some (.complement s, rest) else none else some (s, rest)

/-- The items of a class up to its closing bracket. -/
def readClassItems (flags : Flags) : Nat → Option (SetOp × CharSet) → CharSet → List Char →
    Option (CharSet × List Char)
  | 0, _, _, _ => none
  | fuel + 1, pending, part, cs =>
    match skipSpaces flags cs with
    | [] => none
    | ']' :: rest => some (joinSets flags pending part, rest)
    | '[' :: rest =>
      match readAsciiClass rest with
      | some (s, rest) => readClassItems flags fuel pending (.union part (caseOf flags s)) rest
      | none =>
        match readClass flags fuel rest with
        | some (s, rest) => readClassItems flags fuel pending (.union part s) rest
        | none => none
    | '&' :: '&' :: rest => readClassItems flags fuel (some (.inter, joinSets flags pending part)) .none rest
    | '-' :: '-' :: rest => readClassItems flags fuel (some (.diff, joinSets flags pending part)) .none rest
    | '~' :: '~' :: rest =>
      readClassItems flags fuel (some (.symmetric, joinSets flags pending part)) .none rest
    | cs =>
      match readClassRange flags cs with
      | some (s, rest) => readClassItems flags fuel pending (.union part s) rest
      | none => none
end

def setFlag (flags : Flags) (on : Bool) (c : Char) : Option Flags :=
  match c with
  | 'i' => some { flags with ignoreCase := on }
  | 'm' => some { flags with multiLine := on }
  | 's' => some { flags with dotNewline := on }
  | 'R' => some { flags with carriageReturn := on }
  | 'u' => some { flags with unicode := on }
  | 'x' => some { flags with spaced := on }
  | 'U' => some flags
  | _ => none

/-- The switches of a group up to the colon or parenthesis after them. A switch occurs once, a minus once
and not at the end. -/
def readFlags (flags : Flags) (on : Bool) (seen : List Char) : List Char → Option (Flags × List Char)
  | [] => none
  | '-' :: rest =>
    if !on then none
    else
      match rest with
      | ':' :: _ | ')' :: _ => none
      | _ => readFlags flags false seen rest
  | c :: rest =>
    if c == ':' || c == ')' then some (flags, c :: rest)
    else if seen.contains c then none
    else
      match setFlag flags on c with
      | some flags => readFlags flags on (c :: seen) rest
      | none => none

def isGroupName : List Char → Bool
  | [] => false
  | c :: rest =>
    (c == '_' || isAlphabetic c) &&
      rest.all fun c => c == '_' || c == '.' || c == '[' || c == ']' || isAlphanumeric c

/-- A decimal count below `2 ^ 32` with blanks around it. -/
def readCount (cs : List Char) : Option (Nat × List Char) :=
  let cs := cs.dropWhile isBlank
  let digits := cs.takeWhile Char.isDigit
  let n := natOfDigits digits
  if digits.isEmpty || 0x100000000 ≤ n then none else some (n, (cs.dropWhile Char.isDigit).dropWhile isBlank)

/-- A counted repetition after its brace: an exact count, a least one, or a least and a greatest one. -/
def readCounts (flags : Flags) (cs : List Char) : Option ((Nat × Option Nat) × List Char) := do
  let (least, rest) ← readCount (skipSpaces flags cs)
  match rest with
  | '\x7d' :: rest => some ((least, some least), rest)
  | ',' :: rest =>
    match skipSpaces flags rest with
    | '\x7d' :: rest => some ((least, none), rest)
    | rest =>
      let (most, rest) ← readCount rest
      match rest with
      | '\x7d' :: rest => if least ≤ most then some ((least, some most), rest) else none
      | _ => none
  | _ => none

/-- Drops the question mark that makes a repetition lazy: it does not change what matches. -/
def skipLazy : List Char → List Char
  | '?' :: rest => rest
  | cs => cs

/-- A sequence of parts read so far, in reverse. -/
def sequenceOf (parts : List PatternTree) : PatternTree :=
  match parts with
  | [] => .empty
  | [part] => part
  | _ => .sequence parts.reverse

/-- The alternatives read so far, in reverse. -/
def choiceOf (branches : List PatternTree) : PatternTree :=
  match branches with
  | [branch] => branch
  | _ => .choice branches.reverse

def literalTree (flags : Flags) (n : Nat) : Option PatternTree :=
  if !flags.unicode && 128 ≤ n then none else some (.chars (caseOf flags (.single n)))

/-- Any character but the end of a line. Without Unicode it would match single bytes and is refused. -/
def dotTree (flags : Flags) : Option PatternTree :=
  if !flags.unicode then none
  else if flags.dotNewline then some (.chars (.complement .none))
  else if flags.carriageReturn then some (.chars (.complement (.union (.single 10) (.single 13))))
  else some (.chars (.complement (.single 10)))

/-- What a group contributes: its tree, the switches for what follows, the rest, and the names used. -/
structure GroupRead where
  tree : PatternTree
  flags : Flags
  rest : List Char
  names : List (List Char)

/-- Repeats the last part read; switches cannot be repeated. -/
def repeatLast (parts : List PatternTree) (least : Nat) (most : Option Nat) : Option (List PatternTree) :=
  match parts with
  | [] | .empty :: _ => none
  | part :: before => some (.repetition part least most :: before)

mutual
/-- The alternatives of a group up to its parenthesis or the end. The switches stay in force across
alternatives. -/
def readBody : Nat → Flags → List (List Char) → List PatternTree → List PatternTree → List Char →
    Option (PatternTree × List Char × List (List Char))
  | 0, _, _, _, _, _ => none
  | fuel + 1, flags, names, branches, parts, cs =>
    match skipSpaces flags cs with
    | [] => some (choiceOf (sequenceOf parts :: branches), [], names)
    | ')' :: rest => some (choiceOf (sequenceOf parts :: branches), ')' :: rest, names)
    | '|' :: rest => readBody fuel flags names (sequenceOf parts :: branches) [] rest
    | '(' :: rest =>
      match readGroup fuel flags names (skipSpaces flags rest) with
      | some g => readBody fuel g.flags g.names branches (g.tree :: parts) g.rest
      | none => none
    | '[' :: rest =>
      match readClass flags fuel rest with
      | some (s, rest) => readBody fuel flags names branches (.chars s :: parts) rest
      | none => none
    | '*' :: rest =>
      match repeatLast parts 0 none with
      | some parts => readBody fuel flags names branches parts (skipLazy rest)
      | none => none
    | '+' :: rest =>
      match repeatLast parts 1 none with
      | some parts => readBody fuel flags names branches parts (skipLazy rest)
      | none => none
    | '?' :: rest =>
      match repeatLast parts 0 (some 1) with
      | some parts => readBody fuel flags names branches parts (skipLazy rest)
      | none => none
    | '\x7b' :: rest =>
      match readCounts flags rest with
      | some ((least, most), rest) =>
        match repeatLast parts least most with
        | some parts => readBody fuel flags names branches parts (skipLazy (skipSpaces flags rest))
        | none => none
      | none => none
    | '\\' :: rest =>
      match readEscape flags rest with
      | some (.literal n, rest) =>
        match literalTree flags n with
        | some t => readBody fuel flags names branches (t :: parts) rest
        | none => none
      | some (.set s, rest) => readBody fuel flags names branches (.chars s :: parts) rest
      | some (.look l, rest) => readBody fuel flags names branches (.look l :: parts) rest
      | none => none
    | '.' :: rest =>
      match dotTree flags with
      | some t => readBody fuel flags names branches (t :: parts) rest
      | none => none
    | '^' :: rest =>
      let l : Look := if flags.multiLine then .lineStart flags.carriageReturn else .textStart
      readBody fuel flags names branches (.look l :: parts) rest
    | '$' :: rest =>
      let l : Look := if flags.multiLine then .lineEnd flags.carriageReturn else .textEnd
      readBody fuel flags names branches (.look l :: parts) rest
    | c :: rest =>
      match literalTree flags c.toNat with
      | some t => readBody fuel flags names branches (t :: parts) rest
      | none => none

/-- A group after its parenthesis: switches alone, a group with switches, a named or a plain group. -/
def readGroup : Nat → Flags → List (List Char) → List Char → Option GroupRead
  | 0, _, _, _ => none
  | fuel + 1, flags, names, cs =>
    let body (inner : Flags) (names : List (List Char)) (cs : List Char) : Option GroupRead :=
      match readBody fuel inner names [] [] cs with
      | some (t, ')' :: rest, names) => some ⟨.group t, flags, rest, names⟩
      | _ => none
    let named (cs : List Char) : Option GroupRead :=
      let name := cs.takeWhile (· != '>')
      match cs.dropWhile (· != '>') with
      | _ :: rest =>
        if isGroupName name && !names.contains name then body flags (name :: names) rest else none
      | [] => none
    match cs with
    | '?' :: '=' :: _ | '?' :: '!' :: _ | '?' :: '<' :: '=' :: _ | '?' :: '<' :: '!' :: _ => none
    | '?' :: 'P' :: '<' :: rest => named rest
    | '?' :: '<' :: rest => named rest
    | '?' :: rest =>
      match readFlags flags true [] rest with
      | some (inner, ':' :: rest) => body inner names rest
      | some (inner, _ :: after) =>
        if rest.head? == some ')' then none else some ⟨.empty, inner, after, names⟩
      | _ => none
    | _ => body flags names cs
end

end PatternReader

/-- The tree of the pattern a text describes, if it is one. -/
def PatternTree.ofText? (source : String) : Option PatternTree :=
  let cs := source.toList
  match PatternReader.readBody (2 * cs.length + 2) .start [] [] [] cs with
  | some (tree, [], _) => if tree.depth ≤ 250 && tree.weight ≤ 300000 then some tree else none
  | _ => none

end GatedFlow
