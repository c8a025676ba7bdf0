import GatedFlow.Expression.Error
import GatedFlow.Json.Reader
import GatedFlow.Text.Blank
import GatedFlow.Text.Letters

/-! # Splitting a condition into tokens

`lexeme` reads the token at the start of a text and says how many characters it takes; `scan` walks over the
source once and skips the characters of each token. Positions count characters from zero. -/

namespace GatedFlow

namespace Lexer

def startsWord (c : Char) : Bool := isAlphabetic c || c == '_'

def continuesWord (c : Char) : Bool := isAlphanumeric c || c == '_'

def continuesNumber (c : Char) : Bool := c.isDigit || c == '.'

/-- The contents of a string after its opening quote and the number of characters up to and including the
closing one. A backslash stands for the character after it, apart from `\n` and `\t`. -/
def stringBody (quote : Char) (gathered : List Char) (count : Nat) : List Char → Option (List Char × Nat)
  | [] => none
  | '\\' :: c :: rest =>
    let meant := if c = 'n' then '\n' else if c = 't' then '\t' else c
    stringBody quote (meant :: gathered) (count + 2) rest
  | c :: rest =>
    if c = '\\' then none
    else if c = quote then some (gathered.reverse, count + 1)
    else stringBody quote (c :: gathered) (count + 1) rest

/-- A decimal without exponent: digits with at most one point among them. -/
def readDecimal? (text : List Char) : Option Double :=
  let (negative, text) := match text with
    | '-' :: rest => (true, rest)
    | _ => (false, text)
  let whole := text.takeWhile Char.isDigit
  let fraction? := match text.dropWhile Char.isDigit with
    | [] => some []
    | '.' :: rest => if rest.all Char.isDigit then some rest else none
    | _ => none
  match fraction? with
  | none => none
  | some fraction =>
    if whole.isEmpty && fraction.isEmpty then none
    else Double.ofDecimal? negative (natOfDigits (whole ++ fraction)) (-(fraction.length : Int))

/-- A whole number in the signed 64-bit range. -/
def readInt64? (text : List Char) : Option Int :=
  let (negative, digits) := match text with
    | '-' :: rest => (true, rest)
    | _ => (false, text)
  if digits.isEmpty || !digits.all Char.isDigit then none
  else
    let n := natOfDigits digits
    if negative then if n ≤ signedLimit then some (-n) else none
    else if n < signedLimit then some n else none

/-- The number a literal stands for: whole if it fits a signed 64-bit word, else binary64. -/
def readNumber? (text : List Char) : Option Number :=
  match readInt64? text with
  | some i => some (.int i)
  | none => (readDecimal? text).map .float

/-- The token at the start of a text that is not blank there, and its number of characters. -/
def lexeme (pos : Nat) : List Char → Except ExpressionError (Token × Nat)
  | [] => .error (.unexpectedEnd .endOfSource)
  | '(' :: _ => .ok (.parenOpen, 1)
  | ')' :: _ => .ok (.parenClose, 1)
  | '[' :: _ => .ok (.bracketOpen, 1)
  | ']' :: _ => .ok (.bracketClose, 1)
  | ',' :: _ => .ok (.comma, 1)
  | '.' :: _ => .ok (.dot, 1)
  | '=' :: '=' :: _ => .ok (.equal, 2)
  | '!' :: '=' :: _ => .ok (.notEqual, 2)
  | '!' :: _ => .ok (.bang, 1)
  | '<' :: '=' :: _ => .ok (.lessEqual, 2)
  | '<' :: _ => .ok (.less, 1)
  | '>' :: '=' :: _ => .ok (.greaterEqual, 2)
  | '>' :: _ => .ok (.greater, 1)
  | '&' :: '&' :: _ => .ok (.andAnd, 2)
  | '|' :: '|' :: _ => .ok (.orOr, 2)
  | c :: rest =>
    if c = '"' ∨ c = '\'' then
      match stringBody c [] 1 rest with
      | some (content, count) => .ok (.string (String.ofList content), count)
      | none => .error (.unterminatedString pos)
    else if c = '-' ∨ c.isDigit then
      let text := c :: rest.takeWhile continuesNumber
      match readNumber? text with
      | some n => .ok (.number n, text.length)
      | none => .error (.invalidNumber pos (String.ofList text))
    else if startsWord c then
      let name := c :: rest.takeWhile continuesWord
      .ok (.word (String.ofList name), name.length)
    else .error (.unexpectedChar pos c)

/-- Gathers the tokens of a text in reverse; `skip` characters belong to the token before. -/
def scan (pos skip : Nat) (gathered : List Placed) : List Char → Except ExpressionError (List Placed)
  | [] => .ok gathered.reverse
  | c :: rest =>
    match skip with
    | skip + 1 => scan (pos + 1) skip gathered rest
    | 0 =>
      if isBlank c then scan (pos + 1) 0 gathered rest
      else
        match lexeme pos (c :: rest) with
        | .error e => .error e
        | .ok (token, count) => scan (pos + 1) (count - 1) (⟨pos, token⟩ :: gathered) rest

end Lexer

def tokenize (source : String) : Except ExpressionError (List Placed) := Lexer.scan 0 0 [] source.toList

end GatedFlow
