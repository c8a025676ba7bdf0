import GatedFlow.Expression.Token

/-! # What can be wrong with a condition

Reading a condition fails with an `ExpressionError`; evaluating one fails with a `PredicateError`, which
host tests share. -/

namespace GatedFlow

/-- What the reader of conditions looked for. -/
inductive Wanted where
  | token (t : Token)
  | operand
  | fieldName
  | keyOrIndex
  | patternLiteral
  | separator
  | closingBracket
  | endOfSource
  deriving DecidableEq

def Wanted.text : Wanted → String
  | token t => t.text
  | operand => "operand"
  | fieldName => "field name"
  | keyOrIndex => "string key or index"
  | patternLiteral => "regex string literal"
  | separator => "',' or ']'"
  | closingBracket => "']'"
  | endOfSource => "end of expression"

/-- How many levels of parentheses, lists, `len(` and negations may nest. -/
def maxDepth : Nat := 128

/-- Why a source is not a condition. -/
inductive ExpressionError where
  | unexpectedChar (pos : Nat) (c : Char)
  | unterminatedString (pos : Nat)
  | invalidNumber (pos : Nat) (text : String)
  | unexpectedToken (pos : Nat) (wanted : Wanted) (found : Token)
  | unexpectedEnd (wanted : Wanted)
  | unknownIdentifier (name : String)
  | invalidPattern (source : String)
  | tooDeep
  deriving DecidableEq

def ExpressionError.message : ExpressionError → String
  | unexpectedChar pos c => s!"Unexpected character '{c}' at position {pos}"
  | unterminatedString pos => s!"Unterminated string starting at position {pos}"
  | invalidNumber pos text => s!"Invalid number '{text}' at position {pos}"
  | unexpectedToken pos wanted found =>
    "Expected " ++ wanted.text ++ " at position " ++ toString pos ++ ", found " ++ found.text
  | unexpectedEnd wanted => "Unexpected end of expression, expected " ++ wanted.text
  | unknownIdentifier name => s!"Unknown identifier '{name}', only 'state' is in scope"
  | invalidPattern source => s!"Invalid regex '{source}'"
  | tooDeep => s!"Expression nests deeper than {maxDepth} levels"

def ExpressionError.code : ExpressionError → String
  | unexpectedChar .. => "UnexpectedChar"
  | unterminatedString _ => "UnterminatedString"
  | invalidNumber .. => "InvalidNumber"
  | unexpectedToken .. => "UnexpectedToken"
  | unexpectedEnd _ => "UnexpectedEnd"
  | unknownIdentifier _ => "UnknownIdentifier"
  | invalidPattern _ => "InvalidRegex"
  | tooDeep => "TooDeep"

/-- Why a question about a state has no answer. -/
inductive PredicateError where
  | typeMismatch (operation left right : String)
  | panicked (text : String)
  | failed (text : String)
  deriving DecidableEq

def PredicateError.message : PredicateError → String
  | typeMismatch operation left right => s!"Type mismatch in '{operation}': {left} vs {right}"
  | panicked text => s!"Predicate panicked: {text}"
  | failed text => s!"Predicate failed: {text}"

def PredicateError.code : PredicateError → String
  | typeMismatch .. => "TypeMismatch"
  | panicked _ => "Panicked"
  | failed _ => "Failed"

end GatedFlow
