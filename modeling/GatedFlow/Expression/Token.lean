import GatedFlow.Json.Value

/-! # Tokens of a condition -/

namespace GatedFlow

inductive Token where
  | number (n : Number)
  | string (s : String)
  | word (name : String)
  | parenOpen
  | parenClose
  | bracketOpen
  | bracketClose
  | comma
  | dot
  | equal
  | notEqual
  | less
  | lessEqual
  | greater
  | greaterEqual
  | andAnd
  | orOr
  | bang
  deriving DecidableEq

def Token.text : Token → String
  | number n => "number " ++ n.text
  | string s => "string \"" ++ s ++ "\""
  | word name => "'" ++ name ++ "'"
  | parenOpen => "'('"
  | parenClose => "')'"
  | bracketOpen => "'['"
  | bracketClose => "']'"
  | comma => "','"
  | dot => "'.'"
  | equal => "'=='"
  | notEqual => "'!='"
  | less => "'<'"
  | lessEqual => "'<='"
  | greater => "'>'"
  | greaterEqual => "'>='"
  | andAnd => "'&&'"
  | orOr => "'||'"
  | bang => "'!'"

/-- A token with the position of its first character. -/
structure Placed where
  pos : Nat
  token : Token
  deriving DecidableEq

end GatedFlow
