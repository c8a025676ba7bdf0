import GatedFlow.Json.Value

/-! # The compact text of a JSON value

No blanks between tokens. In strings the quote, the backslash and the control characters are escaped, the
latter with a short escape where JSON has one; every other character stands for itself. -/

namespace GatedFlow

def hexDigit (n : Nat) : Char := if n < 10 then Char.ofNat (48 + n) else Char.ofNat (87 + n)

def escapeJsonChar (c : Char) : List Char :=
  if c = '"' then ['\\', '"']
  else if c = '\\' then ['\\', '\\']
  else if c = '\n' then ['\\', 'n']
  else if c = '\r' then ['\\', 'r']
  else if c = '\t' then ['\\', 't']
  else if c.toNat = 8 then ['\\', 'b']
  else if c.toNat = 12 then ['\\', 'f']
  else if c.toNat < 32 then ['\\', 'u', '0', '0', hexDigit (c.toNat / 16), hexDigit (c.toNat % 16)]
  else [c]

def quoteJson (s : String) : String :=
  String.ofList ('"' :: s.toList.flatMap escapeJsonChar ++ ['"'])

namespace Value

mutual
def text : Value → String
  | null => "null"
  | bool b => if b then "true" else "false"
  | number n => n.text
  | string s => quoteJson s
  | array items => "[" ++ itemsText items ++ "]"
  | object fields => "\x7b" ++ fieldsText fields ++ "\x7d"

def itemsText : List Value → String
  | [] => ""
  | [v] => v.text
  | v :: rest => v.text ++ "," ++ itemsText rest

def fieldsText : List (String × Value) → String
  | [] => ""
  | [(k, v)] => quoteJson k ++ ":" ++ v.text
  | (k, v) :: rest => quoteJson k ++ ":" ++ v.text ++ "," ++ fieldsText rest
end

end Value
end GatedFlow
