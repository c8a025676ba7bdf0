/-! # 64-bit words

An unsigned word lies below `wordCount`, a signed one between `-signedLimit` and one below `signedLimit`. An
unsigned word is read from decimal digits after an optional plus sign. The digits are taken from left to
right, so of a stray character and an overflow the one that comes first is reported. -/

namespace GatedFlow

/-- The number of 64-bit words, `2 ^ 64`. -/
def wordCount : Nat := 0x10000000000000000

/-- The number of signed 64-bit words from zero on, `2 ^ 63`. -/
def signedLimit : Nat := 0x8000000000000000

/-- Why a text is not an unsigned 64-bit word. -/
inductive WordProblem where
  | empty
  | strayCharacter
  | tooLarge
  deriving DecidableEq

def WordProblem.message : WordProblem → String
  | empty => "cannot parse integer from empty string"
  | strayCharacter => "invalid digit found in string"
  | tooLarge => "number too large to fit in target type"

/-- Goes on with the digits of a word after those that `value` stands for. -/
def readWordFrom (value : Nat) : List Char → Except WordProblem Nat
  | [] => .ok value
  | c :: rest =>
    if c.isDigit then
      let value := 10 * value + (c.toNat - '0'.toNat)
      if value < wordCount then readWordFrom value rest else .error .tooLarge
    else .error .strayCharacter

def readWord : List Char → Except WordProblem Nat
  | [] => .error .empty
  | ['+'] => .error .strayCharacter
  | '+' :: digits => readWordFrom 0 digits
  | digits => readWordFrom 0 digits

end GatedFlow
