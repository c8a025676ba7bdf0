import GatedFlow.Number.Shortest
import GatedFlow.Number.Word

/-! # JSON values

Numbers keep their kind: an integer literal stays an integer, any other literal is a binary64 number.
Objects are lists of entries in key order. Two equalities live here: `Value.same` is structural and tells
`1` from `1.0`; `Value.agrees` compares numbers by their binary64 value, also inside arrays, and everything
else structurally. -/

namespace GatedFlow

/-- A number: a whole one written as such, or a binary64 number. -/
inductive Number where
  | int (value : Int)
  | float (value : Double)
  deriving DecidableEq

namespace Number

def toDouble : Number → Double
  | int i => Double.ofInt i
  | float x => x

def text : Number → String
  | int i => toString i
  | float x => DecimalStyle.json.text x

/-- Same kind and same value; the two float zeros are the same. -/
def same : Number → Number → Bool
  | int i, int j => i == j
  | float x, float y => x.same y
  | _, _ => false

/-- A whole number that fits a signed 64-bit word. -/
def toInt64? : Number → Option Int
  | int i => if -(signedLimit : Int) ≤ i ∧ i < (signedLimit : Int) then some i else none
  | float _ => none

def toNat? : Number → Option Nat
  | int i => if 0 ≤ i then some i.toNat else none
  | float _ => none

end Number

inductive Value where
  | null
  | bool (b : Bool)
  | number (n : Number)
  | string (s : String)
  | array (items : List Value)
  | object (fields : List (String × Value))
  deriving Inhabited

namespace Value

/-- The whole number `i` as a value. -/
def int (i : Int) : Value := .number (.int i)

def kindName : Value → String
  | null => "null"
  | bool _ => "bool"
  | number _ => "number"
  | string _ => "string"
  | array _ => "array"
  | object _ => "object"

/-- Whether a value counts as true: `null`, `false`, zero and everything empty do not. -/
def truthy : Value → Bool
  | null => false
  | bool b => b
  | number n => !n.toDouble.isZero
  | string s => !s.isEmpty
  | array items => !items.isEmpty
  | object fields => !fields.isEmpty

def asString? : Value → Option String
  | string s => some s
  | _ => none

def asDouble? : Value → Option Double
  | number n => some n.toDouble
  | _ => none

mutual
/-- Structural equality; float zeros of either sign are the same number. -/
def same : Value → Value → Bool
  | null, null => true
  | bool a, bool b => a == b
  | number m, number n => m.same n
  | string s, string t => s == t
  | array xs, array ys => sameItems xs ys
  | object xs, object ys => sameFields xs ys
  | _, _ => false

def sameItems : List Value → List Value → Bool
  | [], [] => true
  | x :: xs, y :: ys => same x y && sameItems xs ys
  | _, _ => false

def sameFields : List (String × Value) → List (String × Value) → Bool
  | [], [] => true
  | (k, x) :: xs, (l, y) :: ys => k == l && same x y && sameFields xs ys
  | _, _ => false
end

mutual
/-- Equality with numbers compared by value, at any depth of arrays; objects are compared structurally. -/
def agrees : Value → Value → Bool
  | number m, number n => m.toDouble.same n.toDouble
  | array xs, array ys => agreesItems xs ys
  | v, w => same v w

/-- Arrays agree when they have the same length and agree item by item. -/
def agreesItems : List Value → List Value → Bool
  | [], [] => true
  | x :: xs, y :: ys => agrees x y && agreesItems xs ys
  | _, _ => false
end

end Value
end GatedFlow
