import GatedFlow.Expression.Parser

/-! # Evaluating a condition

A path that leads nowhere is `null`. Equality compares numbers by value; ordering needs two numbers or two
strings; `in` and `contains` look into arrays, strings and the keys of objects. Chains stop at the first
term that decides them, and an error of a term that is reached is the error of the whole. -/

namespace GatedFlow

/-- The error of an operation on two values it is not meant for. -/
def mismatch (operation : String) (left right : Value) : PredicateError :=
  .typeMismatch operation left.kindName right.kindName

/-- The order of two numbers or two strings. -/
def orderValues (op : CompareOp) : Value → Value → Except PredicateError Ordering
  | .number m, .number n => .ok (compare m.toDouble.units n.toDouble.units)
  | .string s, .string t => .ok (if s < t then .lt else if s = t then .eq else .gt)
  | left, right => .error (mismatch op.symbol left right)

def occursIn (needle : List Char) : List Char → Bool
  | [] => needle.isEmpty
  | c :: rest => needle.isPrefixOf (c :: rest) || occursIn needle rest

/-- Whether a value is in another: an item of an array, a part of a string, a key of an object. -/
def memberOf (op : CompareOp) : Value → Value → Except PredicateError Bool
  | needle, .array items => .ok (items.any fun item => item.agrees needle)
  | .string needle, .string text => .ok (occursIn needle.toList text.toList)
  | .string key, .object fields => .ok (findEntry key fields).isSome
  | needle, place => .error (mismatch op.symbol needle place)

def CompareOp.apply (op : CompareOp) (left right : Value) : Except PredicateError Bool :=
  match op with
  | .eq => .ok (left.agrees right)
  | .ne => .ok (!left.agrees right)
  | .lt => (orderValues op left right).map (· == .lt)
  | .le => (orderValues op left right).map (· != .gt)
  | .gt => (orderValues op left right).map (· == .gt)
  | .ge => (orderValues op left right).map (· != .lt)
  | .within => memberOf op left right
  | .notWithin => (memberOf op left right).map (!·)
  | .contains => memberOf op right left

/-- The length of a value: `null` has length zero, a string counts characters. -/
def lengthOf : Value → Except PredicateError Nat
  | .null => .ok 0
  | .string s => .ok s.length
  | .array items => .ok items.length
  | .object fields => .ok fields.length
  | v => .error (mismatch "len" v .null)

def matchesPattern (p : Pattern) : Value → Except PredicateError Bool
  | .string s => .ok (p.isMatch s)
  | v => .error (mismatch "matches" v (.string p.source))

namespace Expr

mutual
def eval (s : State) : Expr → Except PredicateError Value
  | literal v => .ok v
  | path segments => .ok ((s.resolve? segments).getD .null)
  | list items => (evalItems s items).map .array
  | len e => do
    let v ← e.eval s
    let n ← lengthOf v
    return .int n
  | not e => do
    let v ← e.eval s
    return .bool !v.truthy
  | conj terms => (evalConj s terms).map .bool
  | disj terms => (evalDisj s terms).map .bool
  | compare op left right => do
    let l ← left.eval s
    let r ← right.eval s
    return .bool (← op.apply l r)
  | matching e p => do
    let v ← e.eval s
    return .bool (← matchesPattern p v)

def evalItems (s : State) : List Expr → Except PredicateError (List Value)
  | [] => .ok []
  | e :: rest => do
    let v ← e.eval s
    return v :: (← evalItems s rest)

/-- Whether all terms are true, up to the first that is not. -/
def evalConj (s : State) : List Expr → Except PredicateError Bool
  | [] => .ok true
  | e :: rest => do
    let v ← e.eval s
    if v.truthy then evalConj s rest else return false

/-- Whether a term is true, up to the first that is. -/
def evalDisj (s : State) : List Expr → Except PredicateError Bool
  | [] => .ok false
  | e :: rest => do
    let v ← e.eval s
    if v.truthy then return true else evalDisj s rest
end

end Expr

namespace Expression

def value (e : Expression) (s : State) : Except PredicateError Value := e.tree.eval s

/-- Whether a condition holds in a state, by the truth of its value. -/
def holds (e : Expression) (s : State) : Except PredicateError Bool := (e.value s).map Value.truthy

end Expression
end GatedFlow
