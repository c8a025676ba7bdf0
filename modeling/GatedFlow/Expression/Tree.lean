import GatedFlow.Pattern.Basic
import GatedFlow.State.Path

/-! # The tree of a condition -/

namespace GatedFlow

inductive CompareOp where
  | eq
  | ne
  | lt
  | le
  | gt
  | ge
  | within
  | notWithin
  | contains
  deriving DecidableEq

/-- How an operator is written, which is how messages name it. -/
def CompareOp.symbol : CompareOp → String
  | eq => "=="
  | ne => "!="
  | lt => "<"
  | le => "<="
  | gt => ">"
  | ge => ">="
  | within => "in"
  | notWithin => "not in"
  | contains => "contains"

/-- A condition as a tree. Chains of `and` and of `or` are flat. -/
inductive Expr where
  | literal (v : Value)
  | list (items : List Expr)
  | path (segments : List Segment)
  | len (e : Expr)
  | not (e : Expr)
  | conj (terms : List Expr)
  | disj (terms : List Expr)
  | compare (op : CompareOp) (left right : Expr)
  | matching (e : Expr) (pattern : Pattern)

namespace Expr

mutual
/-- The height of a tree; a leaf has height one. -/
def height : Expr → Nat
  | literal _ => 1
  | path _ => 1
  | list items => heightOfAll items + 1
  | len e => e.height + 1
  | not e => e.height + 1
  | conj terms => heightOfAll terms + 1
  | disj terms => heightOfAll terms + 1
  | compare _ left right => max left.height right.height + 1
  | matching e _ => e.height + 1

def heightOfAll : List Expr → Nat
  | [] => 0
  | e :: rest => max e.height (heightOfAll rest)
end

end Expr
end GatedFlow
