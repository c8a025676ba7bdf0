import GatedFlow.Expression.Tree
import GatedFlow.Pattern.Engine

/-! # The JSON form of condition trees

A tree is written as an array that starts with the kind of its root. Programs that exchange conditions in this form have
their patterns compiled by the engine of runs. -/

namespace GatedFlow

/-- A segment of a path: a text or a number. -/
def Segment.toValue : Segment → Value
  | key name => .string name
  | index position => .int position

def CompareOp.title : CompareOp → String
  | eq => "Eq"
  | ne => "Ne"
  | lt => "Lt"
  | le => "Le"
  | gt => "Gt"
  | ge => "Ge"
  | within => "In"
  | notWithin => "NotIn"
  | contains => "Contains"

namespace Expr

mutual
def toValue : Expr → Value
  | literal v => .array [.string "literal", v]
  | list items => .array [.string "list", .array (toValues items)]
  | path segments => .array [.string "path", .array (segments.map Segment.toValue)]
  | len e => .array [.string "len", e.toValue]
  | not e => .array [.string "not", e.toValue]
  | conj terms => .array [.string "and", .array (toValues terms)]
  | disj terms => .array [.string "or", .array (toValues terms)]
  | compare op left right => .array [.string op.title, left.toValue, right.toValue]
  | matching e p => .array [.string "matches", e.toValue, .string p.source]

def toValues : List Expr → List Value
  | [] => []
  | e :: rest => e.toValue :: toValues rest
end

end Expr
end GatedFlow
