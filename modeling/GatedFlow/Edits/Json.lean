import GatedFlow.Edits.Operation
import GatedFlow.Json.Layout

/-! # The JSON form of operations

The form names the kind of operation under `type`; as an array it starts with the kind. -/

namespace GatedFlow
namespace Operation

def toValue : Operation → Value
  | update field value => .ofFields [("type", .string "update"), ("field", .string field), ("value", value)]
  | delete field => .ofFields [("type", .string "delete"), ("field", .string field)]
  | append field value => .ofFields [("type", .string "append"), ("field", .string field), ("value", value)]

def ofValue? (v : Value) : Option Operation := do
  let kind ← v.required? 0 "type" fun w => w.asString?.bind ChangeKind.ofWord?
  let field ← v.required? 1 "field" Value.asString?
  match kind with
  | .delete =>
    guard (v.isRecord 2)
    return delete field
  | .update =>
    guard (v.isRecord 3)
    return update field (← v.required? 2 "value" some)
  | .append =>
    guard (v.isRecord 3)
    return append field (← v.required? 2 "value" some)

end Operation
end GatedFlow
