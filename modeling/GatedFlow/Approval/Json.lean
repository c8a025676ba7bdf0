import GatedFlow.Approval.Record
import GatedFlow.Json.Layout

/-! # The JSON form of approval records

How ids and times are written is left open. -/

namespace GatedFlow
namespace ApprovalRecord

variable {Id Time : Type}

/-- The JSON form of a record; what is not known is left out. -/
def toValue (ids : TextForm Id) (times : TextForm Time) (r : ApprovalRecord Id Time) : Value :=
  .ofFields ([("request_id", ids.toValue r.id), ("state_id", .string r.thread), ("node_name", .string r.node),
      ("reason", .string r.reason), ("status", .string r.status.word), ("created_at", times.toValue r.createdAt)] ++
    writtenIf "timeout_ms" (fun (n : Nat) => Value.int n) r.timeoutMs ++
    writtenIf "approver" Value.string r.approver ++ writtenIf "rejecter" Value.string r.rejecter ++
    writtenIf "comment" Value.string r.comment ++ writtenIf "resolved_at" times.toValue r.resolvedAt)

def ofValue? (ids : TextForm Id) (times : TextForm Time) (v : Value) : Option (ApprovalRecord Id Time) := do
  guard (v.isRecord 11)
  return {
    id := ← v.required? 0 "request_id" ids.ofValue?
    thread := ← v.required? 1 "state_id" Value.asString?
    node := ← v.required? 2 "node_name" Value.asString?
    reason := ← v.required? 3 "reason" Value.asString?
    timeoutMs := ← v.optional? 4 "timeout_ms" Value.asWord?
    status := ← v.required? 5 "status" (Value.asWordOf? ApprovalStatus.ofWord?)
    approver := ← v.optional? 6 "approver" Value.asString?
    rejecter := ← v.optional? 7 "rejecter" Value.asString?
    comment := ← v.optional? 8 "comment" Value.asString?
    createdAt := ← v.required? 9 "created_at" times.ofValue?
    resolvedAt := ← v.optional? 10 "resolved_at" times.ofValue? }

end ApprovalRecord
end GatedFlow
