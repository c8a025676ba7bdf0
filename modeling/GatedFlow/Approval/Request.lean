import GatedFlow.Approval.Record
import GatedFlow.Number.Word

/-! # Approval requests

A request is decided once, by approval, rejection or expiry; every later attempt fails with the status it
already has. The timeout of the request itself is exact, the one in its record is a 64-bit word. -/

namespace GatedFlow

/-- A request with what its record does not show: the exact timeout in milliseconds and the registry whose
observers are told of the decision. -/
structure Request where
  record : ApprovalRecord Nat Nat
  timeout : Option Nat
  registry : Option Nat
  deriving DecidableEq

/-- A decision about a request. -/
inductive Decision where
  | approve (approver : String) (comment : Option String)
  | reject (rejecter : String) (comment : Option String)
  | expire
  deriving DecidableEq

namespace Decision

def status : Decision → ApprovalStatus
  | approve .. => .approved
  | reject .. => .rejected
  | expire => .timeout

def approver? : Decision → Option String
  | approve approver _ => some approver
  | _ => none

def rejecter? : Decision → Option String
  | reject rejecter _ => some rejecter
  | _ => none

def comment? : Decision → Option String
  | approve _ comment => comment
  | reject _ comment => comment
  | expire => none

def cancel : Decision := .reject "system" (some "cancelled")

end Decision

namespace Request

def ofParts (id now : Nat) (thread node reason : String) (timeout registry : Option Nat) : Request where
  record := {
    id, thread, node, reason
    timeoutMs := timeout.map (· % wordCount)
    status := .pending
    approver := none
    rejecter := none
    comment := none
    createdAt := now
    resolvedAt := none }
  timeout
  registry

def status (r : Request) : ApprovalStatus := r.record.status

def isPending (r : Request) : Bool := r.status == .pending

/-- A decision about a request that has none; parts of the record that the decision does not bring stay. -/
def resolve (r : Request) (d : Decision) (now : Nat) : Except ApprovalError Request :=
  if r.status.isTerminal then .error (.alreadyResolved r.record.id r.status)
  else .ok { r with record := { r.record with
    status := d.status
    approver := d.approver?.or r.record.approver
    rejecter := d.rejecter?.or r.record.rejecter
    comment := d.comment?.or r.record.comment
    resolvedAt := some now } }

/-- Whether a request still waits although its own timeout has passed. -/
def isOverdue (r : Request) (now : Nat) : Bool :=
  r.isPending && r.timeout.any fun limit => r.record.createdAt + limit ≤ now

end Request
end GatedFlow
