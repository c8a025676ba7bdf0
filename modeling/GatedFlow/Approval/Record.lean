/-! # Approval records

What is known about a request for approval: who asked for what, how it stands and who decided. The types of
ids and times are left open, since a record is kept in memory with numbers and written with texts. -/

namespace GatedFlow

inductive ApprovalStatus where
  | pending
  | approved
  | rejected
  | timeout
  deriving DecidableEq

namespace ApprovalStatus

def isTerminal : ApprovalStatus → Bool
  | pending => false
  | _ => true

def word : ApprovalStatus → String
  | pending => "pending"
  | approved => "approved"
  | rejected => "rejected"
  | timeout => "timeout"

def ofWord? : String → Option ApprovalStatus
  | "pending" => some pending
  | "approved" => some approved
  | "rejected" => some rejected
  | "timeout" => some timeout
  | _ => none

def title : ApprovalStatus → String
  | pending => "Pending"
  | approved => "Approved"
  | rejected => "Rejected"
  | timeout => "Timeout"

end ApprovalStatus

/-- What is known about a request. -/
structure ApprovalRecord (Id Time : Type) where
  id : Id
  thread : String
  node : String
  reason : String
  timeoutMs : Option Nat
  status : ApprovalStatus
  approver : Option String
  rejecter : Option String
  comment : Option String
  createdAt : Time
  resolvedAt : Option Time
  deriving DecidableEq

/-- A request does not stand the way an action needs it. -/
inductive ApprovalError where
  | alreadyResolved (request : Nat) (status : ApprovalStatus)
  | notApproved (request : Nat) (status : ApprovalStatus)
  deriving DecidableEq

def ApprovalError.request : ApprovalError → Nat
  | alreadyResolved request _ => request
  | notApproved request _ => request

def ApprovalError.code : ApprovalError → String
  | alreadyResolved .. => "AlreadyResolved"
  | notApproved .. => "NotApproved"

def ApprovalError.message (name : Nat → String) : ApprovalError → String
  | alreadyResolved request status => s!"Approval request {name request} is already {status.title}"
  | notApproved request status => s!"Approval request {name request} is {status.title}, not approved"

end GatedFlow
