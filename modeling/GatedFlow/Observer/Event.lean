import GatedFlow.Approval.Record
import GatedFlow.Expression.Error

/-! # Events -/

namespace GatedFlow

inductive PredicateSite where
  | edge
  | route
  | interrupt
  deriving DecidableEq

namespace PredicateSite

def title : PredicateSite → String
  | edge => "Edge"
  | route => "Route"
  | interrupt => "Interrupt"

def ofWord? : String → Option PredicateSite
  | "edge" => some edge
  | "route" => some route
  | "interrupt" => some interrupt
  | _ => none

end PredicateSite

/-- What observers are told. -/
inductive Event where
  | nodeEntered (thread node : String)
  | edgeTraversed (thread source target : String)
  | interruptRaised (thread node reason : String)
  | approvalResolved (thread node : String) (status : ApprovalStatus)
  | predicateFailed (site : PredicateSite) (name : String) (error : PredicateError)
  deriving DecidableEq

end GatedFlow
