import GatedFlow.Approval.Record
import GatedFlow.Config.Environment
import GatedFlow.Expression.Error
import GatedFlow.Graph.Violation
import GatedFlow.Store.Error

/-! # What can go wrong with a graph or a run -/

namespace GatedFlow

/-- Why a configuration cannot be used. -/
inductive ConfigError where
  | invalid (problem : ConfigProblem)
  | environment (problem : VariableProblem)
  deriving DecidableEq

def ConfigError.message : ConfigError → String
  | invalid problem => problem.message
  | environment problem => problem.message

/-- Why a graph cannot be drawn up or a run does not come to an outcome. -/
inductive FlowError where
  | violations (found : List Violation)
  | noNode (name : String)
  | noRequest (thread : String)
  | nodeFailed (node text : String)
  | approvalTimeout (thread node : String) (ms : Nat)
  | approval (error : ApprovalError)
  | expression (error : ExpressionError)
  | store (error : StoreError)
  | stepLimit (thread : String) (limit : Nat)
  | config (error : ConfigError)
  deriving DecidableEq

namespace FlowError

def message (name : Nat → String) : FlowError → String
  | violations found => "Graph validation failed: " ++ String.intercalate "; " (found.map Violation.message)
  | noNode node => s!"Node not found: {node}"
  | noRequest thread => s!"Approval request not found: {thread}"
  | nodeFailed node text => s!"Node '{node}' execution failed: {text}"
  | approvalTimeout thread node ms => s!"Approval for '{node}' on '{thread}' timed out after {ms}ms"
  | approval error => error.message name
  | expression error => "Invalid condition expression: " ++ error.message
  | store error => "State error: " ++ error.message
  | stepLimit thread limit => s!"Step limit of {limit} exceeded on thread '{thread}'"
  | config error => "Configuration error: " ++ error.message

/-- The name of the kind of an error; an error that was passed on keeps its own. -/
def code : FlowError → String
  | violations _ => "Validation"
  | noNode _ => "NotFound"
  | noRequest _ => "NotFound"
  | nodeFailed .. => "NodeExecution"
  | approvalTimeout .. => "ApprovalTimeout"
  | approval error => error.code
  | expression error => "Expression." ++ error.code
  | store error => "State." ++ error.code
  | stepLimit .. => "StepLimitExceeded"
  | config _ => "Configuration"

/-- Whether the error only says that something is not there. -/
def isAbsence : FlowError → Bool
  | noNode _ => true
  | noRequest _ => true
  | store error => error.isAbsence
  | _ => false

def violations? : FlowError → List Violation
  | violations found => found
  | _ => []

end FlowError
end GatedFlow
