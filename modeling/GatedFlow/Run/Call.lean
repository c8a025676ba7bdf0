import GatedFlow.Approval.Desk
import GatedFlow.Edits.Basic
import GatedFlow.Graph.Basic

/-! # Calls of a run

A run works through calls: edits of the thread, questions to the approval desk, news for the observers, waiting
for a decision, and the graph's own business of carrying out a node and choosing what comes next. Each call is one
step that nothing else can come between. -/

namespace GatedFlow

/-- A call of a run, by the type of its answer. -/
inductive RunCall : Type → Type 1 where
  | edit {α : Type} (e : Edit α) : RunCall (Except StoreError α)
  | askReason (s : State) (node : String) : RunCall (Option GateReason)
  | createRequest (thread node reason : String) (timeout : Option Nat) : RunCall Request
  | currentRequest (thread : String) : RunCall (Option Request)
  | latest (r : Request) : RunCall Request
  | cancelRequest (thread : String) : RunCall Unit
  | await (r : Request) (limit : Option Nat) : RunCall (Except FlowError ApprovalStatus)
  | tell (events : List Event) : RunCall Unit
  | execute (g : Graph) (node : String) (s : State) : RunCall (Except FlowError Fields)
  | next (g : Graph) (node : String) (s : State) : RunCall (Except FlowError (List String))

/-- A program of such calls that may end with an error. -/
abbrev Run (α : Type) := ExceptT FlowError (Program RunCall) α

namespace Run

variable {α : Type}

def ofCall (call : RunCall α) : Run α := ExceptT.mk (.ask call fun a => .done (.ok a))

/-- The run of one call that may fail. -/
def ofTry (call : RunCall (Except FlowError α)) : Run α := ExceptT.mk (Program.call call)

def ofEdit (e : Edit α) : Run α := ExceptT.mk (.ask (.edit e) fun r => .done (r.mapError .store))

/-- The run without calls that ends this way. -/
def ofExcept (r : Except FlowError α) : Run α := ExceptT.mk (.done r)

end Run
end GatedFlow
