import GatedFlow.Edits.Command
import GatedFlow.Run.Call

/-! # Runs

A run works off a list of nodes, the frontier, for one thread. Each node is carried out on the thread's stored
state, its update is merged into it, and the nodes it leads to join the frontier unless they wait there
already. Before a node that needs approval the run either keeps its frontier in the state and returns, or
waits for the decision. `resume` goes on with a frontier that was kept. -/

namespace GatedFlow

/-- The field that keeps the frontier of a paused run. -/
def pendingField : String := "_pending_nodes"

/-- What runs are carried out with. -/
structure Engine where
  graph : Graph
  config : Config
  rules : EditRules
  /-- The registry of the observers of the graph. -/
  registry : Nat

inductive Outcome where
  | completed (state : State) (visited : List String)
  | interrupted (node : String) (request : Request)
  | rejected (node : String) (request : Request)

/-- What a thread that is to be resumed has come to before any node: the end of its run, or an approved node and the
frontier to go on with. -/
inductive Resumption where
  | ended (outcome : Outcome)
  | ready (node : String) (frontier : List String)

def frontierValue (frontier : List String) : Value := .array (frontier.map .string)

/-- The frontier that a state keeps; what is no string in it is skipped. -/
def keptFrontier (s : State) : List String :=
  match s.get? pendingField with
  | some (.array items) => items.filterMap Value.asString?
  | _ => []

/-- Nodes join a frontier in order unless they are there already. -/
def joinFrontier (frontier targets : List String) : List String :=
  targets.foldl (fun f t => if t ∈ f then f else f ++ [t]) frontier

namespace Engine

def tell (events : List Event) : Run Unit := Run.ofCall (.tell events)

def keep (E : Engine) (thread : String) (frontier : List String) : Edit State :=
  Edit.modify E.rules.schema thread (Record.empty.insert pendingField (frontierValue frontier))

/-- Keeps the frontier of a run that stops before a node in the thread's state and marks the thread. -/
def pause (E : Engine) (thread node : String) (rest : List String) (request : Request) : Run Outcome := do
  let _ ← Run.ofEdit (E.keep thread (node :: rest))
  let _ ← Run.ofEdit (Edit.setStatus E.rules.schema thread pausedStatus)
  return .interrupted node (← Run.ofCall (.latest request))

/-- Waits for the decision about a node; the answer is the outcome of a run that was refused. -/
def awaitDecision (thread node : String) (request : Request) : Run (Option Outcome) := do
  match ← Run.ofTry (.await request none) with
  | .approved =>
    Run.ofCall (.cancelRequest thread)
    return none
  | _ => return some (.rejected node (← Run.ofCall (.latest request)))

/-- Asks whether a node needs approval, and gets it where the run waits. The answer is the outcome of a run
that stops here. -/
def gate (E : Engine) (thread node : String) (s : State) (rest : List String) : Run (Option Outcome) := do
  match ← Run.ofCall (.askReason s node) with
  | none => return none
  | some reason =>
    let request ← Run.ofCall (.createRequest thread node reason.message E.config.timeout?)
    match E.config.mode with
    | .pause => return some (← E.pause thread node rest request)
    | .wait => awaitDecision thread node request

/-- The gate of a node that passes it unasked where it is `free`. -/
def passGate (E : Engine) (thread node : String) (s : State) (rest : List String) (free : Bool) : Run (Option Outcome) :=
  if free then pure none else E.gate thread node s rest

/-- Merges a node's update into the thread's state; where there is nothing to set, the state the node was carried
out on is kept. -/
def mergeUpdate (E : Engine) (thread : String) (s : State) (update : Fields) : Run State :=
  if update.isEmpty then pure s else Run.ofEdit (Edit.modify E.rules.schema thread update)

/-- Carries out a node on a state and merges its update; the answer is where the run goes next. -/
def perform (E : Engine) (thread node : String) (s : State) : Run (List String) := do
  tell [.nodeEntered thread node]
  let update ← Run.ofTry (.execute E.graph node s)
  let s ← E.mergeUpdate thread s update
  tell (E.graph.nextFailures node s)
  let targets ← Run.ofTry (.next E.graph node s)
  tell (targets.map (.edgeTraversed thread node))
  return targets

/-- Works off a frontier with a number of node executions left. The node that `approved` names passes its gate
once without being asked. -/
def drive (E : Engine) (thread : String) (left : Nat) (frontier : List String) (approved : Option String)
    (visited : List String) : Run Outcome :=
  match frontier with
  | [] => do return .completed (← Run.ofEdit (Edit.loadState thread)) visited
  | node :: rest => do
    let s ← Run.ofEdit (Edit.loadState thread)
    let free := approved == some node
    match ← E.passGate thread node s rest free with
    | some outcome => return outcome
    | none =>
      match left with
      | 0 => throw (.stepLimit thread E.config.maxSteps)
      | left + 1 =>
        let targets ← E.perform thread node s
        E.drive thread left (joinFrontier rest targets) (if free then none else approved) (visited ++ [node])

def checkConfig (E : Engine) : Run Unit :=
  Run.ofExcept (E.config.validate.mapError fun p => .config (.invalid p))

/-- Gives a thread its first state and runs from the entry point. -/
def invoke (E : Engine) (thread : String) (initial : State) : Run Outcome := do
  E.checkConfig
  Run.ofEdit (Edit.saveState E.rules.schema thread (initial.remove pendingField))
  E.drive thread E.config.maxSteps [E.graph.entry] none []

def clearPending (E : Engine) (thread : String) : Run Unit := do
  let s ← Run.ofEdit (Edit.loadState thread)
  if s.contains pendingField then
    let _ ← Run.ofEdit (Edit.deleteField E.rules.schema thread pendingField)

/-- Takes the frontier that a thread keeps out of its state, as its request was decided. The answer is that frontier,
or none where the request was rejected. -/
def claim (E : Engine) (thread : String) (request : Request) : Run (Option (List String)) :=
  match request.status with
  | .approved => do
    let s ← Run.ofEdit (Edit.loadForResume E.rules.migrator thread E.config.version)
    Run.ofEdit (Edit.saveState E.rules.schema thread s)
    E.clearPending thread
    return some (keptFrontier s)
  | .rejected => do
    E.clearPending thread
    return none
  | status => throw (.approval (.notApproved request.record.id status))

/-- Marks a thread after its frontier was claimed and withdraws the request. Where no frontier was kept, the run goes
on with the approved node alone. -/
def settle (E : Engine) (thread : String) (request : Request) : Option (List String) → Run Resumption
  | some kept => do
    let _ ← Run.ofEdit (Edit.setStatus E.rules.schema thread runningStatus)
    Run.ofCall (.cancelRequest thread)
    return .ready request.record.node (if kept.isEmpty then [request.record.node] else kept)
  | none => do
    let _ ← Run.ofEdit (Edit.setStatus E.rules.schema thread rejectedStatus)
    Run.ofCall (.cancelRequest thread)
    return .ended (.rejected request.record.node (← Run.ofCall (.latest request)))

/-- What resuming a thread does before any node. -/
def prepare (E : Engine) (thread : String) : Run Resumption := do
  E.checkConfig
  match ← Run.ofCall (.currentRequest thread) with
  | none => throw (.noRequest thread)
  | some request => E.settle thread request (← E.claim thread request)

/-- Goes on with a thread's paused run as its request was decided. -/
def resume (E : Engine) (thread : String) : Run Outcome := do
  match ← E.prepare thread with
  | .ended outcome => return outcome
  | .ready node frontier => E.drive thread E.config.maxSteps frontier (some node) []

end Engine
end GatedFlow
