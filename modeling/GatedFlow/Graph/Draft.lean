import GatedFlow.FlowError
import GatedFlow.Graph.Node
import GatedFlow.Graph.Router

/-! # Drafts of graphs

A draft grows node by node and edge by edge. A step that names an undeclared node is refused and changes
nothing; removing a node leaves what names it in place, so a draft can get loose ends. `violationsOf` lists
them: the entry point first, then the edges in order, then the routers by node. -/

namespace GatedFlow

/-- A graph that is being drawn up. -/
structure Draft where
  nodes : List Node
  edges : List Edge
  routers : Record Router
  entry : Option String
  metadata : Fields

def entryViolations (declared : String → Bool) : Option String → List Violation
  | none => [.noEntry]
  | some name => if declared name then [] else [.entryUndeclared name]

def Edge.violations (declared : String → Bool) (e : Edge) : List Violation :=
  (if declared e.source then [] else [.edgeSourceUndeclared e.source e.target]) ++
    (if declared e.target then [] else [.edgeTargetUndeclared e.source e.target])

/-- The violations of a router on a node. -/
def Router.violations (declared : String → Bool) (node : String) (r : Router) : List Violation :=
  (if declared node then [] else [.routerNodeUndeclared r.name node]) ++
    (r.targets.filter fun t => !declared t).map (.routerTargetUndeclared r.name node)

def violationsOf (declared : String → Bool) (entry : Option String) (edges : List Edge) (routers : Record Router) :
    List Violation :=
  entryViolations declared entry ++ edges.flatMap (·.violations declared) ++
    routers.entries.flatMap fun e => e.2.violations declared e.1

namespace Draft

def empty (metadata : Fields) : Draft := ⟨[], [], .empty, none, metadata⟩

def declares (d : Draft) (name : String) : Bool := d.nodes.any (·.name == name)

def node? (d : Draft) (name : String) : Option Node := d.nodes.find? (·.name == name)

def require (d : Draft) (role : NodeRole) (name : String) : Except FlowError Unit :=
  if d.declares name then .ok () else .error (.violations [.undeclared role name])

/-- Refuses the first undeclared node of a list. -/
def requireAll (d : Draft) (role : NodeRole) : List String → Except FlowError Unit
  | [] => .ok ()
  | name :: rest => do
    d.require role name
    d.requireAll role rest

def addNode (d : Draft) (n : Node) : Except FlowError Draft :=
  if d.declares n.name then .error (.violations [.duplicateNode n.name])
  else .ok { d with nodes := d.nodes ++ [n] }

/-- Removes a node and leaves what names it in place. -/
def removeNode (d : Draft) (name : String) : Draft := { d with nodes := d.nodes.eraseP (·.name == name) }

def addEdge (d : Draft) (e : Edge) : Except FlowError Draft :=
  let found :=
    (if d.declares e.source then [] else [Violation.undeclared .edgeSource e.source]) ++
      (if d.declares e.target then [] else [Violation.undeclared .edgeTarget e.target])
  if found.isEmpty then .ok { d with edges := d.edges ++ [e] } else .error (.violations found)

/-- Adds an edge whose guard is read from text first. -/
def addExpressionEdge [PatternEngine] (d : Draft) (source target condition : String) : Except FlowError Draft := do
  let guard ← (Predicate.ofSource condition).mapError .expression
  d.addEdge ⟨source, target, some guard, .empty⟩

def setEntry (d : Draft) (name : String) : Except FlowError Draft := do
  d.require .entry name
  return { d with entry := some name }

/-- Puts a router on a declared node, in place of the one there. -/
def addRouter (d : Draft) (node : String) (r : Router) : Except FlowError Draft := do
  d.require .routerNode node
  d.requireAll .routerTarget r.targets
  return { d with routers := d.routers.insert node r }

def validate (d : Draft) : List Violation := violationsOf d.declares d.entry d.edges d.routers

end Draft

inductive DraftStep where
  | addNode (n : Node)
  | removeNode (name : String)
  | addEdge (e : Edge)
  | addExpressionEdge (source target condition : String)
  | setEntry (name : String)
  | addRouter (node : String) (r : Router)

namespace DraftStep

/-- What a step makes of a draft, unless it is refused. -/
def apply [PatternEngine] (d : Draft) : DraftStep → Except FlowError Draft
  | addNode n => d.addNode n
  | removeNode name => .ok (d.removeNode name)
  | addEdge e => d.addEdge e
  | addExpressionEdge source target condition => d.addExpressionEdge source target condition
  | setEntry name => d.setEntry name
  | addRouter node r => d.addRouter node r

end DraftStep

namespace Draft

variable [PatternEngine]

/-- A step that is refused leaves the draft as it was. -/
def take (d : Draft) (step : DraftStep) : Draft := (step.apply d).toOption.getD d

/-- The draft after steps one after the other. -/
def after (steps : List DraftStep) (d : Draft) : Draft := steps.foldl take d

end Draft
end GatedFlow
