import GatedFlow.Graph.Draft

/-! # Graphs

A finished graph answers by index: `nodeIndex` holds the place of each node and `edgeIndex` the places of the
edges that leave it. Where a run goes from a node is up to the node's router, and without one to the open
edges. -/

namespace GatedFlow

structure Graph where
  nodes : List Node
  edges : List Edge
  entry : String
  routers : Record Router
  metadata : Fields
  nodeIndex : Record Nat
  edgeIndex : Record (List Nat)

/-- The places of nodes by name, counted from `place`. -/
def indexNodes (place : Nat) (index : Record Nat) : List Node → Record Nat
  | [] => index
  | n :: rest => indexNodes (place + 1) (index.insert n.name place) rest

/-- The places of edges by the node they leave, counted from `place`. -/
def indexEdges (place : Nat) (index : Record (List Nat)) : List Edge → Record (List Nat)
  | [] => index
  | e :: rest =>
    indexEdges (place + 1) (index.insert e.source (((index.get? e.source).getD []) ++ [place])) rest

namespace Graph

def ofParts (nodes : List Node) (edges : List Edge) (entry : String) (routers : Record Router) (metadata : Fields) :
    Graph :=
  ⟨nodes, edges, entry, routers, metadata, indexNodes 0 .empty nodes, indexEdges 0 .empty edges⟩

def declares (g : Graph) (name : String) : Bool := g.nodeIndex.contains name

def node? (g : Graph) (name : String) : Option Node := (g.nodeIndex.get? name).bind fun i => g.nodes[i]?

def nodeNames (g : Graph) : List String := g.nodes.map Node.name

def require (g : Graph) (name : String) : Except FlowError Unit :=
  if g.declares name then .ok () else .error (.noNode name)

/-- The edges that leave a node, in order. -/
def edgesFrom (g : Graph) (name : String) : List Edge :=
  ((g.edgeIndex.get? name).getD []).filterMap fun i => g.edges[i]?

def outgoing (g : Graph) (name : String) : Except FlowError (List Edge) := do
  g.require name
  return g.edgesFrom name

/-- Where the edges of a declared node lead, open or not. -/
def structuralNext (g : Graph) (name : String) : Except FlowError (List String) := do
  return (← g.outgoing name).map Edge.target

def traversable (g : Graph) (name : String) (s : State) : Except FlowError (List String) := do
  return ((← g.outgoing name).filter (·.isOpen s)).map Edge.target

/-- The failures of the guards of a node's edges. -/
def edgeFailures (g : Graph) (name : String) (s : State) : List Event :=
  (g.edgesFrom name).filterMap fun e => (e.failure? s).map (.predicateFailed .edge e.label)

/-- Where a run goes from a declared node. -/
def next (g : Graph) (name : String) (s : State) : Except FlowError (List String) := do
  g.require name
  match g.routers.get? name with
  | some r => return r.route s
  | none => g.traversable name s

/-- The failures of the predicates that are asked where a run goes. -/
def nextFailures (g : Graph) (name : String) (s : State) : List Event :=
  if g.declares name then
    match g.routers.get? name with
    | some r => r.failures s
    | none => g.edgeFailures name s
  else []

def execute (g : Graph) (name : String) (s : State) : Except FlowError Fields :=
  match g.node? name with
  | none => .error (.noNode name)
  | some n => (n.action s).mapError (.nodeFailed name)

def validate (g : Graph) : List Violation := violationsOf g.declares (some g.entry) g.edges g.routers

end Graph

/-- The graph of a draft without loose ends; otherwise all of them. -/
def Draft.build (d : Draft) : Except FlowError Graph :=
  match d.entry, d.validate with
  | some entry, [] => .ok (.ofParts d.nodes d.edges entry d.routers d.metadata)
  | _, found => .error (.violations found)

end GatedFlow
