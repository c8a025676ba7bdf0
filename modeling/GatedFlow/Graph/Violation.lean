/-! # What a graph can have against it -/

namespace GatedFlow

/-- What a name is meant to be where a declared node is needed. -/
inductive NodeRole where
  | edgeSource
  | edgeTarget
  | entry
  | routerNode
  | routerTarget
  deriving DecidableEq

def NodeRole.title : NodeRole → String
  | edgeSource => "edge source"
  | edgeTarget => "edge target"
  | entry => "entry point"
  | routerNode => "router node"
  | routerTarget => "router target"

/-- What a graph, or a step of drawing it up, has against it. -/
inductive Violation where
  | duplicateNode (name : String)
  | undeclared (role : NodeRole) (name : String)
  | noEntry
  | entryUndeclared (name : String)
  | edgeSourceUndeclared (source target : String)
  | edgeTargetUndeclared (source target : String)
  | routerNodeUndeclared (router node : String)
  | routerTargetUndeclared (router node target : String)
  deriving DecidableEq

def Violation.message : Violation → String
  | duplicateNode name => s!"node '{name}' is already declared"
  | undeclared role name => s!"{role.title} '{name}' is not a declared node"
  | noEntry => "entry point is not set"
  | entryUndeclared name => s!"entry point '{name}' is not a declared node"
  | edgeSourceUndeclared source target =>
    s!"edge '{source}' -> '{target}': source '{source}' is not a declared node"
  | edgeTargetUndeclared source target =>
    s!"edge '{source}' -> '{target}': target '{target}' is not a declared node"
  | routerNodeUndeclared router node => s!"router '{router}' on '{node}': node '{node}' is not a declared node"
  | routerTargetUndeclared router node target =>
    s!"router '{router}' on '{node}': target '{target}' is not a declared node"

end GatedFlow
