import GatedFlow.Graph.Basic
import GatedFlow.Json.Layout

/-! # Descriptions of graphs

A description says how a graph is made up, without its actions and host tests, and has a JSON form that can be
read back. Metadata and routers are left out of the form where there are none. -/

namespace GatedFlow

structure NodeDescription where
  name : String
  metadata : Fields

structure EdgeDescription where
  source : String
  target : String
  conditional : Bool
  expression : Option String
  metadata : Fields

structure RouteDescription where
  name : String
  target : String
  priority : Int
  expression : Option String
  metadata : Fields

structure RouterDescription where
  name : String
  strategy : RoutingStrategy
  rules : List RouteDescription
  default : Option String

/-- How a graph is made up. -/
structure GraphDescription where
  entry : String
  nodes : List NodeDescription
  edges : List EdgeDescription
  routers : Record RouterDescription
  metadata : Fields

def metadataFields (metadata : Fields) : List (String × Value) := writtenUnlessEmpty "metadata" id metadata

namespace NodeDescription

def toValue (d : NodeDescription) : Value :=
  .ofFields (("name", .string d.name) :: metadataFields d.metadata)

def ofValue? (v : Value) : Option NodeDescription := do
  guard (v.isRecord 2)
  return ⟨← v.required? 0 "name" Value.asString?, ← v.defaulted? 1 "metadata" .empty Value.asFields?⟩

end NodeDescription

namespace EdgeDescription

def toValue (d : EdgeDescription) : Value :=
  .ofFields ([("from", .string d.source), ("to", .string d.target), ("conditional", .bool d.conditional)] ++
    writtenIf "expression" Value.string d.expression ++ metadataFields d.metadata)

def ofValue? (v : Value) : Option EdgeDescription := do
  guard (v.isRecord 5)
  return {
    source := ← v.required? 0 "from" Value.asString?
    target := ← v.required? 1 "to" Value.asString?
    conditional := ← v.required? 2 "conditional" Value.asBool?
    expression := ← v.optional? 3 "expression" Value.asString?
    metadata := ← v.defaulted? 4 "metadata" .empty Value.asFields? }

end EdgeDescription

namespace RouteDescription

def toValue (d : RouteDescription) : Value :=
  .ofFields ([("name", .string d.name), ("target", .string d.target), ("priority", .int d.priority)] ++
    writtenIf "expression" Value.string d.expression ++ metadataFields d.metadata)

/-- The rule that a JSON form describes; its priority fits a signed 32-bit word. -/
def ofValue? (v : Value) : Option RouteDescription := do
  guard (v.isRecord 5)
  return {
    name := ← v.required? 0 "name" Value.asString?
    target := ← v.required? 1 "target" Value.asString?
    priority := ← v.required? 2 "priority" (Value.asIntIn? (-0x80000000) 0x7FFFFFFF)
    expression := ← v.optional? 3 "expression" Value.asString?
    metadata := ← v.defaulted? 4 "metadata" .empty Value.asFields? }

end RouteDescription

namespace RouterDescription

/-- The JSON form of a router; a missing default is written as `null`. -/
def toValue (d : RouterDescription) : Value :=
  .ofFields [("name", .string d.name), ("strategy", .string d.strategy.word),
    ("rules", .array (d.rules.map RouteDescription.toValue)), ("default", .ofOptional d.default)]

def ofValue? (v : Value) : Option RouterDescription := do
  guard (v.isRecord 4)
  return {
    name := ← v.required? 0 "name" Value.asString?
    strategy := ← v.required? 1 "strategy" (Value.asWordOf? RoutingStrategy.ofWord?)
    rules := ← v.required? 2 "rules" (Value.asList? RouteDescription.ofValue?)
    default := ← v.optional? 3 "default" Value.asString? }

end RouterDescription

namespace GraphDescription

def toValue (d : GraphDescription) : Value :=
  .ofFields ([("entry_point", .string d.entry), ("nodes", .array (d.nodes.map NodeDescription.toValue)),
      ("edges", .array (d.edges.map EdgeDescription.toValue))] ++
    writtenUnlessEmpty "routers" RouterDescription.toValue d.routers ++ metadataFields d.metadata)

def ofValue? (v : Value) : Option GraphDescription := do
  guard (v.isRecord 5)
  return {
    entry := ← v.required? 0 "entry_point" Value.asString?
    nodes := ← v.required? 1 "nodes" (Value.asList? NodeDescription.ofValue?)
    edges := ← v.required? 2 "edges" (Value.asList? EdgeDescription.ofValue?)
    routers := ← v.defaulted? 3 "routers" .empty (Value.asRecord? RouterDescription.ofValue?)
    metadata := ← v.defaulted? 4 "metadata" .empty Value.asFields? }

end GraphDescription

def Router.describe (r : Router) : RouterDescription where
  name := r.name
  strategy := r.strategy
  rules := r.rules.map fun rule => ⟨rule.name, rule.target, rule.priority, rule.predicate.source?, rule.metadata⟩
  default := r.default

def Graph.describe (g : Graph) : GraphDescription where
  entry := g.entry
  nodes := g.nodes.map fun n => ⟨n.name, n.metadata⟩
  edges := g.edges.map fun e => ⟨e.source, e.target, e.isConditional, e.guard.bind Predicate.source?, e.metadata⟩
  routers := .ofList (g.routers.entries.map fun e => (e.1, e.2.describe))
  metadata := g.metadata

end GatedFlow
