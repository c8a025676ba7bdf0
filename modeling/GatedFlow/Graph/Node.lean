import GatedFlow.Predicate

/-! # Nodes and edges

A node's action turns the state into an update or fails with a text. An edge may be guarded by a predicate; a
predicate that fails closes the edge. -/

namespace GatedFlow

/-- What a node does: it turns a state into the fields to set, or fails. -/
abbrev Action := State → Except String Fields

namespace Action

def idle : Action := fun _ => .ok .empty

def assign (update : Fields) : Action := fun _ => .ok update

/-- The whole number in a field that fits a signed 64-bit word, else zero. -/
def counterValue (s : State) (field : String) : Int :=
  match s.get? field with
  | some (.number n) => n.toInt64?.getD 0
  | _ => 0

/-- Adds to the counter in a field, modulo `2 ^ 64`. -/
def increment (field : String) (amount : Int) : Action := fun s =>
  .ok (Record.empty.insert field (.int ((counterValue s field + amount).bmod wordCount)))

/-- Sets a field to what a path leads to, or to `null`. -/
def copy (path field : String) : Action := fun s =>
  .ok (Record.empty.insert field ((s.getPath? path).getD .null))

def echo (field : String) : Action := fun s => .ok (Record.empty.insert field s.toValue)

def fail (text : String) : Action := fun _ => .error text

end Action

structure Node where
  name : String
  action : Action
  metadata : Fields

def Node.diagnostic (n : Node) : String :=
  "Node \x7b name: " ++ quoted n.name ++ ", action: \"<function>\", metadata: \x7b\x7d \x7d"

/-- A way from a node to the next, which may be guarded. -/
structure Edge where
  source : String
  target : String
  guard : Option Predicate
  metadata : Fields

namespace Edge

def isConditional (e : Edge) : Bool := e.guard.isSome

def isOpen (e : Edge) (s : State) : Bool := e.guard.all (·.holds s)

def failure? (e : Edge) (s : State) : Option PredicateError := e.guard.bind (·.failure? s)

def label (e : Edge) : String := e.source ++ " -> " ++ e.target

end Edge
end GatedFlow
