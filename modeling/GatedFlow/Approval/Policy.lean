import GatedFlow.Gate.Condition
import GatedFlow.Observer.Event

/-! # Policies

A policy says which nodes need approval: some always do, others when one of the policy's conditions holds in
the state. It also knows the current request of every thread. -/

namespace GatedFlow

/-- Why a node needs approval. -/
inductive GateReason where
  | always (node : String)
  | condition (name : String)
  deriving DecidableEq

def GateReason.message : GateReason → String
  | always node => s!"node '{node}' always requires approval"
  | condition name => s!"condition '{name}' matched"

/-- Which nodes need approval, and the requests that were made. -/
structure Policy where
  conditions : List (String × Condition)
  always : List String
  /-- The number of the current request of each thread. -/
  current : Record Nat
  /-- The timeout in milliseconds of requests that come without one. -/
  defaultTimeout : Option Nat
  /-- The registry whose observers are told. -/
  registry : Nat

namespace Policy

/-- A policy under which no node needs approval. -/
def lenient (defaultTimeout : Option Nat) (registry : Nat) : Policy := ⟨[], [], .empty, defaultTimeout, registry⟩

/-- Puts a condition in the place of the one with its name, or after all others. -/
def placeCondition (name : String) (c : Condition) : List (String × Condition) → List (String × Condition)
  | [] => [(name, c)]
  | (n, d) :: rest => if n = name then (n, c) :: rest else (n, d) :: placeCondition name c rest

def addCondition (p : Policy) (name : String) (c : Condition) : Policy :=
  { p with conditions := placeCondition name c p.conditions }

def removeCondition (p : Policy) (name : String) : Policy :=
  { p with conditions := p.conditions.filter fun e => e.1 != name }

def conditionNames (p : Policy) : List String := p.conditions.map Prod.fst

def addAlways (p : Policy) (node : String) : Policy :=
  if node ∈ p.always then p else { p with always := p.always ++ [node] }

def removeAlways (p : Policy) (node : String) : Policy :=
  { p with always := p.always.filter (· != node) }

/-- Why a node needs approval in a state; a condition that fails counts as no. -/
def reason? (p : Policy) (s : State) (node : String) : Option GateReason :=
  if node ∈ p.always then some (.always node)
  else (p.conditions.find? fun e => e.2.holds s).map fun e => .condition e.1

/-- The failures of the conditions that are asked on the way to the reason. -/
def failures (p : Policy) (s : State) (node : String) : List Event :=
  if node ∈ p.always then []
  else (takeThrough (fun e => e.2.holds s) p.conditions).filterMap fun e =>
    (e.2.predicate.failure? s).map (.predicateFailed .interrupt e.1)

end Policy
end GatedFlow
