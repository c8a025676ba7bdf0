import GatedFlow.Approval.Policy
import GatedFlow.Approval.Request
import GatedFlow.Observer.Registry

/-! # The approval desk

The desk keeps the policy, every request ever made with its number, the observer registries, the time in
milliseconds and what the observers have recorded. A thread has at most one current request; making another
one replaces it, and withdrawing it rejects it if it is still open. -/

namespace GatedFlow

structure Desk where
  policy : Policy
  requests : List Request
  registries : List Registry
  clock : Nat
  log : List Delivery

namespace Desk

/-- Tells the observers of a registry an event. -/
def tell (d : Desk) (registry : Nat) (e : Event) : Desk :=
  { d with log := d.log ++ ((d.registries[registry]?).getD []).deliver e }

def tellAll (d : Desk) (registry : Nat) (events : List Event) : Desk := events.foldl (fun d e => d.tell registry e) d

/-- Points the policy to another registry, which takes over the observers of the one it leaves. -/
def shareObservers (d : Desk) (registry : Nat) : Desk :=
  if d.policy.registry = registry then d
  else
    let own := (d.registries[d.policy.registry]?).getD []
    let shared := ((d.registries[registry]?).getD []).absorb own
    { d with registries := d.registries.set registry shared, policy := { d.policy with registry } }

def advance (d : Desk) (ms : Nat) : Desk := { d with clock := d.clock + ms }

/-- Sets the clock forward to a time, never back. -/
def advanceTo (d : Desk) (time : Nat) : Desk := { d with clock := max d.clock time }

/-- Whether a node needs approval, and why; the observers are told of the conditions that fail. -/
def askReason (d : Desk) (s : State) (node : String) : Option GateReason × Desk :=
  (d.policy.reason? s node, d.tellAll d.policy.registry (d.policy.failures s node))

/-- Adds a request that no thread has as its current one. -/
def addRequest (d : Desk) (thread node reason : String) (timeout registry : Option Nat) : Request × Desk :=
  let r := Request.ofParts d.requests.length d.clock thread node reason timeout registry
  (r, { d with requests := d.requests ++ [r] })

/-- Makes a request the current one of its thread and tells the observers. Without a timeout of its own it gets
the policy's. -/
def createRequest (d : Desk) (thread node reason : String) (timeout : Option Nat) : Request × Desk :=
  let (r, d) := d.addRequest thread node reason (timeout.or d.policy.defaultTimeout) (some d.policy.registry)
  let d := { d with policy := { d.policy with current := d.policy.current.insert thread r.record.id } }
  (r, d.tell d.policy.registry (.interruptRaised thread node reason))

def request? (d : Desk) (id : Nat) : Option Request := d.requests[id]?

def latest (d : Desk) (r : Request) : Request := (d.request? r.record.id).getD r

def current? (d : Desk) (thread : String) : Option Request := (d.policy.current.get? thread).bind d.request?

/-- Decides about a request and tells its observers. -/
def resolve (d : Desk) (id : Nat) (decision : Decision) : Option (Except ApprovalError Unit) × Desk :=
  match d.request? id with
  | none => (none, d)
  | some r =>
    match r.resolve decision d.clock with
    | .error e => (some (.error e), d)
    | .ok r =>
      let d := { d with requests := d.requests.set id r }
      let event := Event.approvalResolved r.record.thread r.record.node r.status
      (some (.ok ()), match r.registry with
        | some registry => d.tell registry event
        | none => d)

/-- Withdraws the current request of a thread; an open one is rejected. -/
def cancelRequest (d : Desk) (thread : String) : Option Request × Desk :=
  match d.policy.current.get? thread with
  | none => (none, d)
  | some id =>
    let d := { d with policy := { d.policy with current := d.policy.current.erase thread } }
    match d.request? id with
    | none => (none, d)
    | some r =>
      let d := if r.isPending then (d.resolve id .cancel).2 else d
      (some (d.latest r), d)

/-- Expires a request that is overdue and tells whether it has expired. -/
def checkExpired (d : Desk) (id : Nat) : Option Bool × Desk :=
  match d.request? id with
  | none => (none, d)
  | some r =>
    let d := if r.isOverdue d.clock then (d.resolve id .expire).2 else d
    (some ((d.latest r).status == .timeout), d)

/-- The requests that are the current one of their thread, the oldest first. -/
def registered (d : Desk) : List Request :=
  d.requests.filter fun r => d.policy.current.get? r.record.thread == some r.record.id

/-- The registered requests that wait for a decision, the oldest first. -/
def pendingRequests (d : Desk) : List Request := d.registered.filter Request.isPending

/-- Expires every registered request that is overdue, thread by thread, and counts them. -/
def expireRequests (d : Desk) : Nat × Desk :=
  let due := d.policy.current.entries.filterMap fun e =>
    (d.request? e.2).bind fun r => if r.isOverdue d.clock then some e.2 else none
  (due.length, due.foldl (fun d id => (d.resolve id .expire).2) d)

end Desk
end GatedFlow
