import GatedFlow.Approval.Desk
import GatedFlow.Edits.Command

/-! # Commands

A command is something that happens at one moment: an edit, a direct call to the store, or business at the
approval desk. `Command.run` is what it does to the world of store and desk. -/

namespace GatedFlow

/-- Everything that lasts: the store and the approval desk. -/
structure World where
  store : Store
  desk : Desk

/-- A direct call to the store. -/
inductive StoreCommand where
  | save (thread : String) (state : State)
  | tryLoad (thread : String)
  | holds (thread : String)
  | delete (thread : String)
  | appendHistory (thread : String) (change : Change)
  | listThreads
  | listKeys (start : String)
  | size
  | plan (kind : CallKind) (p : FaultPlan)

/-- A request by its number, or the current one of a thread. -/
inductive RequestTarget where
  | number (id : Nat)
  | ofThread (thread : String)

/-- Business at the approval desk. -/
inductive DeskCommand where
  | addCondition (name : String) (c : Condition)
  | removeCondition (name : String)
  | addAlways (node : String)
  | removeAlways (node : String)
  | defaultTimeout
  | askReason (s : State) (node : String)
  | createRequest (thread node reason : String) (timeout : Option Nat)
  | addRequest (thread node reason : String) (timeout : Option Nat)
  | lookUp (target : RequestTarget)
  | cancel (thread : String)
  | decide (target : RequestTarget) (decision : Decision)
  | checkExpired (target : RequestTarget)
  | pendingRequests
  | expireRequests
  | advance (ms : Nat)

/-- Something that happens at one moment. -/
inductive Command where
  | edit (c : EditCommand)
  | store (c : StoreCommand)
  | desk (c : DeskCommand)

inductive Reply where
  | edited (r : EditReply)
  | found (s : Option State)
  | flag (b : Bool)
  | names (l : List String)
  | removal (removed : Bool) (left : List String)
  | size (n : Nat)
  | duration (ms : Option Nat)
  | reason (r : Option GateReason)
  | request (r : Option Request)
  | requests (l : List Request)
  | expired (b : Option Bool)
  | count (n : Nat)
  | done
  | noRequest
  | failed (e : StoreError)
  | refused (e : ApprovalError)

/-- The answer of a call that may fail. -/
def Reply.ofExcept {α : Type} (f : α → Reply) : Except StoreError α → Reply
  | .ok a => f a
  | .error e => .failed e

namespace StoreCommand

def run (c : StoreCommand) (s : Store) : Reply × Store :=
  match c with
  | save thread state =>
    let (r, s) := s.answer (.save thread state)
    (.ofExcept (fun _ => .done) r, s)
  | tryLoad thread =>
    let (r, s) := (Edit.tryLoad thread).run s
    (.ofExcept .found r, s)
  | holds thread => (.flag (s.snapshots.contains thread), s)
  | delete thread =>
    let (r, s) := s.answer (.delete thread)
    (.ofExcept .flag r, s)
  | appendHistory thread change =>
    let (r, s) := s.answer (.appendHistory thread change)
    (.ofExcept (fun _ => .done) r, s)
  | listThreads =>
    let (r, s) := s.answer (.listKeys "")
    (.ofExcept (fun keys => .names (Store.threadsOf keys)) r, s)
  | listKeys start =>
    let (r, s) := s.answer (.listKeys start)
    (.ofExcept .names r, s)
  | size => (.size s.snapshots.size, s)
  | plan kind p => (.done, { s with faults := s.faults.set kind p })

end StoreCommand

/-- The number of the request that is meant. -/
def Desk.numberOf (d : Desk) : RequestTarget → Option Nat
  | .number id => some id
  | .ofThread thread => d.policy.current.get? thread

namespace DeskCommand

def run (c : DeskCommand) (d : Desk) : Reply × Desk :=
  match c with
  | addCondition name c =>
    let p := d.policy.addCondition name c
    (.names p.conditionNames, { d with policy := p })
  | removeCondition name =>
    let p := d.policy.removeCondition name
    (.removal (name ∈ d.policy.conditionNames) p.conditionNames, { d with policy := p })
  | addAlways node => (.done, { d with policy := d.policy.addAlways node })
  | removeAlways node => (.flag (node ∈ d.policy.always), { d with policy := d.policy.removeAlways node })
  | defaultTimeout => (.duration d.policy.defaultTimeout, d)
  | askReason s node =>
    let (r, d) := d.askReason s node
    (.reason r, d)
  | createRequest thread node reason timeout =>
    let (r, d) := d.createRequest thread node reason timeout
    (.request (some r), d)
  | addRequest thread node reason timeout =>
    let (r, d) := d.addRequest thread node reason timeout none
    (.request (some r), d)
  | lookUp target => (.request ((d.numberOf target).bind d.request?), d)
  | cancel thread =>
    let (r, d) := d.cancelRequest thread
    (.request r, d)
  | decide target decision =>
    match d.numberOf target with
    | none => (.noRequest, d)
    | some id =>
      match d.resolve id decision with
      | (none, d) => (.noRequest, d)
      | (some (.ok ()), d) => (.done, d)
      | (some (.error e), d) => (.refused e, d)
  | checkExpired target =>
    match d.numberOf target with
    | none => (.expired none, d)
    | some id =>
      let (b, d) := d.checkExpired id
      (.expired b, d)
  | pendingRequests => (.requests d.pendingRequests, d)
  | expireRequests =>
    let (n, d) := d.expireRequests
    (.count n, d)
  | advance ms => (.done, d.advance ms)

end DeskCommand

def Command.run (rules : EditRules) (c : Command) (w : World) : Reply × World :=
  match c with
  | edit c =>
    let (r, s) := (c.edit rules).run w.store
    (.ofExcept .edited r, { w with store := s })
  | store c =>
    let (r, s) := c.run w.store
    (r, { w with store := s })
  | desk c =>
    let (r, d) := c.run w.desk
    (r, { w with desk := d })

end GatedFlow
