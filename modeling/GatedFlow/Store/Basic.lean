import GatedFlow.Ledger.Change
import GatedFlow.Store.Error
import GatedFlow.Store.Keys

/-! # The store

Snapshots of threads and checkpoints by key, and the ledger of each thread. Every call of the six kinds is
counted, and a plan for its kind may let it fail; a call that fails has no effect. `Store.countCall` counts a call
and asks the plan, `Store.serve` is what a call does, and `Store.answer` is both. -/

namespace GatedFlow

/-- The calls of one kind: how many there were since the plan was made, and which of them fail. -/
structure FaultPlan where
  made : Nat
  fails : Nat → Bool

namespace FaultPlan

def none : FaultPlan := ⟨0, fun _ => false⟩

/-- After `skip` calls that work, `count` calls fail. -/
def block (skip count : Nat) : FaultPlan := ⟨0, fun n => skip ≤ n && n < skip + count⟩

end FaultPlan

/-- A fault plan for each kind of call. -/
structure Faults where
  save : FaultPlan
  load : FaultPlan
  delete : FaultPlan
  listKeys : FaultPlan
  appendHistory : FaultPlan
  history : FaultPlan

namespace Faults

def none : Faults := ⟨.none, .none, .none, .none, .none, .none⟩

def get (f : Faults) : CallKind → FaultPlan
  | .save => f.save
  | .load => f.load
  | .delete => f.delete
  | .listKeys => f.listKeys
  | .appendHistory => f.appendHistory
  | .history => f.history

/-- The plans with another one for a kind of call. -/
def set (f : Faults) (kind : CallKind) (plan : FaultPlan) : Faults :=
  match kind with
  | .save => { f with save := plan }
  | .load => { f with load := plan }
  | .delete => { f with delete := plan }
  | .listKeys => { f with listKeys := plan }
  | .appendHistory => { f with appendHistory := plan }
  | .history => { f with history := plan }

@[simp] theorem get_set (f : Faults) (kind kind' : CallKind) (plan : FaultPlan) :
    (f.set kind plan).get kind' = if kind = kind' then plan else f.get kind' := by
  cases kind <;> cases kind' <;> rfl

end Faults

/-- What is kept of all threads. -/
structure Store where
  snapshots : Record State
  ledgers : Record (List Change)
  faults : Faults

/-- A call to the store, by the type of what it answers when it works. -/
inductive StoreCall : Type → Type where
  | save (key : String) (state : State) : StoreCall Unit
  | load (key : String) : StoreCall State
  | delete (key : String) : StoreCall Bool
  | listKeys (start : String) : StoreCall (List String)
  | appendHistory (key : String) (change : Change) : StoreCall Unit
  | history (key : String) : StoreCall (List Change)

def StoreCall.kind {α : Type} : StoreCall α → CallKind
  | save .. => .save
  | load _ => .load
  | delete _ => .delete
  | listKeys _ => .listKeys
  | appendHistory .. => .appendHistory
  | history _ => .history

namespace Store

def empty : Store := ⟨.empty, .empty, .none⟩

instance : Inhabited Store := ⟨empty⟩

/-- The ledger under a key; a key without one has an empty ledger. -/
def ledger (s : Store) (key : String) : List Change := (s.ledgers.get? key).getD []

/-- Counts a call and tells whether it is served. -/
def countCall (s : Store) (kind : CallKind) : Bool × Store :=
  let plan := s.faults.get kind
  (!plan.fails plan.made, { s with faults := s.faults.set kind { plan with made := plan.made + 1 } })

def serve {α : Type} (s : Store) : StoreCall α → Except StoreError α × Store
  | .save key state => (.ok (), { s with snapshots := s.snapshots.insert key state })
  | .load key =>
    match s.snapshots.get? key with
    | some state => (.ok state, s)
    | none => (.error (.noThread key), s)
  | .delete key => (.ok (s.snapshots.contains key),
      { s with snapshots := s.snapshots.erase key, ledgers := s.ledgers.erase key })
  | .listKeys start => (.ok (s.snapshots.keys.filter fun key => start.toList.isPrefixOf key.toList), s)
  | .appendHistory key change => (.ok (), { s with ledgers := s.ledgers.insert key (s.ledger key ++ [change]) })
  | .history key => (.ok (s.ledger key), s)

/-- Counts a call and serves it, unless the plan lets it fail. -/
def answer {α : Type} (s : Store) (call : StoreCall α) : Except StoreError α × Store :=
  let (served, s) := s.countCall call.kind
  if served then s.serve call else (.error (.outage call.kind), s)

/-- The threads among keys, sorted. -/
def threadsOf (keys : List String) : List String := keys.filter fun key => !isCheckpointKey key

end Store
end GatedFlow
