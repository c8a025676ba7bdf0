import GatedFlow.Edits.Basic

/-! # Edits side by side

Several edits start together on one store and take turns in the order of a list. An edit gives up its turn
inside every load and save, after the call has been counted, and while the lock it needs belongs to another.
A lock goes to those who ask for it in the order in which they ask. -/

namespace GatedFlow

/-- For every thread the edits that hold or await its lock, the holder first. -/
abbrev Locks := Record (List Nat)

namespace Locks

/-- Takes a place in the queue for a thread's lock. -/
def enter (l : Locks) (thread : String) (edit : Nat) : Locks :=
  l.insert thread ((l.get? thread).getD [] ++ [edit])

/-- The holder of a thread's lock leaves the queue. -/
def leave (l : Locks) (thread : String) : Locks :=
  match l.get? thread with
  | some (_ :: next :: rest) => l.insert thread (next :: rest)
  | _ => l.erase thread

def heldBy (l : Locks) (thread : String) (edit : Nat) : Bool :=
  match l.get? thread with
  | some (holder :: _) => holder == edit
  | _ => false

end Locks

inductive Progress (α : Type) : Type 1 where
  | running (rest : Program EditCall α)
  | serving {β : Type} (call : StoreCall β) (next : Except StoreError β → Program EditCall α)
  | waiting (thread : String) (next : Unit → Program EditCall α)
  | finished (result : α)

/-- Whether an edit gives up its turn inside a kind of call. -/
def CallKind.pauses : CallKind → Bool
  | .load => true
  | .save => true
  | _ => false

/-- Runs an edit until its turn ends. -/
def EditCall.takeTurn {α : Type} (edit : Nat) :
    Program EditCall α → Store × Locks → Progress α × Store × Locks
  | .done result, w => (.finished result, w)
  | .ask (.store call) next, (s, l) =>
    let (served, s) := s.countCall call.kind
    if !served then takeTurn edit (next (.error (.outage call.kind))) (s, l)
    else if call.kind.pauses then (.serving call next, s, l)
    else
      let (answer, s) := s.serve call
      takeTurn edit (next answer) (s, l)
  | .ask (.acquire thread) next, (s, l) =>
    let l := l.enter thread edit
    if l.heldBy thread edit then takeTurn edit (next ()) (s, l) else (.waiting thread next, s, l)
  | .ask (.release thread) next, (s, l) => takeTurn edit (next ()) (s, l.leave thread)
  | .ask .activeLocks next, (s, l) => takeTurn edit (next l.size) (s, l)

/-- One turn of an edit: what it has been waiting for comes first. -/
def Progress.turn {α : Type} (edit : Nat) (w : Store × Locks) : Progress α → Progress α × Store × Locks
  | finished result => (finished result, w)
  | running rest => EditCall.takeTurn edit rest w
  | serving call next =>
    let (answer, s) := w.1.serve call
    EditCall.takeTurn edit (next answer) (s, w.2)
  | waiting thread next =>
    if w.2.heldBy thread edit then EditCall.takeTurn edit (next ()) w else (waiting thread next, w)

/-- A turn of every edit, in order; the first has the number `edit`. -/
def Progress.round {α : Type} (edit : Nat) (w : Store × Locks) :
    List (Progress α) → List (Progress α) × Store × Locks
  | [] => ([], w)
  | p :: rest =>
    let (p, w) := p.turn edit w
    let (rest, w) := Progress.round (edit + 1) w rest
    (p :: rest, w)

def Progress.result? {α : Type} : Progress α → Option α
  | finished result => some result
  | _ => none

/-- Rounds until every edit has come to its end, but no more than `fuel`. -/
def Progress.rounds {α : Type} : Nat → List (Progress α) → Store × Locks → List (Progress α) × Store × Locks
  | 0, ps, w => (ps, w)
  | fuel + 1, ps, w =>
    if ps.all fun p => p.result?.isSome then (ps, w)
    else
      let (ps, w) := Progress.round 0 w ps
      rounds fuel ps w

/-- The results of edits that start together and the store they leave. No edit pauses inside more than two
calls, and in every round one of the edits passes such a pause or starts, so three rounds an edit suffice. -/
def Edit.runTogether {α : Type} (edits : List (Edit α)) (s : Store) : List (Option (Except StoreError α)) × Store :=
  let start := edits.map fun e => Progress.running (ExceptT.run e)
  let (ps, s, _) := Progress.rounds (3 * edits.length + 1) start (s, .empty)
  (ps.map Progress.result?, s)

end GatedFlow
