import GatedFlow.Run.Basic
import GatedFlow.Session.Command

/-! # Waiting

While a run waits for a decision, time passes and the commands of an agenda happen when they are due. The run
goes on as soon as its request is decided, before later commands; when its time is up the request expires, and
when nothing more can happen within ten days of virtual time the run is given up. -/

namespace GatedFlow

/-- A command with the time at which it happens and its place in the order in which commands were given. -/
structure Appointment where
  due : Nat
  place : Nat
  command : Command

/-- The world with what is still to happen in it, and the replies to what has happened. -/
structure Course where
  world : World
  agenda : List Appointment
  replies : List (Nat × Reply)
  /-- When a run that still waits is given up. -/
  horizon : Nat

/-- How long a run may wait in all unless another limit is given, in milliseconds. -/
def patience : Nat := 864000000

namespace Course

/-- A course that begins now and is given up after `patience`, with commands and their delays. -/
def start (patience : Nat) (w : World) (commands : List (Nat × Command)) : Course where
  world := w
  agenda := (commands.mapIdx fun i c => ⟨w.desk.clock + c.1, i, c.2⟩).mergeSort fun a b => a.due ≤ b.due
  replies := []
  horizon := w.desk.clock + patience

/-- The reply to the command of a place, if it has happened. -/
def reply? (c : Course) (place : Nat) : Option Reply := (c.replies.find? (·.1 == place)).map Prod.snd

end Course

inductive Wake where
  | decided (status : ApprovalStatus)
  | timeUp
  | never

def World.advanceTo (w : World) (time : Nat) : World := { w with desk := w.desk.advanceTo time }

def World.decision? (w : World) (id : Nat) : Option ApprovalStatus :=
  (w.desk.request? id).bind fun r => if r.status.isTerminal then some r.status else none

/-- Lets the commands of an agenda happen until a request is decided or the time is up. -/
def passTime (rules : EditRules) (id horizon : Nat) (deadline : Option Nat) :
    List Appointment → World → List (Nat × Reply) → Wake × World × List Appointment × List (Nat × Reply)
  | agenda, w, replies =>
    match w.decision? id with
    | some status => (.decided status, w, agenda, replies)
    | none =>
      match agenda with
      | a :: rest =>
        if a.due ≤ horizon && deadline.all fun d => a.due < d then
          let (reply, w) := a.command.run rules (w.advanceTo a.due)
          passTime rules id horizon deadline rest w (replies ++ [(a.place, reply)])
        else atTheEnd w agenda replies
      | [] => atTheEnd w [] replies
where
  /-- What happens when no command comes first. -/
  atTheEnd (w : World) (agenda : List Appointment) (replies : List (Nat × Reply)) :
      Wake × World × List Appointment × List (Nat × Reply) :=
    match deadline with
    | some d => if d ≤ horizon then (.timeUp, w.advanceTo d, agenda, replies)
      else (.never, w.advanceTo horizon, agenda, replies)
    | none => (.never, w.advanceTo horizon, agenda, replies)

/-- The error of a wait for a request that has lasted as long as it may. -/
def Request.timeoutError (r : Request) (limit : Nat) : FlowError :=
  .approvalTimeout r.record.thread r.record.node (limit % wordCount)

/-- Ends a wait whose time is up. The request expires unless it is decided by then, and a decision other than that it
has expired is what the wait answers. -/
def Desk.timeUp (d : Desk) (r : Request) (limit : Nat) : Except FlowError ApprovalStatus × Desk :=
  match d.resolve r.record.id .expire with
  | (some (.error (.alreadyResolved _ status)), d) =>
    (if status ≠ .timeout then .ok status else .error (r.timeoutError limit), d)
  | (_, d) => (.error (r.timeoutError limit), d)

namespace Course

/-- Waits until a request is decided or its time is up; without a limit of its own the wait has the request's. -/
def await (rules : EditRules) (r : Request) (limit : Option Nat) (c : Course) :
    Option (Except FlowError ApprovalStatus) × Course :=
  let limit := limit.or r.timeout
  let deadline := limit.map (c.world.desk.clock + ·)
  let (wake, world, agenda, replies) :=
    passTime rules r.record.id c.horizon deadline c.agenda c.world c.replies
  let c := { c with world, agenda, replies }
  match wake with
  | .decided status => (some (.ok status), c)
  | .never => (none, c)
  | .timeUp =>
    let (result, desk) := world.desk.timeUp r (limit.getD 0)
    (some result, { c with world := { world with desk } })

def atDesk {α : Type} (c : Course) (f : Desk → α × Desk) : Option α × Course :=
  let (a, desk) := f c.world.desk
  (some a, { c with world := { c.world with desk } })

end Course

def RunCall.answer {α : Type} (rules : EditRules) (registry : Nat) (call : RunCall α) (c : Course) :
    Option α × Course :=
  match call with
  | edit e =>
    let (r, store) := e.run c.world.store
    (some r, { c with world := { c.world with store } })
  | askReason s node => c.atDesk (·.askReason s node)
  | createRequest thread node reason timeout => c.atDesk (·.createRequest thread node reason timeout)
  | currentRequest thread => c.atDesk fun d => (d.current? thread, d)
  | latest r => c.atDesk fun d => (d.latest r, d)
  | cancelRequest thread => c.atDesk fun d => ((), (d.cancelRequest thread).2)
  | await r limit => c.await rules r limit
  | tell events => c.atDesk fun d => ((), d.tellAll registry events)
  | execute g node s => (some (g.execute node s), c)
  | next g node s => (some (g.next node s), c)

/-- What becomes of a run in the course of events; none if it is given up. -/
def Run.run {α : Type} (rules : EditRules) (registry : Nat) (p : Run α) (c : Course) :
    Option (Except FlowError α) × Course :=
  Program.runWhile (RunCall.answer rules registry) (ExceptT.run p) c

end GatedFlow
