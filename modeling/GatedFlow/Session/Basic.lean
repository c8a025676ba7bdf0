import GatedFlow.Edits.Interleaving
import GatedFlow.Session.Waiting

/-! # Sessions

A session is a sequence of steps on one world: commands, edits that start together, and waits and runs during
which further commands may fall due. -/

namespace GatedFlow

/-- A step of a session. Commands that may fall due come with their delays. -/
inductive Step where
  | command (c : Command)
  | together (edits : List EditCommand)
  | wait (thread : String) (limit : Option Nat) (commands : List (Nat × Command))
  | invoke (thread : String) (initial : State) (commands : List (Nat × Command))
  | resume (thread : String) (commands : List (Nat × Command))

/-- What a step answers; a wait or a run that is given up has no result. -/
inductive StepReply where
  | reply (r : Reply)
  | together (l : List (Option Reply))
  | waited (result : Option (Except FlowError ApprovalStatus)) (replies : List (Option Reply))
  | ran (result : Option (Except FlowError Outcome)) (replies : List (Option Reply))

/-- A world with nothing stored and no requests. The first registry is the graph's, the second the policy's. -/
def World.fresh (graph policy : Registry) (defaultTimeout : Option Nat) : World where
  store := .empty
  desk := { policy := .lenient defaultTimeout 1, requests := [], registries := [graph, policy], clock := 0, log := [] }

/-- Waits for the decision about the current request of a thread. -/
def Run.wait (thread : String) (limit : Option Nat) : Run ApprovalStatus := do
  match ← Run.ofCall (.currentRequest thread) with
  | none => throw (.noRequest thread)
  | some request => Run.ofTry (.await request limit)

namespace Engine

/-- Carries out a run while the commands of an agenda may fall due, and gives it up after `patience`; the replies
come in the order of the commands. -/
def carryOut {α : Type} (E : Engine) (patience : Nat) (p : Run α) (commands : List (Nat × Command)) (w : World) :
    Option (Except FlowError α) × List (Option Reply) × World :=
  let (result, c) := p.run E.rules E.registry (Course.start patience w commands)
  (result, (List.range commands.length).map c.reply?, c.world)

/-- What a step of a session does, where a run that waits longer than `patience` is given up. -/
def stepWithin (E : Engine) (patience : Nat) (s : Step) (w : World) : StepReply × World :=
  match s with
  | .command c =>
    let (r, w) := c.run E.rules w
    (.reply r, w)
  | .together edits =>
    let (results, store) := Edit.runTogether (edits.map (·.edit E.rules)) w.store
    (.together (results.map fun r => r.map (.ofExcept .edited)), { w with store })
  | .wait thread limit commands =>
    let (result, replies, w) := E.carryOut patience (Run.wait thread limit) commands w
    (.waited result replies, w)
  | .invoke thread initial commands =>
    let (result, replies, w) := E.carryOut patience (E.invoke thread initial) commands w
    (.ran result replies, w)
  | .resume thread commands =>
    let (result, replies, w) := E.carryOut patience (E.resume thread) commands w
    (.ran result replies, w)

def step (E : Engine) (s : Step) (w : World) : StepReply × World := E.stepWithin patience s w

/-- What the steps of a session do one after the other, where a run that waits longer than `patience` is given up. -/
def stepsWithin (E : Engine) (patience : Nat) : List Step → World → List StepReply × World
  | [], w => ([], w)
  | s :: rest, w =>
    let (r, w) := E.stepWithin patience s w
    let (replies, w) := E.stepsWithin patience rest w
    (r :: replies, w)

def steps (E : Engine) (l : List Step) (w : World) : List StepReply × World := E.stepsWithin patience l w

end Engine
end GatedFlow
