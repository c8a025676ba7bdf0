import GatedFlow.Proofs.Predicate.Asking
import GatedFlow.Proofs.Run.Drive
import GatedFlow.Proofs.Run.Notices
import GatedFlow.Proofs.Run.Quiet

/-! # The evaluations of a run

`Engine.evaluations` lists the predicates that a run asks, in order, with those that the commands ask that come while it
waits. A run reports each of them that fails once, and no other failure (`accounts_invoke`, `accounts_resume`). -/

namespace GatedFlow

/-- The failures of predicates that are reported. -/
def failuresIn (notices : List Notice) : List Event := (notices.map Notice.event).filter Event.isFailure

/-- The reports that evaluations deserve: one for each that fails. -/
def failuresOf (evaluations : List Evaluation) : List Event := evaluations.filterMap Evaluation.failure?

@[simp] theorem failuresIn_append (notices more : List Notice) :
    failuresIn (notices ++ more) = failuresIn notices ++ failuresIn more := by
  simp only [failuresIn, List.map_append, List.filter_append]

@[simp] theorem failuresOf_append (evaluations more : List Evaluation) :
    failuresOf (evaluations ++ more) = failuresOf evaluations ++ failuresOf more := List.filterMap_append ..

namespace Desk

variable (d : Desk)

end Desk

/-- The predicates that a command asks. -/
def Command.evaluations (c : Command) (w : World) : List Evaluation :=
  match c with
  | desk (.askReason s node) => (w.desk.policy.asking s node).evaluate.2
  | _ => []

/-- The predicates that commands ask that each come when they are due. -/
def World.agendaEvaluations (rules : EditRules) : List Appointment → World → List Evaluation
  | [], _ => []
  | a :: rest, w => a.command.evaluations (w.advanceTo a.due) ++
      agendaEvaluations rules rest (a.command.run rules (w.advanceTo a.due)).2

/-- The predicates that are asked for the answer to a call of a run. -/
def RunCall.evaluations {α : Type} (rules : EditRules) (call : RunCall α) (c : Course) : List Evaluation :=
  match call with
  | askReason s node => (c.world.desk.policy.asking s node).evaluate.2
  | await r limit => World.agendaEvaluations rules (c.happened rules r limit) c.world
  | next g node s => (g.asking node s).evaluate.2
  | _ => []

namespace Engine

variable {α β : Type} {E : Engine}

def momentEvaluations (E : Engine) (m : RunMoment) : List Evaluation := m.call.evaluations E.rules m.before

/-- The predicates that a run asks. -/
def evaluations (E : Engine) (p : Run α) (c : Course) : List Evaluation := (E.trace p c).flatMap E.momentEvaluations

/-- The failures that are reported at some moments are those of the evaluations there, one each. -/
def Accounted (E : Engine) (tr : List RunMoment) : Prop :=
  failuresIn (tr.flatMap E.momentNotices) = failuresOf (tr.flatMap E.momentEvaluations)

/-- A run reports the failures of its evaluations, one each. -/
def Accounts (E : Engine) (p : Run α) : Prop := ∀ c, E.wp p (fun tr _ _ => E.Accounted tr) c

theorem Accounted.append {tr tr' : List RunMoment} (h : E.Accounted tr) (h' : E.Accounted tr') : E.Accounted (tr ++ tr') := by
  unfold Accounted at h h' ⊢
  rw [List.flatMap_append, List.flatMap_append, failuresIn_append, failuresOf_append, h, h']

theorem Accounts.bind {p : Run α} {f : α → Run β} (h : E.Accounts p) (hf : ∀ a, E.Accounts (f a)) :
    E.Accounts (p >>= f) := by
  intro c
  rw [wp_bind]
  refine wp_mono (h c) fun tr r c₁ htr => ?_
  rcases r with _ | (e | a)
  · exact htr
  · exact htr
  · exact wp_mono (hf a c₁) fun tr' _ _ htr' => htr.append htr'

end Engine

/-- A moment at which nobody is told anything by the run itself and it is not picked where to go. -/
def RunMoment.Plain : RunMoment → Prop
  | ⟨.tell _, _, _⟩ => False
  | ⟨.next .., _, _⟩ => False
  | _ => True

theorem RunMoment.Clerical.plain {m : RunMoment} (h : m.Clerical) : m.Plain := by
  obtain ⟨call, answer, c⟩ := m
  cases call with
  | tell events => exact h
  | next g node s => exact h
  | _ => trivial

namespace Engine

variable {α : Type} {E : Engine} {thread node : String}

end Engine
end GatedFlow
