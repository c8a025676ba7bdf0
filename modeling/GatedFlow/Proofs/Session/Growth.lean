import GatedFlow.Proofs.Program.Trace
import GatedFlow.Proofs.Session.Waits
import GatedFlow.Session.Basic

/-! # The approval desk during a session

Commands, waits, runs and whole steps of a session only let the approval desk grow (`Desk.Grows`), and a wait that
ends with a decision ends with the one that stands at the desk (`Course.await_decision`). -/

namespace GatedFlow

theorem Command.run_grows (rules : EditRules) (c : Command) (w : World) : w.desk.Grows (c.run rules w).2.desk := by
  cases c with
  | edit c => exact .refl _
  | store c => exact .refl _
  | desk c => exact c.run_grows w.desk

theorem World.advanceTo_grows (w : World) (time : Nat) : w.desk.Grows (w.advanceTo time).desk :=
  w.desk.advanceTo_grows time

/-- A decision stands. -/
theorem World.decision?_grows {w w' : World} {id : Nat} {status : ApprovalStatus} (h : w.decision? id = some status)
    (hg : w.desk.Grows w'.desk) : w'.decision? id = some status := by
  obtain ⟨r, hr, hstatus, ht⟩ := decision?_eq_some_iff.1 h
  obtain ⟨r', hr', hlater⟩ := hg.kept id r hr
  rw [hlater.eq_of_isTerminal (hstatus ▸ ht)] at hr'
  exact decision?_eq_some_iff.2 ⟨r, hr', hstatus, ht⟩

namespace Course

theorem await_grows (rules : EditRules) (r : Request) (limit : Option Nat) (c : Course) :
    c.world.desk.Grows (c.await rules r limit).2.world.desk :=
  await_keeps (J := fun w => c.world.desk.Grows w.desk) (fun a _ w h => h.trans (a.command.run_grows rules w))
    (fun w time h => h.trans (w.advanceTo_grows time)) (fun w h => h.trans (w.desk.resolve_grows _ _)) (.refl _)

/-- A wait that ends with a decision ends with the one that stands at the desk. -/
theorem await_decision {rules : EditRules} {r : Request} {limit : Option Nat} {c : Course} {status : ApprovalStatus}
    (h : (c.await rules r limit).1 = some (.ok status)) :
    (c.await rules r limit).2.world.decision? r.record.id = some status := by
  obtain ⟨happened, wake, -, hends, -⟩ := c.await_ends rules r limit
  exact (hends.decision h).2

/-- What a wait reports. If it is given up, its request is open; else it answers with the decision that its request has
come to, and its own timer has ended it exactly if there was no decision after the commands that came before. -/
theorem await_reports {r r₀ : Request} {c : Course} (rules : EditRules) (limit : Option Nat)
    (hr : c.world.desk.request? r.record.id = some r₀) :
    ∃ happened, c.agenda = happened ++ (c.await rules r limit).2.agenda ∧ match (c.await rules r limit).1 with
      | none => (c.await rules r limit).2.world.decision? r.record.id = none
      | some result => ∃ status, (c.await rules r limit).2.world.decision? r.record.id = some status ∧
        Reports r limit ((c.world.after rules happened).decision? r.record.id = none) result status := by
  obtain ⟨happened, wake, hagenda, hends, hwake⟩ := c.await_ends rules r limit
  refine ⟨happened, hagenda, ?_⟩
  have hgrows : c.world.desk.Grows (c.world.after rules happened).desk :=
    World.after_keeps (J := fun w => c.world.desk.Grows w.desk) (fun a _ w h => h.trans (a.command.run_grows rules w))
      (fun w time h => h.trans (w.advanceTo_grows time)) (.refl _)
  obtain ⟨r₁, hr₁, -⟩ := hgrows.kept _ _ hr
  generalize c.await rules r limit = answer at hends ⊢
  rcases answer with ⟨_ | result, c'⟩
  · obtain ⟨rfl, hsame⟩ := hends.of_none
    exact hsame.trans (hwake.resolve_right fun ⟨_, h⟩ => by cases h)
  · obtain ⟨status, hstatus, hreports⟩ := hends.reports hr₁
    have htimer : (wake = .timeUp) = ((c.world.after rules happened).decision? r.record.id = none) := by
      refine propext ⟨?_, hends.timeUp_of_open⟩
      rintro rfl
      exact hwake.resolve_right fun ⟨_, h⟩ => by cases h
    exact ⟨status, hstatus, htimer ▸ hreports⟩

end Course

theorem RunCall.answer_grows {α : Type} (rules : EditRules) (registry : Nat) (call : RunCall α) (c : Course) :
    c.world.desk.Grows (call.answer rules registry c).2.world.desk := by
  cases call with
  | edit e => exact .refl _
  | askReason s node => exact c.world.desk.askReason_grows s node
  | createRequest thread node reason timeout => exact c.world.desk.createRequest_grows thread node reason timeout
  | currentRequest thread => exact .refl _
  | latest r => exact .refl _
  | cancelRequest thread => exact c.world.desk.cancelRequest_grows thread
  | await r limit => exact c.await_grows rules r limit
  | tell events => exact c.world.desk.tellAll_grows registry events
  | execute g node s => exact .refl _
  | next g node s => exact .refl _

theorem Run.run_grows {α : Type} (rules : EditRules) (registry : Nat) (p : Run α) (c : Course) :
    c.world.desk.Grows (p.run rules registry c).2.world.desk :=
  (Program.runWhile_related (R := fun c c' : Course => c.world.desk.Grows c'.world.desk) (fun c => .refl c.world.desk)
    Desk.Grows.trans (RunCall.answer_grows rules registry) (ExceptT.run p) c).1

theorem Engine.stepWithin_grows (E : Engine) (patience : Nat) (s : Step) (w : World) :
    w.desk.Grows (E.stepWithin patience s w).2.desk := by
  cases s with
  | command c => exact c.run_grows E.rules w
  | together edits => exact .refl _
  | wait thread limit commands => exact Run.run_grows E.rules E.registry _ (Course.start patience w commands)
  | invoke thread initial commands => exact Run.run_grows E.rules E.registry _ (Course.start patience w commands)
  | resume thread commands => exact Run.run_grows E.rules E.registry _ (Course.start patience w commands)

end GatedFlow
