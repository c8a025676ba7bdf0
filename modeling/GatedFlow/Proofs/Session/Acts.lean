import GatedFlow.Proofs.Approval.Acts
import GatedFlow.Proofs.Session.Charges

/-! # What sessions do at the approval desk

Commands, waits, runs and turns of a session do nothing at the approval desk but acts (`Desk.Acts`), and each desk that a
session comes to, at its turns and at each moment of its runs, is reached by acts (`Turn.acts_of_mem_desks`). -/

namespace GatedFlow

theorem Command.run_acts (rules : EditRules) (c : Command) (w : World) : w.desk.Acts (c.run rules w).2.desk := by
  cases c with
  | edit c => exact .refl
  | store c => exact .refl
  | desk c => exact c.run_acts w.desk

theorem Course.await_acts (rules : EditRules) (r : Request) (limit : Option Nat) (c : Course) :
    c.world.desk.Acts (c.await rules r limit).2.world.desk :=
  await_keeps (J := fun w => c.world.desk.Acts w.desk) (fun a _ w h => h.trans (a.command.run_acts rules w))
    (fun w time h => h.trans (w.desk.advanceTo_acts time)) (fun _ h => h.tail (.resolve _ _)) .refl

theorem RunCall.answer_acts {α : Type} (rules : EditRules) (registry : Nat) (call : RunCall α) (c : Course) :
    c.world.desk.Acts (call.answer rules registry c).2.world.desk := by
  cases call with
  | edit e => exact .refl
  | askReason s node => exact c.world.desk.tellAll_acts _ _
  | createRequest thread node reason timeout => exact .single (.create thread node reason timeout)
  | currentRequest thread => exact .refl
  | latest r => exact .refl
  | cancelRequest thread => exact .single (.cancel thread)
  | await r limit => exact c.await_acts rules r limit
  | tell events => exact c.world.desk.tellAll_acts registry events
  | execute g node s => exact .refl
  | next g node s => exact .refl

/-- A run only does acts at the desk, up to each of its moments and to its end. -/
theorem Engine.outcome_acts {α : Type} (E : Engine) (p : Run α) (c : Course) :
    c.world.desk.Acts (E.outcome p c).2.world.desk ∧ ∀ m ∈ E.trace p c, c.world.desk.Acts m.before.world.desk :=
  Program.runWhile_related (R := fun c c' : Course => c.world.desk.Acts c'.world.desk) (fun _ => .refl)
    (fun h h' => h.trans h') (RunCall.answer_acts E.rules E.registry) (ExceptT.run p) c

namespace Turn

theorem next_acts (t : Turn) (w : World) : w.desk.Acts (t.next w).desk ∧
    ∀ m ∈ t.engine.stepTrace t.patience t.step w, w.desk.Acts m.before.world.desk := by
  obtain ⟨E, patience, s⟩ := t
  cases s with
  | command c => exact ⟨c.run_acts E.rules w, by simp [Engine.stepTrace]⟩
  | together edits => exact ⟨.refl, by simp [Engine.stepTrace]⟩
  | wait thread limit commands => exact E.outcome_acts (Run.wait thread limit) (.start patience w commands)
  | invoke thread initial commands => exact E.outcome_acts (E.invoke thread initial) (.start patience w commands)
  | resume thread commands => exact E.outcome_acts (E.resume thread) (.start patience w commands)

theorem after_acts (turns : List Turn) (w : World) : w.desk.Acts (after turns w).desk := by
  induction turns generalizing w with
  | nil => exact .refl
  | cons t turns ih => exact (t.next_acts w).1.trans (ih _)

/-- The desks that a session comes to: before each turn, at each moment of a run, and at the end. -/
def desks : List Turn → World → List Desk
  | [], w => [w.desk]
  | t :: rest, w =>
    w.desk :: ((t.engine.stepTrace t.patience t.step w).map (·.before.world.desk) ++ desks rest (t.next w))

theorem acts_of_mem_desks {turns : List Turn} {w : World} {d : Desk} (h : d ∈ desks turns w) : w.desk.Acts d := by
  induction turns generalizing w with
  | nil =>
    obtain rfl := List.mem_singleton.1 h
    exact .refl
  | cons t rest ih =>
    obtain ⟨hnext, hmoments⟩ := t.next_acts w
    rcases List.mem_cons.1 h with rfl | h
    · exact .refl
    · rcases List.mem_append.1 h with h | h
      · obtain ⟨m, hm, rfl⟩ := List.mem_map.1 h
        exact hmoments m hm
      · exact hnext.trans (ih h)

end Turn
end GatedFlow
