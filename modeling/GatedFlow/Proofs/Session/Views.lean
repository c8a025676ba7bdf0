import GatedFlow.Proofs.Run.Views

/-! # Sessions in views

`Engine.stepsNotices` lists what a session tells the observers. In a view a session gives the same answers and leaves the
same, with what is heard of its notices on record (`View.step_world`, `View.steps_world`). -/

namespace GatedFlow

namespace Engine

/-- What a step of a session tells the observers. -/
def stepNotices (E : Engine) (patience : Nat) (s : Step) (w : World) : List Notice :=
  match s with
  | .command c => c.notices w
  | s => (E.stepTrace patience s w).flatMap E.momentNotices

/-- What a session tells the observers. -/
def stepsNotices (E : Engine) (patience : Nat) : List Step → World → List Notice
  | [], _ => []
  | s :: rest, w => E.stepNotices patience s w ++ E.stepsNotices patience rest (E.stepWithin patience s w).2

end Engine

namespace View

variable (v : View) (E : Engine) (patience : Nat) (w : World) (log : List Delivery)

theorem start_world (commands : List (Nat × Command)) :
    Course.start patience (v.world w log) (commands.map fun e => (e.1, e.2.replace v.predicate)) =
      v.course (Course.start patience w commands) log := by
  have hagenda : ((commands.map fun e => (e.1, e.2.replace v.predicate)).mapIdx
      fun i c => (⟨w.desk.clock + c.1, i, c.2⟩ : Appointment)) =
        (commands.mapIdx fun i c => (⟨w.desk.clock + c.1, i, c.2⟩ : Appointment)).map v.appointment := by
    refine List.ext_getElem? fun i => ?_
    simp only [List.getElem?_mapIdx, List.getElem?_map]
    cases commands[i]? <;> rfl
  -- commands are sorted by when they are due, which is the same in a view
  have hsorted : ∀ l : List Appointment, (l.mergeSort fun a b => decide (a.due ≤ b.due)).map v.appointment =
      (l.map v.appointment).mergeSort fun a b => decide (a.due ≤ b.due) :=
    fun l => List.map_mergeSort fun _ _ _ _ => rfl
  unfold Course.start course
  dsimp only
  rw [hsorted, ← hagenda]
  rfl

theorem carryOut_world {α : Type} (p : Run α) (commands : List (Nat × Command)) :
    (E.replace v.predicate).carryOut patience (v.program p) (commands.map fun e => (e.1, e.2.replace v.predicate))
      (v.world w log) =
        let c := (E.outcome p (.start patience w commands)).2
        ((E.outcome p (.start patience w commands)).1, (List.range commands.length).map c.reply?,
          v.world c.world (log ++ v.told (E.notices p (.start patience w commands)))) := by
  have houtcome := v.outcome_course E p (.start patience w commands) log
  unfold Engine.carryOut
  rw [start_world, List.length_map]
  exact congrArg (fun r : Option (Except FlowError α) × Course =>
    (r.1, (List.range commands.length).map r.2.reply?, r.2.world)) houtcome

/-- A step of a session in a view answers as it does otherwise. -/
theorem step_world (s : Step) : (E.replace v.predicate).stepWithin patience (s.replace v.predicate) (v.world w log) =
    ((E.stepWithin patience s w).1,
      v.world (E.stepWithin patience s w).2 (log ++ v.told (E.stepNotices patience s w))) := by
  cases s with
  | command c => exact congrArg (fun p : Reply × World => (StepReply.reply p.1, p.2)) (v.run_command w log E.rules c)
  | together edits =>
    show _ = (_, v.world _ (log ++ v.told []))
    rw [told_nil, List.append_nil]
    rfl
  | wait thread limit commands =>
    have hrun := v.carryOut_world E patience w log (Run.wait thread limit) commands
    rw [program_wait] at hrun
    exact congrArg (fun r : Option (Except FlowError ApprovalStatus) × List (Option Reply) × World =>
      (StepReply.waited r.1 r.2.1, r.2.2)) hrun
  | invoke thread initial commands =>
    have hrun := v.carryOut_world E patience w log (E.invoke thread initial) commands
    rw [program_invoke] at hrun
    exact congrArg (fun r : Option (Except FlowError Outcome) × List (Option Reply) × World =>
      (StepReply.ran r.1 r.2.1, r.2.2)) hrun
  | resume thread commands =>
    have hrun := v.carryOut_world E patience w log (E.resume thread) commands
    rw [program_resume] at hrun
    exact congrArg (fun r : Option (Except FlowError Outcome) × List (Option Reply) × World =>
      (StepReply.ran r.1 r.2.1, r.2.2)) hrun

theorem steps_world (steps : List Step) :
    (E.replace v.predicate).stepsWithin patience (steps.map (·.replace v.predicate)) (v.world w log) =
      ((E.stepsWithin patience steps w).1,
        v.world (E.stepsWithin patience steps w).2 (log ++ v.told (E.stepsNotices patience steps w))) := by
  induction steps generalizing w log with
  | nil => simp only [List.map_nil, Engine.stepsWithin, Engine.stepsNotices, told_nil, List.append_nil]
  | cons s rest ih =>
    simp only [List.map_cons, Engine.stepsWithin, Engine.stepsNotices, step_world, ih, told_append, List.append_assoc]

end View

/-! ## Other observers -/

/-- A world with other observers, and what those have recorded. -/
def World.shownTo (w : World) (registries : List Registry) (log : List Delivery) : World :=
  { w with desk := { w.desk with registries, log } }

theorem View.plain_world (registries : List Registry) (w : World) (log : List Delivery) :
    (plain registries).world w log = w.shownTo registries log := by
  have hpolicy : w.desk.policy.replace (plain registries).predicate = w.desk.policy := w.desk.policy.replace_id
  unfold world desk
  rw [hpolicy]
  rfl

namespace Engine

variable (E : Engine) (patience : Nat) (w : World)

/-- What observers record of a session follows from the session without regard to them. -/
theorem stepsWithin_shownTo (steps : List Step) (registries : List Registry) (log : List Delivery) :
    E.stepsWithin patience steps (w.shownTo registries log) = ((E.stepsWithin patience steps w).1,
      (E.stepsWithin patience steps w).2.shownTo registries
        (log ++ recorded registries (E.stepsNotices patience steps w))) := by
  have hview := (View.plain registries).steps_world E patience w log steps
  have hengine : E.replace (View.plain registries).predicate = E := E.replace_id
  have hsteps : steps.map (·.replace (View.plain registries).predicate) = steps :=
    (List.map_congr_left fun s _ => s.replace_id).trans (List.map_id steps)
  rw [hengine, hsteps, View.plain_world, View.plain_world, View.plain_told] at hview
  exact hview

end Engine
end GatedFlow
