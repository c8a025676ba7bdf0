import GatedFlow.Proofs.Run.Calls

/-! # Runs on other threads

A run writes the state of its own thread only and asks for approvals on it only (`apart_invoke`, `apart_resume`). For any
other thread it is as if there had been no run, but for the commands that came while the run waited
(`Only.untouched`). -/

namespace GatedFlow

variable {α : Type} {thread other : String}

/-- The state of a thread is as it was, and it has been given no request. -/
structure World.Untouched (thread : String) (w w' : World) : Prop where
  stored : w'.store.snapshots.get? thread = w.store.snapshots.get? thread
  unasked : w.desk.Unasked thread w'.desk

namespace World.Untouched

variable {w w' w'' : World}

theorem refl (w : World) : w.Untouched thread w := ⟨rfl, .refl _⟩

theorem trans (h : w.Untouched thread w') (h' : w'.Untouched thread w'') : w.Untouched thread w'' :=
  ⟨h'.stored.trans h.stored, h.unasked.trans h'.unasked⟩

end World.Untouched

theorem Command.LeavesThread.untouched {command : Command} (h : command.LeavesThread thread) (rules : EditRules) (w : World) :
    w.Untouched thread (command.run rules w).2 :=
  ⟨h.stored rules w, h.unasked rules w⟩

/-- An edit that does not write the state of a thread. -/
def Edit.LeavesThread (thread : String) (e : Edit α) : Prop :=
  ∀ s, (e.run s).2.snapshots.get? thread = s.snapshots.get? thread

namespace Edit

variable {schema? : Option Schema}

theorem LeavesThread.of_does {e : Edit α} {Q : Store → α → Record State → Prop} (h : ∀ s, e.Does s False (Q s))
    (hQ : ∀ s a m, Q s a m → m.get? thread = s.snapshots.get? thread) : e.LeavesThread thread := by
  intro s
  have h := h s
  unfold Does at h
  rcases hrun : e.run s with ⟨p | a, s'⟩
  · rw [hrun] at h
    exact congrArg (·.get? thread) h.1
  · rw [hrun] at h
    exact hQ s a _ h

theorem loadState_leaves (other : String) : (loadState other).LeavesThread thread :=
  .of_does (fun _ => does_loadState False.elim) fun _ _ _ h => by rw [h.2]

theorem loadForResume_leaves (migrator : Migrator) (other version : String) :
    (loadForResume migrator other version).LeavesThread thread := by
  refine .of_does (fun _ => does_loadForResume False.elim) fun _ _ _ h => ?_
  obtain ⟨-, -, -, rfl⟩ := h
  rfl

theorem saveState_leaves (h : other ≠ thread) (st : State) : (saveState schema? other st).LeavesThread thread :=
  .of_does (fun _ => does_saveState False.elim) fun _ _ _ hm => by rw [hm, Record.get?_insert, if_neg h]

theorem mutate_leaves (h : other ≠ thread) (change : State → Except StoreError (State × List Change)) :
    (mutate other change).LeavesThread thread := by
  refine .of_does (fun _ => does_mutate False.elim) fun _ _ _ hm => ?_
  obtain ⟨-, -, -, -, rfl⟩ := hm
  rw [Record.get?_insert, if_neg h]

theorem setStatus_leaves (h : other ≠ thread) (status : String) : (setStatus schema? other status).LeavesThread thread := by
  refine .of_does (fun _ => does_setStatus False.elim) fun _ _ _ hm => ?_
  obtain ⟨-, -, -, rfl⟩ := hm
  split
  · rw [Record.get?_insert, if_neg h]
  · rfl

end Edit

/-- A call that neither writes the state of a thread nor asks for an approval on it. -/
def RunCall.LeavesThread (thread : String) : RunCall α → Prop
  | .edit e => e.LeavesThread thread
  | .createRequest t _ _ _ => t ≠ thread
  | _ => True

theorem RunCall.LeavesThread.not_asksFor {call : RunCall α} (h : call.LeavesThread thread) : ¬call.AsksFor thread := by
  cases call with
  | createRequest t node reason timeout => exact h
  | _ => exact id

theorem RunCall.answer_stored {call : RunCall α} {c : Course} (h : call.LeavesThread thread) (hc : c.LeavesThread thread)
    (rules : EditRules) (registry : Nat) :
    (call.answer rules registry c).2.world.store.snapshots.get? thread = c.world.store.snapshots.get? thread := by
  cases call with
  | edit e => exact h c.world.store
  | await r limit =>
    exact Course.await_keeps (J := fun w => w.store.snapshots.get? thread = c.world.store.snapshots.get? thread)
      (fun a ha w hw => ((hc a ha).stored rules w).trans hw) (fun _ _ hw => hw) (fun _ hw => hw) rfl
  | _ => rfl

namespace Engine

variable {E : Engine} {c : Course}

theorem Calls.leavesThread {call : RunCall α} (h : E.Calls other call) (hother : other ≠ thread) :
    call.LeavesThread thread := by
  cases h with
  | load => exact Edit.loadState_leaves _
  | loadForResume version => exact Edit.loadForResume_leaves _ _ _
  | save st => exact Edit.saveState_leaves hother st
  | modify updates => exact Edit.mutate_leaves hother _
  | deleteField field => exact Edit.mutate_leaves hother _
  | setStatus status => exact Edit.setStatus_leaves hother status
  | createRequest node reason timeout => exact hother
  | _ => trivial

/-- A run whose calls leave a thread leaves it, if the commands that may come do. -/
theorem Only.untouched {p : Run α} (h : E.Only (fun m => m.call.LeavesThread thread) p) (hc : c.LeavesThread thread) :
    E.wp p (fun _ _ c' => c.world.Untouched thread c'.world) c := by
  have hrelated := h.related (R := fun c c' => c.LeavesThread thread → c.world.Untouched thread c'.world ∧ c'.LeavesThread thread)
    (fun _ hc => ⟨.refl _, hc⟩) (fun h h' hc => ⟨(h hc).1.trans (h' (h hc).2).1, (h' (h hc).2).2⟩)
    (fun m hm hc => by
      obtain ⟨hunasked, hleaves⟩ := RunCall.answer_unasked hm.not_asksFor hc E.rules E.registry
      exact ⟨⟨RunCall.answer_stored hm hc E.rules E.registry, hunasked⟩, hleaves⟩) c
  exact wp_mono hrelated fun _ _ _ h => (h hc).1

theorem apart_wait (limit : Option Nat) : E.Only (fun m => m.call.LeavesThread thread) (Run.wait other limit) := by
  refine (only_ofCall fun _ _ => trivial).bind fun request? => ?_
  split
  · exact only_throw _
  · exact only_ofTry fun _ _ => trivial

theorem apart_invoke (h : other ≠ thread) (initial : State) :
    E.Only (fun m => m.call.LeavesThread thread) (E.invoke other initial) :=
  (calls_invoke initial).mono fun _ hm => hm.leavesThread h

theorem apart_resume (h : other ≠ thread) : E.Only (fun m => m.call.LeavesThread thread) (E.resume other) :=
  calls_resume.mono fun _ hm => hm.leavesThread h

end Engine
end GatedFlow
