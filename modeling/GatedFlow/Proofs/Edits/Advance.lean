import GatedFlow.Proofs.Edits.Mutation

/-! # Edits on a store that does not fail

Where no call fails, an edit does what is planned. Then a thread advances to a state, with changes recorded, and nothing
else in the store is different (`Store.Advances`). Setting several fields without a schema always works, and it records
an update for each field with the value that the field had before (`advances_modify`). -/

namespace GatedFlow

/-- The updates that are recorded when fields are set in a state, each with the value before. -/
def State.changesTo (s : State) (update : Fields) : List Change :=
  update.entries.map fun e => ⟨.update, e.1, e.2, s.get? e.1⟩

theorem State.changesTo_of_isEmpty {update : Fields} (s : State) (h : update.isEmpty = true) : s.changesTo update = [] := by
  rw [changesTo, List.isEmpty_iff.1 h]
  rfl

/-- A later store in which a thread has come to a state, and these changes were recorded of it meanwhile. -/
structure Store.Advances (s s' : Store) (thread : String) (st : State) (changes : List Change) : Prop where
  reliable : s'.Reliable
  snapshots : ∀ key, s'.snapshots.get? key = if key = thread then some st else s.snapshots.get? key
  logged : s.Logged s' thread changes

namespace Store.Advances

variable {s s' s'' : Store} {thread : String} {st st' : State} {changes changes' : List Change}

theorem stored (h : s.Advances s' thread st changes) : s'.snapshots.get? thread = some st := by
  rw [h.snapshots, if_pos rfl]

theorem refl (hs : s.Reliable) (hst : s.snapshots.get? thread = some st) : s.Advances s thread st [] where
  reliable := hs
  snapshots key := by
    split
    · rename_i heq
      rw [heq, hst]
    · rfl
  logged := .of_ledgers rfl

theorem trans (h : s.Advances s' thread st changes) (h' : s'.Advances s'' thread st' changes') :
    s.Advances s'' thread st' (changes ++ changes') where
  reliable := h'.reliable
  snapshots key := by
    rw [h'.snapshots, h.snapshots]
    split <;> rfl
  logged := h.logged.trans h'.logged

end Store.Advances

namespace Edit

variable {α : Type} {e : Edit α} {s : Store} {thread : String} {st st' : State} {schema? : Option Schema}
  {ops : List Operation} {changes : List Change}

/-- Where no call fails, an edit that keeps to a plan carries it out. -/
theorem Carries.run_eq {m : Mutation} {a : α} (h : e.Carries s thread (.ok (m, a))) (hs : s.Reliable) :
    ∃ s', e.run s = (.ok a, s') ∧ s'.Reliable ∧ s'.snapshots = m.applied s.snapshots ∧ s.Logged s' thread m.changes := by
  have hreliable : (e.run s).2.Reliable := e.run_reliable hs
  unfold Carries at h
  rcases hrun : e.run s with ⟨p | a', s'⟩ <;> rw [hrun] at h hreliable
  · obtain ⟨-, _, -, hwhy⟩ := h
    cases hwhy with
    | refused hplan => cases hplan
    | outage _ hfails => exact absurd hs hfails
  · obtain ⟨m', hplan, hsnapshots, hlogged⟩ := h
    cases hplan
    exact ⟨s', rfl, hreliable, hsnapshots, hlogged⟩

/-- An edit that saves a state of its thread after recording changes. -/
theorem Carries.advances {a : α} (h : e.Carries s thread (.ok (⟨changes, some (thread, st)⟩, a)))
    (hs : s.Reliable) : ∃ s', e.run s = (.ok a, s') ∧ s.Advances s' thread st changes := by
  obtain ⟨s', hrun, hreliable, hsnapshots, hlogged⟩ := h.run_eq hs
  refine ⟨s', hrun, hreliable, fun key => ?_, hlogged⟩
  rw [hsnapshots]
  show (s.snapshots.insert thread st).get? key = _
  simp [eq_comm]

theorem advances_saveState (hs : s.Reliable) (st : State) :
    ∃ s', (saveState none thread st).run s = (.ok (), s') ∧ s.Advances s' thread st [] :=
  Carries.advances (carries_saveState st) hs

theorem advances_loadState (hs : s.Reliable) (hst : s.snapshots.get? thread = some st) :
    ∃ s', (loadState thread).run s = (.ok st, s') ∧ s.Advances s' thread st [] := by
  obtain ⟨s', hidle, hrun | ⟨hfails, -⟩⟩ := reads_loadState (s := s) thread
  · refine ⟨s', ?_, hidle.reliable hs, fun key => ?_, .of_ledgers hidle.ledgers⟩
    · rw [hrun, Mutation.stored, hst]
    · rw [hidle.snapshots]
      exact (Store.Advances.refl hs hst).snapshots key
  · exact absurd hs hfails

theorem run_history (hs : s.Reliable) (thread : String) : ((history thread).run s).1 = .ok (s.ledger thread) := by
  rw [history, run_ofCall, hs.answer_eq]
  rfl

theorem run_createCheckpoint (hs : s.Reliable) (hst : s.snapshots.get? thread = some st) (name : String) :
    ∃ s', (createCheckpoint thread name).run s = (.ok (), s') ∧ s'.Reliable ∧
      s'.snapshots = s.snapshots.insert (checkpointKey thread name) st := by
  have hcarries : (createCheckpoint thread name).Carries s thread _ := carries_createCheckpoint name
  rw [Mutation.ofCheckpoint, Mutation.stored, hst] at hcarries
  obtain ⟨s', hrun, hreliable, hsnapshots, -⟩ := hcarries.run_eq hs
  exact ⟨s', hrun, hreliable, hsnapshots⟩

theorem advances_restoreCheckpoint {name : String} (hs : s.Reliable)
    (hst : s.snapshots.get? (checkpointKey thread name) = some st) :
    ∃ s', (restoreCheckpoint thread name).run s = (.ok st, s') ∧ s.Advances s' thread st [.restore name] := by
  have hcarries : (restoreCheckpoint thread name).Carries s thread _ := carries_restoreCheckpoint name
  rw [Mutation.ofRestore, hst] at hcarries
  exact hcarries.advances hs

/-- What a batch on a thread with a state is to write, told from what its operations make of that state. -/
theorem carries_batch_of_stored (hst : s.snapshots.get? thread = some st) (schema? : Option Schema) (ops : List Operation) :
    (batch schema? thread ops).Carries s thread
      ((Operation.applyAll schema? thread ops st).map fun r => (⟨r.2, some (thread, r.1)⟩, r.1)) := by
  have h : (batch schema? thread ops).Carries s thread (Mutation.ofBatch schema? s.snapshots thread ops) := carries_batch ops
  rw [Mutation.ofBatch_eq, Mutation.stored, hst] at h
  exact h

theorem advances_batch (hs : s.Reliable) (hst : s.snapshots.get? thread = some st)
    (happly : Operation.applyAll schema? thread ops st = .ok (st', changes)) :
    ∃ s', (batch schema? thread ops).run s = (.ok st', s') ∧ s.Advances s' thread st' changes := by
  have h := carries_batch_of_stored hst schema? ops
  rw [happly] at h
  exact h.advances hs

theorem advances_modify (hs : s.Reliable) (hst : s.snapshots.get? thread = some st) (update : Fields) :
    ∃ s', (modify none thread update).run s = (.ok (st.merge update), s') ∧
      s.Advances s' thread (st.merge update) (st.changesTo update) := by
  rw [modify_eq_batch]
  exact advances_batch hs hst ((Operation.updateAll_eq ..).symm.trans (Operation.updateAll_sorted update.sorted st))

end Edit
end GatedFlow
