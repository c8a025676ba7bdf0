import GatedFlow.Proofs.Edits.Atomic

/-! # Fields that edits leave alone

`storedIn` is what the stored state of a thread has in a field. Setting a thread's status and dropping a field of it leave
every other field as it is, whether they end well or not (`setStatus_storedIn`, `deleteField_storedIn`). -/

namespace GatedFlow

/-- What the stored state of a thread has in a field. -/
def storedIn (snapshots : Record State) (thread field : String) : Option Value :=
  (snapshots.get? thread).bind (·.get? field)

variable {s : Store} {thread field : String} {schema? : Option Schema}

theorem storedIn_of_get? {m : Record State} {st : State} (h : m.get? thread = some st) :
    storedIn m thread field = st.get? field := by
  rw [storedIn, h]
  rfl

@[simp] theorem storedIn_insert (m : Record State) (thread : String) (st : State) (field : String) :
    storedIn (m.insert thread st) thread field = st.get? field :=
  storedIn_of_get? (by rw [Record.get?_insert, if_pos rfl])

theorem Migrator.migrate_get? {m : Migrator} {st st' : State} {version : String} (h : m.migrate st version = .ok st')
    (hfield : field ≠ versionField) : st'.get? field = st.get? field := by
  unfold migrate at h
  split at h
  · cases h; rfl
  · split at h
    · split at h
      · cases h; rfl
      · cases h
    · cases h
      rw [State.get?_set, if_neg (Ne.symm hfield)]

namespace Edit

theorem setStatus_storedIn (status : String) (hfield : field ≠ statusField) :
    (setStatus schema? thread status).Does s False fun _ m => storedIn m thread field = storedIn s.snapshots thread field := by
  refine (does_setStatus False.elim).mono fun b m h => ?_
  obtain ⟨st, hst, -, rfl⟩ := h
  split
  · rw [storedIn_insert, State.get?_set, if_neg (Ne.symm hfield), storedIn_of_get? hst]
  · rfl

theorem deleteField_storedIn (dropped : String) : (deleteField schema? thread dropped).Does s False fun _ m =>
    storedIn m thread field = if dropped = field then none else storedIn s.snapshots thread field := by
  refine (does_deleteField False.elim).mono fun st' m h => ?_
  obtain ⟨st, hst, rfl, rfl⟩ := h
  rw [storedIn_insert, State.get?_remove, storedIn_of_get? hst]

end Edit
end GatedFlow
