import GatedFlow.Proofs.Edits.Atomic

/-! # Edits and versions

Only the edit that loads a thread's state for a run to be resumed can fail for the version of the state, and it writes
nothing (`loadForResume_reads`); the other edits of runs are `Edit.Unversioned`. -/

namespace GatedFlow

/-- A result that is no complaint about a version. -/
def Unversioned {α : Type} (r : Except StoreError α) : Prop := ∀ p, r ≠ .error (.version p)

namespace Unversioned

variable {α β : Type}

theorem ok (a : α) : Unversioned (.ok a : Except StoreError α) := fun _ h => by cases h

theorem bind {r : Except StoreError α} {f : α → Except StoreError β} (h : Unversioned r) (hf : ∀ a, Unversioned (f a)) :
    Unversioned (r >>= f) := by
  cases r with
  | ok a => exact hf a
  | error e =>
    rintro p ⟨⟩
    exact h p rfl

theorem allows (schema? : Option Schema) (check : Schema → Except SchemaProblem Unit) :
    Unversioned (Schema.allows schema? check) := by
  cases schema? with
  | none => exact ok ()
  | some schema =>
    intro p h
    change (check schema).mapError StoreError.schema = _ at h
    generalize check schema = r at h
    cases r <;> cases h

theorem applyUpdate (schema? : Option Schema) (field : String) (value : Value) (s : State) :
    Unversioned (Operation.applyUpdate schema? field value s) :=
  (allows _ _).bind fun _ => ok _

theorem apply (schema? : Option Schema) (thread : String) (op : Operation) (s : State) :
    Unversioned (op.apply schema? thread s) := by
  cases op with
  | update field value => exact applyUpdate schema? field value s
  | delete field =>
    refine (allows _ _).bind fun _ => ?_
    split
    · exact ok _
    · exact fun _ h => by cases h
  | append field value =>
    refine (allows _ _).bind fun _ => ?_
    split
    · exact ok _
    · exact fun _ h => by cases h
    · exact ok _

theorem applyAll (schema? : Option Schema) (thread : String) (ops : List Operation) (s : State) :
    Unversioned (Operation.applyAll schema? thread ops s) := by
  induction ops generalizing s with
  | nil => exact ok _
  | cons op ops ih => exact (apply schema? thread op s).bind fun r => (ih r.1).bind fun _ => ok _

end Unversioned

namespace Edit

variable {α β : Type}

/-- An edit that makes no complaint about a version. -/
def Unversioned (e : Edit α) : Prop := ∀ s, GatedFlow.Unversioned (e.run s).1

namespace Unversioned

theorem pure (a : α) : (pure a : Edit α).Unversioned := fun _ => .ok a

theorem ofExcept {r : Except StoreError α} (h : GatedFlow.Unversioned r) : (ofExcept r).Unversioned := fun _ => h

theorem bind {e : Edit α} {f : α → Edit β} (h : e.Unversioned) (hf : ∀ a, (f a).Unversioned) :
    (e >>= f).Unversioned := by
  intro s
  have hs := h s
  rw [run_bind]
  rcases hrun : e.run s with ⟨p | a, s'⟩
  · rw [hrun] at hs
    rintro p ⟨⟩
    exact hs p rfl
  · exact hf a s'

theorem underLock {e : Edit α} (h : e.Unversioned) (thread : String) : (underLock thread e).Unversioned := by
  intro s
  rw [run_underLock]
  exact h s

theorem ofCall (call : StoreCall α) : (ofCall call).Unversioned := by
  intro s
  rw [run_ofCall]
  rcases s.answer_cases call with h | ⟨h, -⟩
  · rw [h]
    cases call with
    | load key =>
      unfold Store.serve
      dsimp only
      split
      · exact .ok _
      · exact fun _ h => by cases h
    | _ => exact .ok _
  · rw [h]
    exact fun _ h => by cases h

theorem record (thread : String) (changes : List Change) : (record thread changes).Unversioned := by
  induction changes with
  | nil => exact pure ()
  | cons change changes ih => exact (ofCall _).bind fun _ => ih

theorem commit (thread : String) (changes : List Change) (st : State) : (commit thread changes st).Unversioned :=
  (record thread changes).bind fun _ => ofCall _

theorem saveState (schema? : Option Schema) (thread : String) (st : State) : (saveState schema? thread st).Unversioned :=
  (ofExcept (.allows _ _)).bind fun _ => (ofCall _).underLock thread

theorem batch (schema? : Option Schema) (thread : String) (ops : List Operation) : (batch schema? thread ops).Unversioned :=
  ((ofCall _).bind fun st => (ofExcept (.applyAll schema? thread ops st)).bind fun r =>
    (commit thread r.2 r.1).bind fun _ => pure r.1).underLock thread

theorem modify (schema? : Option Schema) (thread : String) (updates : Fields) :
    (modify schema? thread updates).Unversioned := by
  rw [modify_eq_batch]
  exact batch schema? thread _

theorem deleteField (schema? : Option Schema) (thread field : String) : (deleteField schema? thread field).Unversioned := by
  rw [deleteField_eq_batch]
  exact batch schema? thread _

theorem setStatus (schema? : Option Schema) (thread status : String) : (setStatus schema? thread status).Unversioned := by
  refine ((ofCall _).bind fun st => ?_).underLock thread
  split
  · exact (ofExcept (.applyUpdate schema? statusField _ st)).bind fun r => (commit thread [r.2] r.1).bind fun _ => pure true
  · exact pure false

end Unversioned

/-- Loading a thread's state for a run to be resumed writes nothing, whether the migrator takes the state or not. -/
theorem loadForResume_reads (migrator : Migrator) (thread version : String) (s : Store) :
    ((loadForResume migrator thread version).run s).2.snapshots = s.snapshots ∧
      ((loadForResume migrator thread version).run s).2.ledgers = s.ledgers := by
  have hload : ((loadState thread).run s).2.snapshots = s.snapshots ∧ ((loadState thread).run s).2.ledgers = s.ledgers := by
    unfold loadState
    rw [run_ofCall]
    rcases s.answer_cases (.load thread) with h | ⟨h, -⟩
    · rw [h]
      rw [Store.serve_load]
      exact ⟨rfl, rfl⟩
    · rw [h]
      exact ⟨rfl, rfl⟩
  rw [loadForResume, run_bind]
  rcases hrun : (loadState thread).run s with ⟨p | st, s'⟩
  all_goals
    rw [hrun] at hload
    exact hload

end Edit
end GatedFlow
