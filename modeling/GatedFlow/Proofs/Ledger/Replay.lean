import GatedFlow.Edits.Operation

/-! # Changes that lead from one state to another

`Change.Leads s changes s'` says that making the changes again turns `s` into `s'` and taking them back turns `s'` into
`s`. Every operation records changes that do (`Operation.leads_of_applyAll`): it takes the value before from the state
that the operations before it have left, not from the one they all began with. -/

namespace GatedFlow

/-- Making changes again turns one state into another, and taking them back turns that into the first. -/
structure Change.Leads (s : State) (changes : List Change) (s' : State) : Prop where
  redo : redoAll changes s = s'
  undo : undoAll changes s' = s

namespace Change

variable {s s' s'' : State} {c : Change} {changes changes' : List Change}

theorem redoAll_append (changes changes' : List Change) (s : State) :
    redoAll (changes ++ changes') s = redoAll changes' (redoAll changes s) := List.foldl_append

theorem undoAll_append (changes changes' : List Change) (s : State) :
    undoAll (changes ++ changes') s = undoAll changes (undoAll changes' s) := List.foldr_append

/-- A change that remembers what its field held before takes back whatever was put into the field. -/
theorem undo_set {value : Value} (h : c.previous = s.get? c.field) : c.undo (s.set c.field value) = s := by
  unfold undo
  rw [h]
  cases hfield : s.get? c.field with
  | none => exact State.remove_set hfield
  | some previous => exact (State.set_set ..).trans (State.set_of_get? hfield)

namespace Leads

theorem nil (s : State) : Leads s [] s := ⟨rfl, rfl⟩

theorem single (hredo : c.redo s = s') (hundo : c.undo s' = s) : Leads s [c] s' := ⟨hredo, hundo⟩

theorem append (h : Leads s changes s') (h' : Leads s' changes' s'') : Leads s (changes ++ changes') s'' where
  redo := by rw [redoAll_append, h.redo, h'.redo]
  undo := by rw [undoAll_append, h'.undo, h.undo]

end Leads
end Change

namespace Operation

variable {schema? : Option Schema} {thread field : String} {value : Value} {s s' : State} {change : Change}

theorem leads_of_applyUpdate (h : applyUpdate schema? field value s = .ok (s', change)) : Change.Leads s [change] s' := by
  obtain ⟨-, -, h⟩ := bind_eq_ok_iff.1 h
  cases h
  exact .single rfl (Change.undo_set rfl)

theorem leads_of_applyDelete (h : applyDelete schema? thread field s = .ok (s', change)) :
    Change.Leads s [change] s' := by
  obtain ⟨-, -, h⟩ := bind_eq_ok_iff.1 h
  cases hfield : s.get? field with
  | none => rw [hfield] at h; cases h
  | some previous =>
    rw [hfield] at h
    cases h
    exact .single rfl ((State.set_remove ..).trans (State.set_of_get? hfield))

theorem leads_of_applyAppend (h : applyAppend schema? field value s = .ok (s', change)) :
    Change.Leads s [change] s' := by
  obtain ⟨-, -, h⟩ := bind_eq_ok_iff.1 h
  split at h
  · rename_i items hfield
    cases h
    refine .single ?_ (Change.undo_set hfield.symm)
    simp only [Change.redo, hfield]
  · cases h
  · rename_i hfield
    cases h
    refine .single ?_ (Change.undo_set hfield.symm)
    simp only [Change.redo, hfield]

theorem leads_of_apply {op : Operation} (h : op.apply schema? thread s = .ok (s', change)) : Change.Leads s [change] s' := by
  cases op with
  | update field value => exact leads_of_applyUpdate h
  | delete field => exact leads_of_applyDelete h
  | append field value => exact leads_of_applyAppend h

/-- Operations one after the other record changes that lead from the first state to the last. -/
theorem leads_of_applyAll {ops : List Operation} {changes : List Change}
    (h : applyAll schema? thread ops s = .ok (s', changes)) : Change.Leads s changes s' := by
  induction ops generalizing s changes with
  | nil => cases h; exact .nil _
  | cons op ops ih =>
    rw [applyAll] at h
    obtain ⟨⟨s₁, change⟩, hop, h⟩ := bind_eq_ok_iff.1 h
    obtain ⟨⟨s₂, rest⟩, hops, h⟩ := bind_eq_ok_iff.1 h
    cases h
    exact (leads_of_apply hop).append (ih hops)

end Operation
end GatedFlow
