import GatedFlow.Proofs.Edits.Advance
import GatedFlow.Proofs.Edits.Keys

/-! # A batch and its operations one by one

Every operation is also an edit of its own, a batch of one (`Operation.edit_command`). Where no call to the store fails, a
batch does as much as its operations one by one, each of which finds what the ones before have saved: the same state with
the same records, and where one of them fails the batch fails alike and does nothing (`Composed`). Only the empty batch
needs what no operations at all do not need, a thread with a state. -/

namespace GatedFlow

/-- A sequence fails if its first part does, or its second after the first. -/
theorem bind_eq_error_iff {ε α β : Type} {x : Except ε α} {f : α → Except ε β} {e : ε} :
    (x >>= f) = .error e ↔ x = .error e ∨ ∃ a, x = .ok a ∧ f a = .error e := by
  cases x with
  | error e' => simp [bind, Except.bind]
  | ok a => simp [bind, Except.bind]

/-- The edit that carries out an operation alone. -/
def Operation.command (thread : String) : Operation → EditCommand
  | update field value => .modify thread (Record.empty.insert field value)
  | delete field => .deleteField thread field
  | append field value => .append thread field value

/-- Operations as edits of their own, one after the other up to the first that fails. -/
def EditCommand.oneByOne (rules : EditRules) (thread : String) (ops : List Operation) : Edit (List EditReply) :=
  ops.mapM fun op => (op.command thread).edit rules

/-- Stores with the same states and records. -/
structure Store.SameContents (s s' : Store) : Prop where
  snapshots : s'.snapshots = s.snapshots
  ledger : ∀ key, s'.ledger key = s.ledger key

/-- What a batch ends with and leaves, next to what its operations have ended with one by one and left. -/
inductive Composed (s : Store) (thread : String) (ops : List Operation) :
    Except StoreError (List EditReply) × Store → Except StoreError EditReply × Store → Prop
  | done {replies : List EditReply} {st : State} {s₁ s₂ : Store} (hst : s₁.snapshots.get? thread = some st)
      (hreplies : ops ≠ [] → replies.getLast? = some (.state st)) (h : s₁.SameContents s₂) :
      Composed s thread ops (.ok replies, s₁) (.ok (.state st), s₂)
  | refused {p : StoreError} {s₁ s₂ : Store} (h : s.SameContents s₂) : Composed s thread ops (.error p, s₁) (.error p, s₂)
  | absent {s₁ s₂ : Store} (hops : ops = []) (hst : s.snapshots.get? thread = none) (h₁ : s.SameContents s₁)
      (h₂ : s.SameContents s₂) : Composed s thread ops (.ok [], s₁) (.error (.noThread thread), s₂)

namespace Store

variable {s s₁ s₂ : Store} {thread : String} {st : State} {changes : List Change}

theorem SameContents.refl (s : Store) : s.SameContents s := ⟨rfl, fun _ => rfl⟩

theorem Advances.sameContents (h₁ : s.Advances s₁ thread st changes) (h₂ : s.Advances s₂ thread st changes) :
    s₁.SameContents s₂ where
  snapshots := by
    ext1 key
    rw [h₂.snapshots, h₁.snapshots]
  ledger key := by rw [h₂.logged, h₁.logged]

end Store

namespace Edit

variable {s : Store} {thread : String} {schema? : Option Schema} {ops : List Operation} {st : State}

/-- An edit whose plan is refused does nothing. -/
theorem Carries.refused {α : Type} {e : Edit α} {p : StoreError} (h : e.Carries s thread (.error p)) (hs : s.Reliable) :
    ∃ s', e.run s = (.error p, s') ∧ s.SameContents s' := by
  unfold Carries at h
  rcases hrun : e.run s with ⟨q | a, s'⟩ <;> rw [hrun] at h
  · obtain ⟨hsnapshots, recorded, hlogged, hwhy⟩ := h
    cases hwhy with
    | refused hplan =>
      cases hplan
      refine ⟨s', rfl, hsnapshots, fun key => ?_⟩
      rw [hlogged key, ite_self, List.append_nil]
    | outage _ hfails => exact absurd hs hfails
  · obtain ⟨m, hplan, -⟩ := h
    cases hplan

theorem batch_refused {p : StoreError} (hs : s.Reliable) (hst : s.snapshots.get? thread = some st)
    (happly : Operation.applyAll schema? thread ops st = .error p) :
    ∃ s', (batch schema? thread ops).run s = (.error p, s') ∧ s.SameContents s' := by
  have h := carries_batch_of_stored hst schema? ops
  rw [happly] at h
  exact h.refused hs

theorem batch_absent (hs : s.Reliable) (hst : s.snapshots.get? thread = none) (schema? : Option Schema)
    (ops : List Operation) :
    ∃ s', (batch schema? thread ops).run s = (.error (.noThread thread), s') ∧ s.SameContents s' := by
  have h : (batch schema? thread ops).Carries s thread (Mutation.ofBatch schema? s.snapshots thread ops) := carries_batch ops
  rw [Mutation.ofBatch, Mutation.stored, hst] at h
  exact h.refused hs

end Edit

namespace Operation

variable {schema? : Option Schema} {thread : String} {op : Operation} {ops : List Operation} {s s' : State}
  {change : Change} {p : StoreError}

theorem edit_command (rules : EditRules) (op : Operation) (thread : String) :
    (op.command thread).edit rules = EditReply.state <$> Edit.batch rules.schema thread [op] := by
  cases op with
  | update field value => exact EditCommand.edit_modify ..
  | delete field => exact EditCommand.edit_deleteField ..
  | append field value => exact EditCommand.edit_append ..

theorem applyAll_singleton_ok (h : op.apply schema? thread s = .ok (s', change)) :
    applyAll schema? thread [op] s = .ok (s', [change]) := by
  rw [applyAll_singleton, h]
  rfl

theorem applyAll_singleton_error (h : op.apply schema? thread s = .error p) : applyAll schema? thread [op] s = .error p := by
  rw [applyAll_singleton, h]
  rfl

end Operation

namespace EditCommand

variable {rules : EditRules} {s : Store} {thread : String} {op : Operation} {ops : List Operation} {st st' : State}
  {changes : List Change} {p : StoreError}

theorem run_oneByOne_cons (rules : EditRules) (thread : String) (op : Operation) (ops : List Operation) (s : Store) :
    (oneByOne rules thread (op :: ops)).run s = match (Edit.batch rules.schema thread [op]).run s with
      | (.ok st, s) => (((oneByOne rules thread ops).run s).1.map (.state st :: ·), ((oneByOne rules thread ops).run s).2)
      | (.error p, s) => (.error p, s) := by
  rw [oneByOne, List.mapM_cons, Edit.run_bind, Operation.edit_command, Edit.run_map]
  rcases (Edit.batch rules.schema thread [op]).run s with ⟨p | st, s⟩
  · rfl
  · exact Edit.run_map (.state st :: ·) (oneByOne rules thread ops) s

/-- One by one, operations lead a thread to the state and the records they lead to together. -/
theorem run_oneByOne (hs : s.Reliable) (hst : s.snapshots.get? thread = some st)
    (happly : Operation.applyAll rules.schema thread ops st = .ok (st', changes)) :
    ∃ replies s', (oneByOne rules thread ops).run s = (.ok replies, s') ∧ s.Advances s' thread st' changes ∧
      (ops ≠ [] → replies.getLast? = some (.state st')) := by
  induction ops generalizing s st changes with
  | nil =>
    cases happly
    exact ⟨[], s, rfl, .refl hs hst, fun h => absurd rfl h⟩
  | cons op ops ih =>
    obtain ⟨⟨st₁, change⟩, hop, happly⟩ := bind_eq_ok_iff.1 happly
    obtain ⟨⟨st₂, rest⟩, hops, happly⟩ := bind_eq_ok_iff.1 happly
    cases happly
    obtain ⟨s₁, hrun, hfirst⟩ := Edit.advances_batch hs hst (Operation.applyAll_singleton_ok hop)
    obtain ⟨replies, s₂, hruns, hlater, hreplies⟩ := ih hfirst.reliable hfirst.stored hops
    refine ⟨.state st₁ :: replies, s₂, ?_, hfirst.trans hlater, fun _ => ?_⟩
    · rw [run_oneByOne_cons, hrun]
      dsimp only
      rw [hruns]
      rfl
    · cases ops with
      | nil =>
        cases hops
        cases hruns
        rfl
      | cons op' ops =>
        rw [List.getLast?_cons, hreplies (List.cons_ne_nil op' ops)]
        rfl

/-- One by one, operations fail with what they fail with together. -/
theorem run_oneByOne_error (hs : s.Reliable) (hst : s.snapshots.get? thread = some st)
    (happly : Operation.applyAll rules.schema thread ops st = .error p) :
    ∃ s', (oneByOne rules thread ops).run s = (.error p, s') := by
  induction ops generalizing s st with
  | nil => cases happly
  | cons op ops ih =>
    rw [run_oneByOne_cons]
    rcases bind_eq_error_iff.1 happly with hop | ⟨⟨st₁, change⟩, hop, happly⟩
    · obtain ⟨s', hrun, -⟩ := Edit.batch_refused hs hst (Operation.applyAll_singleton_error hop)
      exact ⟨s', by rw [hrun]⟩
    · obtain ⟨s₁, hrun, hfirst⟩ := Edit.advances_batch hs hst (Operation.applyAll_singleton_ok hop)
      rcases bind_eq_error_iff.1 happly with hops | ⟨_, -, h⟩
      · obtain ⟨s₂, hruns⟩ := ih hfirst.reliable hfirst.stored hops
        exact ⟨s₂, by rw [hrun]; dsimp only; rw [hruns]; rfl⟩
      · cases h

/-- Where no call to the store fails, a batch comes to what its operations come to one by one, or it is refused with the
error of the first that fails and changes nothing. To set several fields at once is the batch of their updates in key
order. -/
theorem batch_composed (hs : s.Reliable) (rules : EditRules) (thread : String) (ops : List Operation) (updates : Fields) :
    Composed s thread ops ((oneByOne rules thread ops).run s) (((batch thread ops).edit rules).run s) ∧
      ((modify thread updates).edit rules).run s =
        ((batch thread (updates.entries.map fun e => .update e.1 e.2)).edit rules).run s ∧
      updates.keys.Pairwise (· < ·) := by
  refine ⟨?_, by rw [edit_modify], updates.keys_sorted⟩
  rw [edit, Edit.run_map]
  cases hst : s.snapshots.get? thread with
  | none =>
    obtain ⟨s₂, hbatch, hsame⟩ := Edit.batch_absent hs hst rules.schema ops
    rw [hbatch]
    cases ops with
    | nil => exact .absent rfl hst (.refl s) hsame
    | cons op ops =>
      obtain ⟨s₁, hrun, -⟩ := Edit.batch_absent hs hst rules.schema [op]
      rw [run_oneByOne_cons, hrun]
      exact .refused hsame
  | some st =>
    cases happly : Operation.applyAll rules.schema thread ops st with
    | error p =>
      obtain ⟨s₁, hruns⟩ := run_oneByOne_error hs hst happly
      obtain ⟨s₂, hbatch, hsame⟩ := Edit.batch_refused hs hst happly
      rw [hruns, hbatch]
      exact .refused hsame
    | ok r =>
      obtain ⟨st', changes⟩ := r
      obtain ⟨replies, s₁, hruns, hadvances, hreplies⟩ := run_oneByOne hs hst happly
      obtain ⟨s₂, hbatch, hadvances'⟩ := Edit.advances_batch hs hst happly
      rw [hruns, hbatch]
      exact .done hadvances.stored hreplies (hadvances.sameContents hadvances')

/-- A thread without fields. -/
def blankStore : Store := { Store.empty with snapshots := Record.empty.insert "t" .empty }

/-- A field that is set, dropped, made anew by an append and appended to, and then a field that is no array. -/
def reusingOps : List Operation := [.update "a" .null, .delete "a", .append "a" .null, .append "a" .null, .update "b" .null]

theorem batch_composed_reusingOps :
    let batchOf ops := ((batch "t" ops).edit ⟨none, .lenient⟩).run blankStore
    let oneByOneOf ops := (oneByOne ⟨none, .lenient⟩ "t" ops).run blankStore
    ((batchOf reusingOps).2.ledger "t").map (·.field) = ["a", "a", "a", "a", "b"] ∧
      (batchOf (reusingOps ++ [.append "b" .null])).1 = .error (.notASequence "b" "null") ∧
      ((oneByOneOf (reusingOps ++ [.append "b" .null])).2.ledger "t").length = 5 ∧
      Composed blankStore "t" reusingOps (oneByOneOf reusingOps) (batchOf reusingOps) ∧
      Composed blankStore "t" (reusingOps ++ [.append "b" .null]) (oneByOneOf (reusingOps ++ [.append "b" .null]))
        (batchOf (reusingOps ++ [.append "b" .null])) :=
  have hs : blankStore.Reliable := Store.reliable_empty
  ⟨by decide +kernel, rfl, by decide +kernel, (batch_composed hs _ _ _ .empty).1, (batch_composed hs _ _ _ .empty).1⟩

/-- No operations at all succeed without a thread, and the batch of no operations does not. -/
theorem not_composed_absent :
    (oneByOne ⟨none, .lenient⟩ "t" []).run .empty = (.ok [], .empty) ∧
      (((batch "t" []).edit ⟨none, .lenient⟩).run .empty).1 = .error (.noThread "t") :=
  ⟨rfl, rfl⟩

end EditCommand
end GatedFlow
