import GatedFlow.Edits.Basic

/-! # Edits on a store whose calls may fail

`Edit.Does` says what an edit makes of the stored states: it ends well as described, or it fails and leaves all of
them as they are. The rules follow the parts an edit is made of, and `does_modify`, `does_deleteField`,
`does_setStatus`, `does_saveState` and `does_loadForResume` are the edits that runs use. Where no call to the store
fails, `Does` also says when an edit ends well. -/

namespace GatedFlow

/-- No call to the store fails. -/
def Store.Reliable (s : Store) : Prop := ∀ kind n, (s.faults.get kind).fails n = false

namespace Store

variable {α : Type} {s : Store}

theorem reliable_empty : Store.empty.Reliable := by
  intro kind n
  cases kind <;> rfl

def counted (s : Store) (kind : CallKind) : Store := (s.countCall kind).2

@[simp] theorem counted_snapshots (kind : CallKind) : (s.counted kind).snapshots = s.snapshots := rfl

theorem Reliable.counted (hs : s.Reliable) (kind : CallKind) : (s.counted kind).Reliable := by
  intro kind' n
  show ((s.faults.set kind _).get kind').fails n = false
  rw [Faults.get_set]
  split
  · exact hs kind n
  · exact hs kind' n

/-- A call is served or fails, and it fails only where the store is not reliable. -/
theorem answer_cases (s : Store) (call : StoreCall α) : s.answer call = (s.counted call.kind).serve call ∨
    s.answer call = (.error (.outage call.kind), s.counted call.kind) ∧ ¬s.Reliable := by
  show (if (s.countCall call.kind).1 then _ else _) = _ ∨ (if (s.countCall call.kind).1 then _ else _) = _ ∧ _
  split
  · exact .inl rfl
  · rename_i hserved
    exact .inr ⟨rfl, fun hs => hserved (by simp [countCall, hs call.kind])⟩

/-- Where no call fails, every call is served. -/
theorem Reliable.answer_eq (hs : s.Reliable) (call : StoreCall α) :
    s.answer call = (s.counted call.kind).serve call := by
  rcases s.answer_cases call with h | ⟨-, hfails⟩
  · exact h
  · exact absurd hs hfails

@[simp] theorem serve_load (s : Store) (key : String) : (s.serve (.load key)).2 = s := by
  unfold serve
  dsimp only
  split <;> rfl

theorem Reliable.serve (hs : s.Reliable) (call : StoreCall α) : (s.serve call).2.Reliable := by
  cases call with
  | load key => rwa [serve_load]
  | save key state => exact hs
  | delete key => exact hs
  | listKeys start => exact hs
  | appendHistory key change => exact hs
  | history key => exact hs

theorem Reliable.answer (hs : s.Reliable) (call : StoreCall α) : (s.answer call).2.Reliable := by
  rcases s.answer_cases call with h | ⟨h, -⟩
  · rw [h]; exact (hs.counted call.kind).serve call
  · rw [h]; exact hs.counted call.kind

end Store

theorem Record.merge_of_isEmpty {α : Type} {r update : Record α} (h : update.isEmpty = true) : r.merge update = r := by
  unfold merge isEmpty at *
  rw [List.isEmpty_iff.1 h]
  rfl

namespace Operation

variable {schema? : Option Schema} {thread : String} {entries : List (String × Value)} {st st' : State}
  {changes : List Change}

theorem eq_of_updateAll (h : updateAll schema? entries st = .ok (st', changes)) : st' = ⟨st.fields.insertAll entries⟩ := by
  induction entries generalizing st changes with
  | nil => cases h; rfl
  | cons e entries ih =>
    obtain ⟨⟨st₁, change⟩, hfirst, h⟩ := bind_eq_ok_iff.1 h
    obtain ⟨⟨st₂, rest⟩, hrest, h⟩ := bind_eq_ok_iff.1 h
    cases h
    rw [ih hrest, eq_of_applyUpdate hfirst]
    rfl

/-- Setting fields without a schema never fails and is the same as merging them. The changes remember what the fields held
at first, since no field comes twice. -/
theorem updateAll_sorted (hsorted : KeySorted entries) (st : State) : updateAll none entries st =
    .ok (⟨st.fields.insertAll entries⟩, entries.map fun e => ⟨.update, e.1, e.2, st.get? e.1⟩) := by
  induction entries generalizing st with
  | nil => rfl
  | cons e entries ih =>
    obtain ⟨hfirst, hrest⟩ := List.pairwise_cons.1 hsorted
    have hlater : (entries.map fun e' => (⟨.update, e'.1, e'.2, (st.set e.1 e.2).get? e'.1⟩ : Change)) =
        entries.map fun e' => ⟨.update, e'.1, e'.2, st.get? e'.1⟩ := by
      refine List.map_congr_left fun e' he' => ?_
      have hne : e.1 ≠ e'.1 := fun heq => String.lt_irrefl e.1 (heq ▸ hfirst e' he')
      rw [State.get?_set, if_neg hne]
    show (updateAll none entries (st.set e.1 e.2) >>= _) = _
    rw [ih hrest, hlater]
    rfl

theorem eq_of_applyDelete {field : String} {change : Change} (h : applyDelete schema? thread field st = .ok (st', change)) :
    st' = st.remove field := by
  obtain ⟨-, -, h⟩ := bind_eq_ok_iff.1 h
  split at h
  · cases h
    rfl
  · cases h

end Operation

namespace Edit

variable {α β : Type} {e : Edit α} {f : α → Edit β} {s : Store} {P : Prop} {Q : α → Record State → Prop}
  {thread : String} {schema? : Option Schema}

theorem run_reliable (e : Edit α) (hs : s.Reliable) : (e.run s).2.Reliable := by
  suffices ∀ {γ : Type} (p : Program EditCall γ) {s : Store}, s.Reliable → (p.run EditCall.answer s).2.Reliable from
    this (ExceptT.run e) hs
  intro γ p
  induction p with
  | done a => exact id
  | ask call next ih =>
    intro s hs
    rw [Program.run_ask]
    refine ih _ ?_
    cases call with
    | store call => exact hs.answer call
    | acquire thread => exact hs
    | release thread => exact hs
    | activeLocks => exact hs

/-- An edit ends well with a result and stored states as `Q` says, or it fails and leaves the stored states as they
are. If no call to the store fails and `P` holds, it ends well. -/
def Does (e : Edit α) (s : Store) (P : Prop) (Q : α → Record State → Prop) : Prop :=
  match e.run s with
  | (.ok a, s') => Q a s'.snapshots
  | (.error _, s') => s'.snapshots = s.snapshots ∧ ¬(s.Reliable ∧ P)

namespace Does

theorem mono {Q' : α → Record State → Prop} (h : e.Does s P Q) (hQ : ∀ a m, Q a m → Q' a m) : e.Does s P Q' := by
  unfold Does at h ⊢
  split
  · rename_i hrun
    rw [hrun] at h; exact hQ _ _ h
  · rename_i hrun
    rw [hrun] at h; exact h

/-- What an edit that may write does after one that only reads. -/
theorem bind {R : α → Prop} {Q : β → Record State → Prop} (he : e.Does s P fun a m => R a ∧ m = s.snapshots)
    (hf : ∀ a s', R a → s'.snapshots = s.snapshots → (f a).Does s' P Q) : (e >>= f).Does s P Q := by
  unfold Does at he ⊢
  rw [run_bind]
  rcases hrun : e.run s with ⟨p | a, s'⟩
  · rw [hrun] at he; exact he
  rw [hrun] at he
  have hreliable : s.Reliable → s'.Reliable := fun hs => by
    have h := e.run_reliable hs
    rw [hrun] at h; exact h
  have h := hf a s' he.1 he.2
  unfold Does at h
  dsimp only
  split
  · rename_i hrun'
    rw [hrun'] at h; exact h
  · rename_i hrun'
    rw [hrun'] at h
    exact ⟨h.1.trans he.2, fun hsP => h.2 ⟨hreliable hsP.1, hsP.2⟩⟩

theorem pure {a : α} (h : Q a s.snapshots) : (pure a : Edit α).Does s P Q := h

theorem andReturn {M : Record State → Prop} (h : e.Does s P fun _ m => M m) (b : β) :
    (e >>= fun _ => Pure.pure b).Does s P fun b' m => b' = b ∧ M m := by
  unfold Does at h ⊢
  rw [run_bind]
  rcases hrun : e.run s with ⟨p | a, s'⟩
  · rw [hrun] at h; exact h
  · rw [hrun] at h; exact ⟨rfl, h⟩

theorem ofExcept {r : Except StoreError α} (hP : P → ∃ a, r = .ok a) :
    (ofExcept r).Does s P fun a m => r = .ok a ∧ m = s.snapshots := by
  cases r with
  | ok a => exact ⟨rfl, rfl⟩
  | error p =>
    refine ⟨rfl, fun h => ?_⟩
    obtain ⟨a, ha⟩ := hP h.2
    cases ha

theorem underLock (h : e.Does s P Q) : (underLock thread e).Does s P Q := by
  unfold Does
  rw [run_underLock]
  exact h

theorem ofCall {call : StoreCall α} (h : match (s.counted call.kind).serve call with
    | (.ok a, s') => Q a s'.snapshots
    | (.error _, s') => s'.snapshots = s.snapshots ∧ ¬P) : (Edit.ofCall call).Does s P Q := by
  unfold Does
  rw [run_ofCall]
  rcases s.answer_cases call with hc | ⟨hc, hs⟩
  · rw [hc]
    rcases hserve : (s.counted call.kind).serve call with ⟨p | a, s'⟩
    · rw [hserve] at h; exact ⟨h.1, fun hsP => h.2 hsP.2⟩
    · rw [hserve] at h; exact h
  · rw [hc]
    exact ⟨rfl, fun hsP => hs hsP.1⟩

end Does

theorem does_loadState (hP : P → (s.snapshots.get? thread).isSome) :
    (loadState thread).Does s P fun st m => s.snapshots.get? thread = some st ∧ m = s.snapshots := by
  refine .ofCall ?_
  unfold Store.serve
  dsimp only
  split
  · rename_i hget
    split at hget
    · cases hget; exact ⟨‹_›, rfl⟩
    · cases hget
  · rename_i hget
    split at hget
    · cases hget
    · rename_i hnone
      cases hget
      refine ⟨rfl, fun h => ?_⟩
      rw [show s.snapshots.get? thread = none from hnone] at hP
      cases hP h

theorem does_save (st : State) :
    (ofCall (.save thread st)).Does s P fun _ m => m = s.snapshots.insert thread st :=
  .ofCall rfl

theorem does_record (changes : List Change) : (record thread changes).Does s P fun _ m => True ∧ m = s.snapshots := by
  induction changes generalizing s with
  | nil => exact .pure ⟨trivial, rfl⟩
  | cons change changes ih =>
    refine Does.bind (R := fun _ => True) (.ofCall ⟨trivial, rfl⟩) fun _ s' _ hs' => ?_
    exact ih.mono fun _ m h => ⟨trivial, h.2.trans hs'⟩

theorem does_commit (changes : List Change) (st : State) :
    (commit thread changes st).Does s P fun _ m => m = s.snapshots.insert thread st := by
  refine Does.bind (does_record changes) fun _ s' _ hs' => ?_
  rw [← hs']
  exact does_save st

theorem does_saveState {st : State} (hP : P → ∃ u, Schema.allows schema? (·.validate st) = .ok u) :
    (saveState schema? thread st).Does s P fun _ m => m = s.snapshots.insert thread st := by
  refine Does.bind (.ofExcept hP) fun _ s' _ hs' => ?_
  rw [← hs']
  exact (does_save st).underLock

theorem does_mutate {change : State → Except StoreError (State × List Change)}
    (hP : P → ∃ st r, s.snapshots.get? thread = some st ∧ change st = .ok r) :
    (mutate thread change).Does s P fun st' m => ∃ st changes, s.snapshots.get? thread = some st ∧
      change st = .ok (st', changes) ∧ m = s.snapshots.insert thread st' := by
  refine .underLock (.bind (does_loadState fun h => ?_) fun st s₁ hst hs₁ => ?_)
  · obtain ⟨st, r, hst, -⟩ := hP h
    rw [hst]; rfl
  refine .bind (.ofExcept fun h => ?_) fun r s₂ hr hs₂ => ?_
  · obtain ⟨st', r, hst', hr⟩ := hP h
    rw [hst, Option.some.injEq] at hst'
    exact ⟨r, hst' ▸ hr⟩
  obtain ⟨st', changes⟩ := r
  exact ((does_commit changes st').andReturn st').mono fun _ m h =>
    ⟨st, changes, hst, h.1 ▸ hr, by rw [h.1, h.2, hs₂, hs₁]⟩

/-- Fields are set by merging them into the stored state, whether the schema is asked or not. -/
theorem does_modify {updates : Fields} (hP : P → ∃ st, s.snapshots.get? thread = some st ∧ schema? = none) :
    (modify schema? thread updates).Does s P fun st' m => ∃ st, s.snapshots.get? thread = some st ∧
      st' = st.merge updates ∧ m = s.snapshots.insert thread st' := by
  refine Does.mono (does_mutate fun h => ?_) fun st' m h => ?_
  · obtain ⟨st, hst, rfl⟩ := hP h
    exact ⟨st, _, hst, Operation.updateAll_sorted updates.sorted st⟩
  · obtain ⟨st, changes, hst, hupdate, hm⟩ := h
    exact ⟨st, hst, Operation.eq_of_updateAll hupdate, hm⟩

theorem does_deleteField {field : String}
    (hP : P → ∃ st, s.snapshots.get? thread = some st ∧ st.contains field = true ∧ schema? = none) :
    (deleteField schema? thread field).Does s P fun st' m => ∃ st, s.snapshots.get? thread = some st ∧
      st' = st.remove field ∧ m = s.snapshots.insert thread st' := by
  refine Does.mono (does_mutate fun h => ?_) fun st' m h => ?_
  · obtain ⟨st, hst, hfield, rfl⟩ := hP h
    obtain ⟨previous, hprevious⟩ : ∃ previous, st.get? field = some previous := Option.isSome_iff_exists.1 hfield
    refine ⟨st, (st.remove field, [⟨.delete, field, .null, some previous⟩]), hst, ?_⟩
    rw [Operation.applyDelete, hprevious]
    rfl
  · obtain ⟨st, changes, hst, hdelete, hm⟩ := h
    obtain ⟨⟨st₁, change⟩, happly, heq⟩ := map_eq_ok_iff.1 hdelete
    cases heq
    exact ⟨st, hst, Operation.eq_of_applyDelete happly, hm⟩

theorem does_setStatus {status : String} (hP : P → ∃ st, s.snapshots.get? thread = some st ∧
      (supportsStatus schema? st = true → ∃ r, Operation.applyUpdate schema? statusField (.string status) st = .ok r)) :
    (setStatus schema? thread status).Does s P fun b m => ∃ st, s.snapshots.get? thread = some st ∧
      b = supportsStatus schema? st ∧
      m = if b then s.snapshots.insert thread (st.set statusField (.string status)) else s.snapshots := by
  refine .underLock (.bind (does_loadState fun h => ?_) fun st s₁ hst hs₁ => ?_)
  · obtain ⟨st, hst, -⟩ := hP h
    rw [hst]; rfl
  split
  · rename_i hsupports
    refine .bind (.ofExcept fun h => ?_) fun r s₂ hr hs₂ => ?_
    · obtain ⟨st', hst', hr⟩ := hP h
      obtain rfl : st = st' := by rw [hst, Option.some.injEq] at hst'; exact hst'
      exact hr hsupports
    obtain ⟨st', change⟩ := r
    refine ((does_commit [change] st').andReturn true).mono fun b m h => ⟨st, hst, ?_, ?_⟩
    · rw [h.1, hsupports]
    · rw [h.1, h.2, hs₂, hs₁, Operation.eq_of_applyUpdate hr, if_pos rfl]
  · rename_i hsupports
    rw [Bool.not_eq_true] at hsupports
    refine .pure ⟨st, hst, hsupports.symm, ?_⟩
    rw [hs₁]; rfl

theorem does_loadForResume {migrator : Migrator} {version : String}
    (hP : P → ∃ st st', s.snapshots.get? thread = some st ∧ migrator.migrate st version = .ok st') :
    (loadForResume migrator thread version).Does s P fun st' m => ∃ st, s.snapshots.get? thread = some st ∧
      migrator.migrate st version = .ok st' ∧ m = s.snapshots := by
  refine .bind (does_loadState fun h => ?_) fun st s₁ hst hs₁ => ?_
  · obtain ⟨st, st', hst, -⟩ := hP h
    rw [hst]; rfl
  cases hm : migrator.migrate st version with
  | ok st' => exact .pure ⟨st, hst, hm, hs₁⟩
  | error p =>
    refine ⟨rfl, fun h => ?_⟩
    obtain ⟨st', st'', hst', hm'⟩ := hP h.2
    rw [hst, Option.some.injEq] at hst'
    rw [hst', hm'] at hm
    cases hm

end Edit
end GatedFlow
