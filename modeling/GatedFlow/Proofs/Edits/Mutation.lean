import GatedFlow.Edits.Command
import GatedFlow.Proofs.Edits.Atomic
import GatedFlow.Proofs.Edits.Effect

/-! # Edits that write all or nothing

`EditCommand.plan?` tells from the stored states alone what a command is to record of its thread and what it is to save,
or why it is refused. `Carried` says that an edit has kept to its plan on a store whose calls may fail in any pattern: it
has recorded and saved all of it, or it has saved nothing and recorded some first part of it, which is empty where the
plan is refused. The rules follow the parts an edit is made of: what it reads (`Edit.Reads`), the records, the save. -/

namespace GatedFlow

/-- The ledger of a thread has grown by these changes, and no other ledger has changed. -/
def Store.Logged (s s' : Store) (thread : String) (changes : List Change) : Prop :=
  ∀ key, s'.ledger key = s.ledger key ++ if key = thread then changes else []

/-- A later store with the same contents. -/
structure Store.Idle (s s' : Store) : Prop where
  snapshots : s'.snapshots = s.snapshots
  ledgers : s'.ledgers = s.ledgers
  reliable : s.Reliable → s'.Reliable

namespace Store

variable {s s' s'' : Store} {thread : String} {changes changes' : List Change}

theorem Logged.of_ledgers (h : s'.ledgers = s.ledgers) : s.Logged s' thread [] := by
  intro key
  rw [ledger, h, ite_self, List.append_nil]
  rfl

theorem Logged.trans (h : s.Logged s' thread changes) (h' : s'.Logged s'' thread changes') :
    s.Logged s'' thread (changes ++ changes') := by
  intro key
  rw [h' key, h key]
  split
  · exact List.append_assoc ..
  · rw [List.append_nil]

theorem Logged.self (h : s.Logged s' thread changes) : s'.ledger thread = s.ledger thread ++ changes := by
  rw [h thread, if_pos rfl]

theorem logged_appendHistory (kind : CallKind) (thread : String) (change : Change) :
    s.Logged ((s.counted kind).serve (.appendHistory thread change)).2 thread [change] := by
  intro key
  show ((s.ledgers.insert thread (s.ledger thread ++ [change])).get? key).getD [] = _
  rw [Record.get?_insert]
  by_cases h : thread = key
  · rw [if_pos h, if_pos h.symm, h]
    rfl
  · rw [if_neg h, if_neg (Ne.symm h), List.append_nil]
    rfl

theorem Idle.refl (s : Store) : s.Idle s := ⟨rfl, rfl, id⟩

theorem idle_counted (s : Store) (kind : CallKind) : s.Idle (s.counted kind) := ⟨rfl, rfl, fun hs => hs.counted kind⟩

end Store

/-- What an edit is to write: changes to be recorded of a thread, and then a state to be saved under a key. -/
structure Mutation where
  changes : List Change
  saved? : Option (String × State)

namespace Mutation

/-- The stored states with the new one in its place. -/
def applied (m : Mutation) (snapshots : Record State) : Record State :=
  match m.saved? with
  | some (key, st) => snapshots.insert key st
  | none => snapshots

/-- The state under the id of a thread. -/
def stored (snapshots : Record State) (thread : String) : Except StoreError State :=
  match snapshots.get? thread with
  | some st => .ok st
  | none => .error (.noThread thread)

/-- What giving a thread a whole state is to write: that state, without a record. -/
def ofSave (schema? : Option Schema) (thread : String) (st : State) : Except StoreError (Mutation × Unit) := do
  Schema.allows schema? (·.validate st)
  return (⟨[], some (thread, st)⟩, ())

/-- What operations one after the other are to write and to answer: what they leave of the thread's state, with a record of
each. -/
def ofBatch (schema? : Option Schema) (snapshots : Record State) (thread : String) (ops : List Operation) :
    Except StoreError (Mutation × State) := do
  let st ← stored snapshots thread
  Operation.checkAll schema? thread ops st
  return (⟨Operation.notedAll ops st, some (thread, ops.foldl Operation.onto st)⟩, ops.foldl Operation.onto st)

/-- What setting a status is to write. A state without the field is left as it is unless the schema declares the field. -/
def ofStatus (schema? : Option Schema) (snapshots : Record State) (thread status : String) :
    Except StoreError (Mutation × Bool) := do
  let st ← stored snapshots thread
  if (st.get? statusField).isSome || schema?.any (·.declares statusField) then
    (ofBatch schema? snapshots thread [.update statusField (.string status)]).map fun (m, _) => (m, true)
  else return (⟨[], none⟩, false)

/-- What a new checkpoint is to write: the state of the thread, without a record. -/
def ofCheckpoint (snapshots : Record State) (thread name : String) : Except StoreError (Mutation × Unit) := do
  let st ← stored snapshots thread
  return (⟨[], some (checkpointKey thread name, st)⟩, ())

/-- What the return to a checkpoint is to write. -/
def ofRestore (snapshots : Record State) (thread name : String) : Except StoreError (Mutation × State) :=
  match snapshots.get? (checkpointKey thread name) with
  | some st => .ok (⟨[.restore name], some (thread, st)⟩, st)
  | none => .error (.noCheckpoint thread name)

end Mutation

/-- The thread that a command is to change, and what it is to write and to answer, told from the stored states alone; none
for commands that only read or delete. -/
def EditCommand.plan? (rules : EditRules) (snapshots : Record State) :
    EditCommand → Option (String × Except StoreError (Mutation × EditReply))
  | saveState thread st => some (thread, (Mutation.ofSave rules.schema thread st).map fun (m, _) => (m, .done))
  | setStatus thread status =>
    some (thread, (Mutation.ofStatus rules.schema snapshots thread status).map fun (m, b) => (m, .flag b))
  | modify thread updates =>
    some (thread, (Mutation.ofBatch rules.schema snapshots thread (updates.entries.map fun e => .update e.1 e.2)).map
      fun (m, st) => (m, .state st))
  | append thread field value =>
    some (thread, (Mutation.ofBatch rules.schema snapshots thread [.append field value]).map fun (m, st) => (m, .state st))
  | deleteField thread field =>
    some (thread, (Mutation.ofBatch rules.schema snapshots thread [.delete field]).map fun (m, st) => (m, .state st))
  | batch thread ops =>
    some (thread, (Mutation.ofBatch rules.schema snapshots thread ops).map fun (m, st) => (m, .state st))
  | createCheckpoint thread name =>
    some (thread, (Mutation.ofCheckpoint snapshots thread name).map fun (m, _) => (m, .done))
  | restoreCheckpoint thread name =>
    some (thread, (Mutation.ofRestore snapshots thread name).map fun (m, st) => (m, .state st))
  | _ => none

section

variable {α β : Type} {s s' : Store} {thread : String} {plan : Except StoreError (Mutation × α)}

/-- The changes that a plan records; a refused one records none. -/
def plannedChanges : Except StoreError (Mutation × α) → List Change
  | .ok (m, _) => m.changes
  | .error _ => []

/-- Not the error of a failed call to the store. -/
def Unbroken (r : Except StoreError α) : Prop := ∀ kind, r ≠ .error (.outage kind)

/-- Why an edit with a plan has ended with an error after recording some changes: the plan is refused and nothing is
recorded, or a call to the store has failed after a first part of the planned changes. -/
inductive Unfinished (s : Store) (plan : Except StoreError (Mutation × α)) : StoreError → List Change → Prop
  | refused {p : StoreError} (h : plan = .error p) (hp : ∀ kind, p ≠ .outage kind) : Unfinished s plan p []
  | outage {recorded : List Change} (kind : CallKind) (hs : ¬s.Reliable) (h : recorded <+: plannedChanges plan) :
      Unfinished s plan (.outage kind) recorded

/-- What has come of a plan for a thread: all of it is written and answered, or nothing is saved and a first part of the
changes is recorded. -/
def Carried (s : Store) (thread : String) (plan : Except StoreError (Mutation × α)) : Except StoreError α × Store → Prop
  | (.ok a, s') => ∃ m, plan = .ok (m, a) ∧ s'.snapshots = m.applied s.snapshots ∧ s.Logged s' thread m.changes
  | (.error p, s') => s'.snapshots = s.snapshots ∧ ∃ recorded, s.Logged s' thread recorded ∧ Unfinished s plan p recorded

theorem Unbroken.ok (a : α) : Unbroken (.ok a) := fun _ h => by cases h

theorem Unbroken.bind {r : Except StoreError α} {k : α → Except StoreError β} (hr : Unbroken r)
    (hk : ∀ a, Unbroken (k a)) : Unbroken (r >>= k) := by
  cases r with
  | error p => exact fun kind h => hr kind (by cases h; rfl)
  | ok a => exact hk a

theorem Carried.of_idle (h : s.Idle s') {out : Except StoreError α × Store} (hout : Carried s' thread plan out) :
    Carried s thread plan out := by
  have hlogged : ∀ {t changes}, s'.Logged t thread changes → s.Logged t thread changes :=
    fun hlogged => (Store.Logged.of_ledgers h.ledgers).trans hlogged
  rcases out with ⟨p | a, t⟩
  · obtain ⟨hsnapshots, recorded, hrecorded, hwhy⟩ := hout
    refine ⟨hsnapshots.trans h.snapshots, recorded, hlogged hrecorded, ?_⟩
    cases hwhy with
    | refused hplan hp => exact .refused hplan hp
    | outage kind hs hpart => exact .outage kind (fun hreliable => hs (h.reliable hreliable)) hpart
  · obtain ⟨m, hplan, hsnapshots, hrecorded⟩ := hout
    exact ⟨m, hplan, h.snapshots ▸ hsnapshots, hlogged hrecorded⟩

end

namespace Operation

variable {schema? : Option Schema} {thread : String}

theorem unbroken_allows (check : Schema → Except SchemaProblem Unit) : Unbroken (Schema.allows schema? check) := by
  intro kind h
  unfold Schema.allows at h
  split at h
  · cases h
  · rename_i schema
    cases hcheck : check schema <;> rw [hcheck] at h <;> cases h

theorem unbroken_applyUpdate (field : String) (value : Value) (st : State) :
    Unbroken (applyUpdate schema? field value st) :=
  (unbroken_allows _).bind fun _ => .ok _

theorem unbroken_apply (op : Operation) (st : State) : Unbroken (op.apply schema? thread st) := by
  cases op with
  | update field value => exact unbroken_applyUpdate field value st
  | delete field =>
    refine (unbroken_allows _).bind fun _ => ?_
    split
    · exact .ok _
    · exact fun _ h => by cases h
  | append field value =>
    refine (unbroken_allows _).bind fun _ => ?_
    split
    · exact .ok _
    · exact fun _ h => by cases h
    · exact .ok _

theorem unbroken_applyAll (ops : List Operation) (st : State) : Unbroken (applyAll schema? thread ops st) := by
  induction ops generalizing st with
  | nil => exact .ok _
  | cons op ops ih => exact (unbroken_apply op st).bind fun r => (ih r.1).bind fun _ => .ok _

end Operation

namespace Mutation

/-- What a batch is to write is what carrying out its operations makes of the thread's state. -/
theorem ofBatch_eq (schema? : Option Schema) (snapshots : Record State) (thread : String) (ops : List Operation) :
    ofBatch schema? snapshots thread ops = stored snapshots thread >>= fun st =>
      (Operation.applyAll schema? thread ops st).map fun r => (⟨r.2, some (thread, r.1)⟩, r.1) := by
  refine bind_congr fun st => ?_
  rw [Operation.applyAll_eq]
  cases Operation.checkAll schema? thread ops st <;> rfl

theorem ofStatus_eq (schema? : Option Schema) (snapshots : Record State) (thread status : String) :
    ofStatus schema? snapshots thread status = stored snapshots thread >>= fun st =>
      if Edit.supportsStatus schema? st then
        (Operation.applyUpdate schema? statusField (.string status) st).map fun r => (⟨[r.2], some (thread, r.1)⟩, true)
      else .ok (⟨[], none⟩, false) := by
  unfold ofStatus
  cases hst : stored snapshots thread with
  | error p => rfl
  | ok st =>
    have hsupports : Edit.supportsStatus schema? st =
        ((st.get? statusField).isSome || schema?.any (·.declares statusField)) := rfl
    show (if _ then _ else _) = (if _ then _ else _)
    rw [hsupports, ofBatch_eq, hst]
    split
    · show Except.map _ (Except.map _ (Operation.applyAll schema? thread [.update _ _] st)) = _
      rw [Operation.applyAll_singleton]
      cases hupdate : Operation.applyUpdate schema? statusField (.string status) st <;>
        simp [Operation.apply, hupdate, Except.map]
    · rfl

end Mutation

theorem Mutation.unbroken_stored (snapshots : Record State) (thread : String) : Unbroken (stored snapshots thread) := by
  unfold stored
  split
  · exact .ok _
  · exact fun _ h => by cases h

namespace Edit

variable {α β : Type} {e : Edit α} {f : α → Edit β} {s : Store} {thread : String} {schema? : Option Schema}
  {changes more : List Change} {saved? : Option (String × State)}

/-- An edit that changes nothing and answers so, unless a call to the store fails. -/
def Reads (e : Edit α) (s : Store) (r : Except StoreError α) : Prop :=
  ∃ s', s.Idle s' ∧ (e.run s = (r, s') ∨ ¬s.Reliable ∧ ∃ kind, e.run s = (.error (.outage kind), s'))

/-- An edit that keeps to a plan. -/
def Carries (e : Edit α) (s : Store) (thread : String) (plan : Except StoreError (Mutation × α)) : Prop :=
  Carried s thread plan (e.run s)

theorem reads_ofExcept (r : Except StoreError α) : (ofExcept r).Reads s r := ⟨s, .refl s, .inl rfl⟩

theorem reads_loadState (key : String) : (loadState key).Reads s (Mutation.stored s.snapshots key) := by
  refine ⟨s.counted .load, s.idle_counted .load, ?_⟩
  rcases s.answer_cases (.load key) with h | ⟨h, hs⟩
  · refine .inl (h.trans ?_)
    show (match s.snapshots.get? key with | some st => _ | none => _) = _
    unfold Mutation.stored
    split <;> rfl
  · exact .inr ⟨hs, .load, h⟩

theorem run_tryLoad (key : String) (s : Store) : (tryLoad key).run s = match (loadState key).run s with
    | (.ok st, s') => (.ok (some st), s')
    | (.error (.noThread _), s') => (.ok none, s')
    | (.error p, s') => (.error p, s') := by
  have h : (tryLoad key).run s = _ := Program.run_bind (ExceptT.run (loadState key)) _ s
  rw [h]
  unfold run
  rcases Program.run EditCall.answer (ExceptT.run (loadState key)) s with ⟨p | st, s'⟩
  · cases p <;> rfl
  · rfl

theorem reads_tryLoad (key : String) : (tryLoad key).Reads s (.ok (s.snapshots.get? key)) := by
  obtain ⟨s', hidle, h | ⟨hs, kind, h⟩⟩ := reads_loadState (s := s) key
  · refine ⟨s', hidle, .inl ?_⟩
    rw [run_tryLoad, h, Mutation.stored]
    cases s.snapshots.get? key <;> rfl
  · refine ⟨s', hidle, .inr ⟨hs, kind, ?_⟩⟩
    rw [run_tryLoad, h]

/-- What is read before anything is written either settles a plan or refuses it. -/
theorem Reads.bind {r : Except StoreError α} {k : α → Except StoreError (Mutation × β)} (he : e.Reads s r)
    (hr : Unbroken r) (hf : ∀ a s', (f a).Carries s' thread (k a)) : (e >>= f).Carries s thread (r >>= k) := by
  obtain ⟨s', hidle, h | ⟨hs, kind, h⟩⟩ := he
  all_goals
    unfold Carries
    rw [run_bind, h]
  · cases r with
    | error p => exact ⟨hidle.snapshots, [], .of_ledgers hidle.ledgers, .refused rfl fun kind hp => hr kind (congrArg _ hp)⟩
    | ok a => exact (hf a s').of_idle hidle
  · exact ⟨hidle.snapshots, [], .of_ledgers hidle.ledgers, .outage kind hs List.nil_prefix⟩

namespace Carries

theorem underLock {plan : Except StoreError (Mutation × α)} (h : e.Carries s thread plan) (lock : String) :
    (underLock lock e).Carries s thread plan := by
  unfold Carries
  rw [run_underLock]
  exact h

theorem map {plan : Except StoreError (Mutation × α)} (h : e.Carries s thread plan) (g : α → β) :
    (g <$> e).Carries s thread (plan.map fun (m, a) => (m, g a)) := by
  unfold Carries at h ⊢
  rw [run_map]
  rcases hrun : e.run s with ⟨p | a, s'⟩ <;> rw [hrun] at h
  · obtain ⟨hsnapshots, recorded, hrecorded, hwhy⟩ := h
    refine ⟨hsnapshots, recorded, hrecorded, ?_⟩
    cases hwhy with
    | refused hplan hp => rw [hplan]; exact .refused rfl hp
    | outage kind hs hpart =>
      refine .outage kind hs ?_
      cases plan <;> exact hpart
  · obtain ⟨m, rfl, hsnapshots, hrecorded⟩ := h
    exact ⟨m, rfl, hsnapshots, hrecorded⟩

/-- After changes have been recorded, what is recorded and saved next comes on top of them. -/
theorem andThen {a : α} {b : β} (he : e.Carries s thread (.ok (⟨changes, none⟩, a)))
    (hf : ∀ s', (f a).Carries s' thread (.ok (⟨more, saved?⟩, b))) :
    (e >>= f).Carries s thread (.ok (⟨changes ++ more, saved?⟩, b)) := by
  have hreliable : s.Reliable → (e.run s).2.Reliable := e.run_reliable
  unfold Carries at he ⊢
  rw [run_bind]
  rcases hrun : e.run s with ⟨p | a', s'⟩ <;> rw [hrun] at he hreliable
  · -- It ends in its own records, of which a first part is a first part of all.
    obtain ⟨hsnapshots, recorded, hrecorded, hwhy⟩ := he
    cases hwhy with
    | refused h => cases h
    | outage kind hs hpart =>
      exact ⟨hsnapshots, recorded, hrecorded, .outage kind hs (hpart.trans (List.prefix_append ..))⟩
  · obtain ⟨m, ⟨⟩, hsnapshots, hlogged⟩ := he
    change s'.snapshots = s.snapshots at hsnapshots
    have h : Carried s' thread _ ((f a).run s') := hf s'
    dsimp only
    rcases hrun' : (f a).run s' with ⟨p | b', s''⟩ <;> rw [hrun'] at h
    · -- It ends in what comes next, behind all of its own records.
      obtain ⟨hsnapshots', recorded, hrecorded, hwhy⟩ := h
      refine ⟨hsnapshots'.trans hsnapshots, changes ++ recorded, hlogged.trans hrecorded, ?_⟩
      cases hwhy with
      | refused h => cases h
      | outage kind hs hpart =>
        exact .outage kind (fun h => hs (hreliable h)) ((List.prefix_append_right_inj changes).2 hpart)
    · obtain ⟨m, ⟨⟩, hsnapshots', hlogged'⟩ := h
      exact ⟨_, rfl, hsnapshots ▸ hsnapshots', hlogged.trans hlogged'⟩

theorem throw {p : StoreError} (hp : ∀ kind, p ≠ .outage kind) : (throw p : Edit α).Carries s thread (.error p) :=
  ⟨rfl, [], .of_ledgers rfl, .refused rfl hp⟩

theorem pure (a : α) : (pure a : Edit α).Carries s thread (.ok (⟨[], none⟩, a)) := ⟨_, rfl, rfl, .of_ledgers rfl⟩

end Carries

theorem carries_appendHistory (change : Change) :
    (ofCall (.appendHistory thread change)).Carries s thread (.ok (⟨[change], none⟩, ())) := by
  unfold Carries
  rw [run_ofCall]
  rcases s.answer_cases (.appendHistory thread change) with h | ⟨h, hs⟩ <;> rw [h]
  · exact ⟨_, rfl, rfl, Store.logged_appendHistory _ thread change⟩
  · exact ⟨rfl, [], .of_ledgers rfl, .outage _ hs List.nil_prefix⟩

theorem carries_save (key : String) (st : State) :
    (ofCall (.save key st)).Carries s thread (.ok (⟨[], some (key, st)⟩, ())) := by
  unfold Carries
  rw [run_ofCall]
  rcases s.answer_cases (.save key st) with h | ⟨h, hs⟩ <;> rw [h]
  · exact ⟨_, rfl, rfl, .of_ledgers rfl⟩
  · exact ⟨rfl, [], .of_ledgers rfl, .outage _ hs List.nil_prefix⟩

theorem carries_record (changes : List Change) : (record thread changes).Carries s thread (.ok (⟨changes, none⟩, ())) := by
  induction changes generalizing s with
  | nil => exact .pure ()
  | cons change changes ih => exact (carries_appendHistory change).andThen fun _ => ih

/-- The records come first, so what is saved is never ahead of them. -/
theorem carries_commit (changes : List Change) (st : State) :
    (commit thread changes st).Carries s thread (.ok (⟨changes, some (thread, st)⟩, ())) := by
  have h : (commit thread changes st).Carries s thread (.ok (⟨changes ++ [], some (thread, st)⟩, ())) :=
    (carries_record changes).andThen fun _ => carries_save thread st
  rwa [List.append_nil] at h

theorem Carries.andReturn {e : Edit Unit} {m : Mutation} (h : e.Carries s thread (.ok (m, ()))) (b : β) :
    (e >>= fun _ => Pure.pure b).Carries s thread (.ok (m, b)) := by
  have hmap := h.map fun _ => b
  rwa [map_eq_pure_bind] at hmap

theorem carries_saveState (st : State) :
    (saveState schema? thread st).Carries s thread (Mutation.ofSave schema? thread st) :=
  (reads_ofExcept _).bind (Operation.unbroken_allows _) fun _ _ => .underLock (carries_save thread st) thread

theorem carries_batch (ops : List Operation) :
    (batch schema? thread ops).Carries s thread (Mutation.ofBatch schema? s.snapshots thread ops) := by
  rw [Mutation.ofBatch_eq]
  refine .underLock ((reads_loadState thread).bind (Mutation.unbroken_stored _ thread) fun st _ => ?_) thread
  refine (reads_ofExcept _).bind (Operation.unbroken_applyAll ops st) fun r _ => ?_
  exact (carries_commit r.2 r.1).andReturn r.1

theorem carries_setStatus (status : String) :
    (setStatus schema? thread status).Carries s thread (Mutation.ofStatus schema? s.snapshots thread status) := by
  rw [Mutation.ofStatus_eq]
  refine .underLock ((reads_loadState thread).bind (Mutation.unbroken_stored _ thread) fun st _ => ?_) thread
  split
  · refine (reads_ofExcept _).bind (Operation.unbroken_applyUpdate statusField (.string status) st) fun r _ => ?_
    exact (carries_commit [r.2] r.1).andReturn true
  · exact .pure false

theorem carries_createCheckpoint (name : String) :
    (createCheckpoint thread name).Carries s thread (Mutation.ofCheckpoint s.snapshots thread name) :=
  .underLock ((reads_loadState thread).bind (Mutation.unbroken_stored _ thread) fun st _ => carries_save _ st) thread

theorem carries_restoreCheckpoint (name : String) :
    (restoreCheckpoint thread name).Carries s thread (Mutation.ofRestore s.snapshots thread name) := by
  have hgo : ∀ st? s', (match st? with
      | none => throw (.noCheckpoint thread name)
      | some st => do
        commit thread [.restore name] st
        return st : Edit State).Carries s' thread (match st? with
      | some st => .ok (⟨[.restore name], some (thread, st)⟩, st)
      | none => .error (.noCheckpoint thread name)) := fun st? s' => by
    cases st? with
    | none => exact .throw fun _ h => by cases h
    | some st => exact (carries_commit [.restore name] st).andReturn st
  exact .underLock ((reads_tryLoad _).bind (.ok _) hgo) thread

end Edit

namespace EditCommand

variable {rules : EditRules} {command : EditCommand} {s : Store} {thread : String}
  {plan : Except StoreError (Mutation × EditReply)}

/-- Whatever calls to the store fail, a command that changes a thread writes all of its plan or leaves every snapshot as
it is. Its records come first: what is recorded is a first part of them, all of them where the command ends well, none
where it is refused. -/
theorem all_or_nothing (h : command.plan? rules s.snapshots = some (thread, plan)) :
    Carried s thread plan ((command.edit rules).run s) := by
  cases command with
  | saveState t st =>
    cases h
    rw [edit, bind_pure_comp]
    exact (Edit.carries_saveState st).map fun _ => EditReply.done
  | setStatus t status => cases h; exact (Edit.carries_setStatus status).map EditReply.flag
  | modify t updates =>
    cases h
    rw [edit_modify]
    exact (Edit.carries_batch _).map EditReply.state
  | append t field value =>
    cases h
    rw [edit_append]
    exact (Edit.carries_batch _).map EditReply.state
  | deleteField t field =>
    cases h
    rw [edit_deleteField]
    exact (Edit.carries_batch _).map EditReply.state
  | batch t ops => cases h; exact (Edit.carries_batch ops).map EditReply.state
  | createCheckpoint t name =>
    cases h
    rw [edit, bind_pure_comp]
    exact (Edit.carries_createCheckpoint name).map fun _ => EditReply.done
  | restoreCheckpoint t name => cases h; exact (Edit.carries_restoreCheckpoint name).map EditReply.state
  | _ => cases h

/-- A thread with one field. -/
def soundStore : Store where
  snapshots := Record.empty.insert "t" (State.empty.set "c" .null)
  ledgers := .empty
  faults := .none

/-- The same thread in a store whose second record fails. -/
def failingStore : Store := { soundStore with faults := Faults.none.set .appendHistory (.block 1 1) }

def threeKinds : List Operation := [.update "a" (.bool true), .append "b" .null, .delete "c"]

/-- On a store that does not fail, a field is set, an array made and a field dropped, with three records. Where the second
record fails, the first stays in the ledger and the state is not saved. -/
theorem all_or_nothing_failingStore :
    let out s := ((EditCommand.batch "t" threeKinds).edit ⟨none, .lenient⟩).run s
    let plan : Except StoreError (Mutation × EditReply) := (Mutation.ofBatch none soundStore.snapshots "t" threeKinds).map
      fun (m, st) => (m, .state st)
    (∃ st, (out soundStore).1 = .ok (.state st) ∧ (out soundStore).2.snapshots.get? "t" = some st ∧
        st.get? "a" = some (.bool true) ∧ st.get? "b" = some (.array [.null]) ∧ st.get? "c" = none) ∧
      ((out soundStore).2.ledger "t").map (·.field) = ["a", "b", "c"] ∧ Carried soundStore "t" plan (out soundStore) ∧
      (out failingStore).1 = .error (.outage .appendHistory) ∧ (out failingStore).2.snapshots = soundStore.snapshots ∧
      ((out failingStore).2.ledger "t").map (·.field) = ["a"] ∧ Carried failingStore "t" plan (out failingStore) :=
  ⟨⟨_, rfl, rfl, rfl, rfl, rfl⟩, rfl, all_or_nothing rfl, rfl, rfl, rfl, all_or_nothing rfl⟩

end EditCommand
end GatedFlow
