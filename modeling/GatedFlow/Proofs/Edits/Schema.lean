import GatedFlow.Edits.Command
import GatedFlow.Proofs.Edits.Contract
import GatedFlow.Proofs.State.Schema

/-! # Edits that keep to a schema

Under `Schema.contract` only accepted states are saved, and what is loaded can be relied on to be accepted. Every edit
by name keeps it (`EditCommand.keeps`): an edit of a field asks the schema about the field, and a copy of a stored state
relies on it. -/

namespace GatedFlow
namespace Schema

/-- Every stored state, of a thread or a checkpoint, is accepted. -/
def AcceptsAll (schema : Schema) (snapshots : Record State) : Prop :=
  ∀ key st, snapshots.get? key = some st → schema.Accepts st

/-- Accepted states are saved, and accepted states are loaded. -/
def contract (schema : Schema) : Contract EditCall where
  Asks
    | .store (.save _ st) => schema.Accepts st
    | _ => True
  Gives
    | .store (.load _), .ok st => schema.Accepts st
    | _, _ => True

variable {schema : Schema}

theorem acceptsAll_empty : schema.AcceptsAll .empty := fun _ _ h => by cases h

theorem AcceptsAll.insert {snapshots : Record State} (h : schema.AcceptsAll snapshots) {key : String} {st : State}
    (hst : schema.Accepts st) : schema.AcceptsAll (snapshots.insert key st) := by
  intro key' st' hget
  rw [Record.get?_insert] at hget
  split at hget
  · cases hget
    exact hst
  · exact h key' st' hget

theorem AcceptsAll.erase {snapshots : Record State} (h : schema.AcceptsAll snapshots) (key : String) :
    schema.AcceptsAll (snapshots.erase key) := by
  intro key' st' hget
  rw [Record.get?_erase] at hget
  split at hget
  · cases hget
  · exact h key' st' hget

theorem served (schema : Schema) : schema.contract.Served fun s => schema.AcceptsAll s.snapshots where
  counted s kind h := h
  serve call s hasks h := by
    cases call with
    | save key st => exact ⟨trivial, h.insert hasks⟩
    | load key =>
      unfold Store.serve
      dsimp only
      split
      · rename_i st hst
        exact ⟨h key st hst, h⟩
      · exact ⟨trivial, h⟩
    | delete key => exact ⟨trivial, h.erase key⟩
    | listKeys start => exact ⟨trivial, h⟩
    | appendHistory key change => exact ⟨trivial, h⟩
    | history key => exact ⟨trivial, h⟩
  outage call kind := by cases call <;> trivial
  acquire thread := trivial
  release thread := trivial
  activeLocks n := trivial

end Schema

namespace Edit

variable {schema : Schema} {thread : String} {α : Type} {e : Edit α} {Q : α → Prop}

theorem Keeps.locked (h : e.Keeps schema.contract Q) (thread : String) :
    (Edit.underLock thread e).Keeps schema.contract Q :=
  h.underLock trivial trivial

theorem keeps_loadState (thread : String) : (loadState thread).Keeps schema.contract schema.Accepts :=
  .ofCall trivial fun _ h => h

theorem keeps_save {st : State} (hst : schema.Accepts st) (key : String) :
    (ofCall (.save key st)).Keeps schema.contract fun _ => True :=
  .ofCall hst fun _ _ => trivial

theorem keeps_record (changes : List Change) : (record thread changes).Keeps schema.contract fun _ => True := by
  induction changes with
  | nil => exact .pure trivial
  | cons change changes ih => exact Keeps.bind (.ofCall (Q := fun _ => True) trivial fun _ _ => trivial) fun _ _ => ih

theorem keeps_commit {st : State} (hst : schema.Accepts st) (changes : List Change) :
    (commit thread changes st).Keeps schema.contract fun _ => True :=
  (keeps_record changes).bind fun _ _ => keeps_save hst thread

theorem keeps_saveState (st : State) : (saveState (some schema) thread st).Keeps schema.contract fun _ => True := by
  refine Keeps.bind (.ofExcept fun _ h => Schema.of_allows h) fun _ hst => ?_
  exact (keeps_save hst thread).locked thread

theorem keeps_setStatus (status : String) : (setStatus (some schema) thread status).Keeps schema.contract fun _ => True := by
  refine ((keeps_loadState thread).bind fun st hst => ?_).locked thread
  split
  · refine Keeps.bind (.ofExcept fun r h => Schema.accepts_of_applyUpdate h hst) fun r hr => ?_
    exact (keeps_commit hr _).bind fun _ _ => .pure trivial
  · exact .pure trivial

theorem keeps_batch (ops : List Operation) : (batch (some schema) thread ops).Keeps schema.contract schema.Accepts := by
  refine ((keeps_loadState thread).bind fun st hst => ?_).locked thread
  refine Keeps.bind (.ofExcept fun r h => Schema.accepts_of_applyAll h hst) fun r hr => ?_
  exact (keeps_commit hr _).bind fun _ _ => .pure hr

theorem keeps_modify (updates : Fields) :
    (modify (some schema) thread updates).Keeps schema.contract schema.Accepts := by
  rw [modify_eq_batch]
  exact keeps_batch _

theorem keeps_append (field : String) (value : Value) :
    (append (some schema) thread field value).Keeps schema.contract schema.Accepts := by
  rw [append_eq_batch]
  exact keeps_batch _

theorem keeps_deleteField (field : String) :
    (deleteField (some schema) thread field).Keeps schema.contract schema.Accepts := by
  rw [deleteField_eq_batch]
  exact keeps_batch _

theorem keeps_createCheckpoint (name : String) :
    (createCheckpoint thread name).Keeps schema.contract fun _ => True :=
  ((keeps_loadState thread).bind fun _ hst => keeps_save hst _).locked thread

theorem keeps_tryLoad (key : String) :
    (tryLoad key).Keeps schema.contract fun st? => ∀ st, st? = some st → schema.Accepts st := by
  refine Program.Keeps.bind (keeps_loadState key) fun r hr => ?_
  split
  · rintro _ ⟨⟩ _ ⟨⟩
    exact hr _ rfl
  · rintro _ ⟨⟩ _ ⟨⟩
  · rintro _ ⟨⟩

theorem keeps_restoreCheckpoint (name : String) :
    (restoreCheckpoint thread name).Keeps schema.contract fun _ => True := by
  refine ((keeps_tryLoad _).bind fun st? hst? => ?_).locked thread
  cases st? with
  | none => exact .throw _
  | some st => exact (keeps_commit (hst? st rfl) _).bind fun _ _ => .pure trivial

theorem keeps_listCheckpoints : (listCheckpoints thread).Keeps schema.contract fun _ => True :=
  Keeps.bind (.ofCall (Q := fun _ => True) trivial fun _ _ => trivial) fun _ _ => .pure trivial

theorem keeps_deleteCheckpoint (name : String) : (deleteCheckpoint thread name).Keeps schema.contract fun _ => True :=
  .ofCall trivial fun _ _ => trivial

theorem keeps_deleteCheckpoints (names : List String) :
    (deleteCheckpoints thread names).Keeps schema.contract fun _ => True := by
  induction names with
  | nil => exact .pure trivial
  | cons name names ih => exact (keeps_deleteCheckpoint name).bind fun _ _ => ih

theorem keeps_deleteThread : (deleteThread thread).Keeps schema.contract fun _ => True := by
  refine (keeps_listCheckpoints.bind fun names _ => ?_).locked thread
  exact (keeps_deleteCheckpoints names).bind fun _ _ => .ofCall trivial fun _ _ => trivial

theorem keeps_history : (history thread).Keeps schema.contract fun _ => True := .ofCall trivial fun _ _ => trivial

theorem keeps_activeLocks : activeLocks.Keeps schema.contract fun _ => True := ⟨trivial, fun _ _ _ _ => trivial⟩

theorem keeps_loadForResume (migrator : Migrator) (version : String) :
    (loadForResume migrator thread version).Keeps schema.contract fun _ => True :=
  (keeps_loadState thread).bind fun _ _ => .ofExcept fun _ _ => trivial

end Edit

theorem EditCommand.keeps {rules : EditRules} {schema : Schema} (hschema : rules.schema = some schema) (c : EditCommand) :
    (c.edit rules).Keeps schema.contract fun _ => True := by
  have hanswer {α : Type} {e : Edit α} {Q : α → Prop} (h : e.Keeps schema.contract Q) (f : α → EditReply) :
      (f <$> e).Keeps schema.contract fun _ => True := h.map f fun _ _ => trivial
  rw [edit.eq_def, hschema]
  cases c with
  | saveState thread st => exact (Edit.keeps_saveState st).bind fun _ _ => .pure trivial
  | loadState thread => exact hanswer (Edit.keeps_loadState thread) _
  | setStatus thread status => exact hanswer (Edit.keeps_setStatus status) _
  | modify thread updates => exact hanswer (Edit.keeps_modify updates) _
  | append thread field value => exact hanswer (Edit.keeps_append field value) _
  | deleteField thread field => exact hanswer (Edit.keeps_deleteField field) _
  | batch thread ops => exact hanswer (Edit.keeps_batch ops) _
  | createCheckpoint thread name => exact (Edit.keeps_createCheckpoint name).bind fun _ _ => .pure trivial
  | restoreCheckpoint thread name => exact hanswer (Edit.keeps_restoreCheckpoint name) _
  | listCheckpoints thread => exact hanswer Edit.keeps_listCheckpoints _
  | deleteCheckpoint thread name => exact hanswer (Edit.keeps_deleteCheckpoint name) _
  | deleteThread thread => exact hanswer Edit.keeps_deleteThread _
  | history thread => exact hanswer Edit.keeps_history _
  | loadForResume thread version => exact hanswer (Edit.keeps_loadForResume rules.migrator version) _
  | activeLocks => exact hanswer Edit.keeps_activeLocks _

end GatedFlow
