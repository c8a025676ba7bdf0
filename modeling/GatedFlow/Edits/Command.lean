import GatedFlow.Edits.Basic

/-! # Edits by name

`EditCommand` lists what can be asked of the store on behalf of a thread, so that a sequence of edits is a
list, and `EditCommand.edit` is the edit that each of them stands for. -/

namespace GatedFlow

/-- What all edits keep to. -/
structure EditRules where
  schema : Option Schema
  migrator : Migrator

/-- A request for an edit or for what is stored. -/
inductive EditCommand where
  | saveState (thread : String) (state : State)
  | loadState (thread : String)
  | setStatus (thread status : String)
  | modify (thread : String) (updates : Fields)
  | append (thread field : String) (value : Value)
  | deleteField (thread field : String)
  | batch (thread : String) (ops : List Operation)
  | createCheckpoint (thread name : String)
  | restoreCheckpoint (thread name : String)
  | listCheckpoints (thread : String)
  | deleteCheckpoint (thread name : String)
  | deleteThread (thread : String)
  | history (thread : String)
  | loadForResume (thread version : String)
  | activeLocks

/-- What an edit answers when it works. -/
inductive EditReply where
  | done
  | state (s : State)
  | flag (b : Bool)
  | names (l : List String)
  | ledger (l : List Change)
  | count (n : Nat)

def EditCommand.edit (rules : EditRules) : EditCommand → Edit EditReply
  | saveState thread s => do
    Edit.saveState rules.schema thread s
    return .done
  | loadState thread => .state <$> Edit.loadState thread
  | setStatus thread status => .flag <$> Edit.setStatus rules.schema thread status
  | modify thread updates => .state <$> Edit.modify rules.schema thread updates
  | append thread field value => .state <$> Edit.append rules.schema thread field value
  | deleteField thread field => .state <$> Edit.deleteField rules.schema thread field
  | batch thread ops => .state <$> Edit.batch rules.schema thread ops
  | createCheckpoint thread name => do
    Edit.createCheckpoint thread name
    return .done
  | restoreCheckpoint thread name => .state <$> Edit.restoreCheckpoint thread name
  | listCheckpoints thread => .names <$> Edit.listCheckpoints thread
  | deleteCheckpoint thread name => .flag <$> Edit.deleteCheckpoint thread name
  | deleteThread thread => .flag <$> Edit.deleteThread thread
  | history thread => .ledger <$> Edit.history thread
  | loadForResume thread version => .state <$> Edit.loadForResume rules.migrator thread version
  | activeLocks => .count <$> Edit.activeLocks

namespace EditCommand

variable (rules : EditRules) (thread field : String)

theorem edit_modify (updates : Fields) :
    (modify thread updates).edit rules = (batch thread (updates.entries.map fun e => .update e.1 e.2)).edit rules := by
  rw [edit, edit, Edit.modify_eq_batch]

theorem edit_append (value : Value) :
    (append thread field value).edit rules = (batch thread [.append field value]).edit rules := by
  rw [edit, edit, Edit.append_eq_batch]

theorem edit_deleteField : (deleteField thread field).edit rules = (batch thread [.delete field]).edit rules := by
  rw [edit, edit, Edit.deleteField_eq_batch]

end EditCommand
end GatedFlow
