import GatedFlow.State.Basic

/-! # Changes

A thread's ledger holds one change per changed field, each with the value before, so a ledger can be replayed
forwards and undone backwards. `Change.redo` and `Change.undo` say what a change does to a state. -/

namespace GatedFlow

inductive ChangeKind where
  | update
  | delete
  | append
  deriving DecidableEq

namespace ChangeKind

def word : ChangeKind → String
  | update => "update"
  | delete => "delete"
  | append => "append"

def ofWord? : String → Option ChangeKind
  | "update" => some update
  | "delete" => some delete
  | "append" => some append
  | _ => none

end ChangeKind

/-- The field name under which the return to a checkpoint is recorded. -/
def restoreField : String := "_restore"

/-- One change of a field. The value of an append is the new item, and the value before is the whole array;
a field that was not there has no value before. -/
structure Change where
  kind : ChangeKind
  field : String
  value : Value
  previous : Option Value

namespace Change

/-- The record of a return to a checkpoint. -/
def restore (name : String) : Change := ⟨.update, restoreField, .string name, none⟩

def isRestore (c : Change) : Bool := c.field == restoreField

def redo (c : Change) (s : State) : State :=
  match c.kind with
  | .update => s.set c.field c.value
  | .delete => s.remove c.field
  | .append =>
    match s.get? c.field with
    | some (.array items) => s.set c.field (.array (items ++ [c.value]))
    | _ => s.set c.field (.array [c.value])

/-- Takes a change back: the field gets the value it had before or goes. -/
def undo (c : Change) (s : State) : State :=
  match c.previous with
  | some v => s.set c.field v
  | none => s.remove c.field

/-- Makes changes again, the oldest first. -/
def redoAll (changes : List Change) (s : State) : State := changes.foldl (fun s c => c.redo s) s

/-- Takes changes back, the newest first. -/
def undoAll (changes : List Change) (s : State) : State := changes.foldr undo s

end Change
end GatedFlow
