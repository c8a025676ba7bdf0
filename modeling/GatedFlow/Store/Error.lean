import GatedFlow.State.Schema
import GatedFlow.State.Version

/-! # What can go wrong with a stored thread

`StoreError.isAbsence` separates the errors that only say that something is not there from real failures. -/

namespace GatedFlow

inductive CallKind where
  | save
  | load
  | delete
  | listKeys
  | appendHistory
  | history
  deriving DecidableEq

namespace CallKind

def word : CallKind → String
  | save => "save"
  | load => "load"
  | delete => "delete"
  | listKeys => "list_keys"
  | appendHistory => "append_history"
  | history => "history"

def ofWord? : String → Option CallKind
  | "save" => some save
  | "load" => some load
  | "delete" => some delete
  | "list_keys" => some listKeys
  | "append_history" => some appendHistory
  | "history" => some history
  | _ => none

end CallKind

/-- Why a call on a stored thread has no result. -/
inductive StoreError where
  | noThread (thread : String)
  | noCheckpoint (thread name : String)
  | noField (thread field : String)
  | notASequence (field found : String)
  | schema (problem : SchemaProblem)
  | outage (call : CallKind)
  | version (problem : VersionProblem)
  deriving DecidableEq

namespace StoreError

def message : StoreError → String
  | noThread thread => s!"State not found for thread: {thread}"
  | noCheckpoint thread name => s!"Checkpoint '{name}' not found for thread '{thread}'"
  | noField thread field => s!"Field '{field}' not found in state of thread '{thread}'"
  | notASequence field found => s!"Field '{field}' is not a sequence (found {found})"
  | schema problem => "Schema violation: " ++ problem.message
  | outage call => "Storage error: injected " ++ call.word ++ " failure"
  | version problem => problem.message

def code : StoreError → String
  | noThread _ => "NotFound"
  | noCheckpoint .. => "CheckpointNotFound"
  | noField .. => "FieldNotFound"
  | notASequence .. => "NotASequence"
  | schema _ => "Schema"
  | outage _ => "Storage"
  | version _ => "Migration"

/-- Whether the error says that something is not there. -/
def isAbsence : StoreError → Bool
  | noThread _ => true
  | noCheckpoint .. => true
  | noField .. => true
  | _ => false

end StoreError
end GatedFlow
