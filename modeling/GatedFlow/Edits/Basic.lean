import GatedFlow.Edits.Operation
import GatedFlow.Program
import GatedFlow.Store.Basic

/-! # Edits of a thread

An edit loads a thread's state, changes a copy, appends one record per changed field to the thread's ledger
and then saves the copy, all under the thread's lock. The records come first, so a failing save can leave the
ledger ahead of the state and never behind it. -/

namespace GatedFlow

/-- A call of an edit: one to the store, or one about the locks. -/
inductive EditCall : Type → Type 1 where
  | store {α : Type} (call : StoreCall α) : EditCall (Except StoreError α)
  | acquire (thread : String) : EditCall Unit
  | release (thread : String) : EditCall Unit
  | activeLocks : EditCall Nat

/-- A program of such calls that may end with an error. -/
abbrev Edit (α : Type) := ExceptT StoreError (Program EditCall) α

/-- The answer to a call of an edit that runs alone: its locks are free, and none is held between edits. -/
def EditCall.answer {α : Type} (call : EditCall α) (s : Store) : α × Store :=
  match call with
  | store call => s.answer call
  | acquire _ => ((), s)
  | release _ => ((), s)
  | activeLocks => (0, s)

namespace Edit

variable {α β : Type}

def ofCall (call : StoreCall α) : Edit α := ExceptT.mk (Program.call (.store call))

/-- The edit without calls that ends this way. -/
def ofExcept (r : Except StoreError α) : Edit α := ExceptT.mk (.done r)

/-- The result of an edit that runs alone and the store it leaves. -/
def run (e : Edit α) (s : Store) : Except StoreError α × Store :=
  Program.run EditCall.answer (ExceptT.run e) s

/-- An edit under the lock of a thread, which is given back whatever the edit ends with. -/
def underLock (thread : String) (e : Edit α) : Edit α := ExceptT.mk do
  Program.call (.acquire thread)
  let result ← ExceptT.run e
  Program.call (.release thread)
  return result

@[simp] theorem run_ofCall (call : StoreCall α) (s : Store) : (ofCall call).run s = s.answer call := rfl

@[simp] theorem run_ofExcept (r : Except StoreError α) (s : Store) : (ofExcept r).run s = (r, s) := rfl

/-- An edit runs up to its first error and otherwise as the edit that takes its result. -/
theorem run_bind (e : Edit α) (f : α → Edit β) (s : Store) :
    (e >>= f).run s = match e.run s with
      | (.ok a, s) => (f a).run s
      | (.error p, s) => (.error p, s) := by
  simp only [run, ExceptT.run_bind, Program.run_bind]
  rcases (ExceptT.run e).run EditCall.answer s with ⟨p | a, s⟩ <;> rfl

theorem run_map (f : α → β) (e : Edit α) (s : Store) : (f <$> e).run s = ((e.run s).1.map f, (e.run s).2) := by
  rw [map_eq_pure_bind, run_bind]
  rcases e.run s with ⟨p | a, s⟩ <;> rfl

/-- An edit that runs alone does not notice its lock. -/
@[simp] theorem run_underLock (thread : String) (e : Edit α) (s : Store) :
    (underLock thread e).run s = e.run s := by
  show ((Program.call (.acquire thread) >>= fun _ => ExceptT.run e >>= fun r =>
    Program.call (.release thread) >>= fun _ => .done r).run EditCall.answer s) = _
  simp only [Program.run_bind, Program.run_call, Program.run_done, EditCall.answer, run]

/-- Appends changes to a thread's ledger, the first first. -/
def record (thread : String) : List Change → Edit Unit
  | [] => return
  | change :: rest => do
    ofCall (.appendHistory thread change)
    record thread rest

/-- Records changes and then saves the state they led to. -/
def commit (thread : String) (changes : List Change) (s : State) : Edit Unit := do
  record thread changes
  ofCall (.save thread s)

/-- Saves a whole state without a record; a schema is asked before the lock is taken. -/
def saveState (schema? : Option Schema) (thread : String) (s : State) : Edit Unit := do
  ofExcept (Schema.allows schema? (·.validate s))
  underLock thread (ofCall (.save thread s))

def loadState (thread : String) : Edit State := ofCall (.load thread)

/-- Whether a state has a status to be toggled: it has the field, or the schema declares it. -/
def supportsStatus (schema? : Option Schema) (s : State) : Bool :=
  s.contains statusField || schema?.any (·.declares statusField)

/-- Sets the status of a thread, if its state supports one, and tells whether it does. -/
def setStatus (schema? : Option Schema) (thread status : String) : Edit Bool :=
  underLock thread do
    let s ← loadState thread
    if supportsStatus schema? s then
      let (s, change) ← ofExcept (Operation.applyUpdate schema? statusField (.string status) s)
      commit thread [change] s
      return true
    else return false

/-- Makes changes to a copy of a thread's state, records them and saves the copy. -/
def mutate (thread : String) (change : State → Except StoreError (State × List Change)) : Edit State :=
  underLock thread do
    let s ← loadState thread
    let (s, changes) ← ofExcept (change s)
    commit thread changes s
    return s

/-- Sets several fields of a thread, in key order. -/
def modify (schema? : Option Schema) (thread : String) (updates : Fields) : Edit State :=
  mutate thread (Operation.updateAll schema? updates.entries)

def append (schema? : Option Schema) (thread field : String) (value : Value) : Edit State :=
  mutate thread fun s => (Operation.applyAppend schema? field value s).map fun r => (r.1, [r.2])

def deleteField (schema? : Option Schema) (thread field : String) : Edit State :=
  mutate thread fun s => (Operation.applyDelete schema? thread field s).map fun r => (r.1, [r.2])

/-- Carries out operations one after the other and commits them together. -/
def batch (schema? : Option Schema) (thread : String) (ops : List Operation) : Edit State :=
  mutate thread (Operation.applyAll schema? thread ops)

/-- To set several fields is the batch of their updates. -/
theorem modify_eq_batch (schema? : Option Schema) (thread : String) (updates : Fields) :
    modify schema? thread updates = batch schema? thread (updates.entries.map fun e => .update e.1 e.2) :=
  congrArg (mutate thread) (funext fun s => Operation.updateAll_eq schema? thread updates.entries s)

theorem append_eq_batch (schema? : Option Schema) (thread field : String) (value : Value) :
    append schema? thread field value = batch schema? thread [.append field value] :=
  congrArg (mutate thread) (funext fun s => (Operation.applyAll_singleton schema? thread (.append field value) s).symm)

theorem deleteField_eq_batch (schema? : Option Schema) (thread field : String) :
    deleteField schema? thread field = batch schema? thread [.delete field] :=
  congrArg (mutate thread) (funext fun s => (Operation.applyAll_singleton schema? thread (.delete field) s).symm)

def createCheckpoint (thread name : String) : Edit Unit :=
  underLock thread do
    let s ← loadState thread
    ofCall (.save (checkpointKey thread name) s)

def tryLoad (key : String) : Edit (Option State) := ExceptT.mk do
  match ← ExceptT.run (loadState key) with
  | .ok s => return .ok (some s)
  | .error (.noThread _) => return .ok none
  | .error e => return .error e

/-- Puts a named copy back in place of a thread's state. -/
def restoreCheckpoint (thread name : String) : Edit State :=
  underLock thread do
    match ← tryLoad (checkpointKey thread name) with
    | none => throw (.noCheckpoint thread name)
    | some s =>
      commit thread [.restore name] s
      return s

/-- The checkpoint names of a thread among keys. -/
def checkpointNames (thread : String) (keys : List String) : List String :=
  (keys.filterMap parseCheckpointKey?).filterMap fun (owner, name) => if owner = thread then some name else none

def listCheckpoints (thread : String) : Edit (List String) := do
  let keys ← ofCall (.listKeys (checkpointStart thread))
  return checkpointNames thread keys

def deleteCheckpoint (thread name : String) : Edit Bool := ofCall (.delete (checkpointKey thread name))

/-- Drops the checkpoints of a thread with these names, in their order. -/
def deleteCheckpoints (thread : String) : List String → Edit Unit
  | [] => return
  | name :: rest => do
    let _ ← deleteCheckpoint thread name
    deleteCheckpoints thread rest

/-- Drops a thread's state, ledger and checkpoints and tells whether it had a state. -/
def deleteThread (thread : String) : Edit Bool :=
  underLock thread do
    let names ← listCheckpoints thread
    deleteCheckpoints thread names
    ofCall (.delete thread)

def history (thread : String) : Edit (List Change) := ofCall (.history thread)

/-- The state of a thread as a migrator passes it on. -/
def loadForResume (migrator : Migrator) (thread version : String) : Edit State := do
  let s ← loadState thread
  ofExcept ((migrator.migrate s version).mapError .version)

/-- The number of threads whose lock is held or awaited. -/
def activeLocks : Edit Nat := ExceptT.mk (.ask .activeLocks fun n => .done (.ok n))

/-- How diagnostics show who makes edits without a schema. -/
def diagnostic : String :=
  "StateModifier \x7b store: \"<store>\", schema: None, migrator: \"<migrator>\" \x7d"

end Edit
end GatedFlow
