import GatedFlow.Proofs.Edits.Keys

/-! # What edits write

An edit writes only under certain keys if it saves and drops states under keys of one set and adds to ledgers under keys of
another (`Edit.WritesOnly`), whatever the store answers. Then a state under any other key stays (`Contract.kept_served`),
and no other ledger comes into being (`Contract.recorded_served`). `EditCommand.Writes` and `EditCommand.Records` are these
keys for every edit by name. -/

namespace GatedFlow

/-- States are saved and dropped only under keys of a set, and ledgers grow only under keys of another. -/
def Contract.writing (W R : String → Prop) : Contract EditCall where
  Asks
    | .store (.save key _) => W key
    | .store (.delete key) => W key
    | .store (.appendHistory key _) => R key
    | _ => True
  Gives _ _ := True

namespace Contract

variable {W R : String → Prop}

theorem reliable_served : (writing W R).Served Store.Reliable :=
  served_of_serve (fun _ _ => trivial) (fun _ kind h => h.counted kind) fun call _ _ h => h.serve call

/-- What lies under a key that is not written stays there. -/
theorem kept_served {key : String} (hkey : ¬W key) (st? : Option State) :
    (writing W R).Served fun s => s.snapshots.get? key = st? := by
  have hne : ∀ {key'}, W key' → key' ≠ key := fun hkey' heq => hkey (heq ▸ hkey')
  refine served_of_serve (fun _ _ => trivial) (fun _ _ h => h) fun call s hasks h => ?_
  cases call with
  | save key' st => exact ((Record.get?_insert ..).trans (if_neg (hne hasks))).trans h
  | load key' => rwa [Store.serve_load]
  | delete key' => exact ((Record.get?_erase ..).trans (if_neg (hne hasks))).trans h
  | _ => exact h

/-- Where there are ledgers under keys of the set only, it stays so. -/
theorem recorded_served : (writing W R).Served fun s => ∀ key changes, s.ledgers.get? key = some changes → R key := by
  refine served_of_serve (fun _ _ => trivial) (fun _ _ h => h) fun call s hasks h => ?_
  cases call with
  | load key' => rwa [Store.serve_load]
  | delete key' =>
    intro key changes hget
    rw [show (s.serve (.delete key')).2.ledgers = s.ledgers.erase key' from rfl, Record.get?_erase] at hget
    split at hget
    · cases hget
    · exact h key changes hget
  | appendHistory key' change =>
    intro key changes hget
    rw [show (s.serve (.appendHistory key' change)).2.ledgers = s.ledgers.insert key' (s.ledger key' ++ [change]) from rfl,
      Record.get?_insert] at hget
    split at hget
    · rename_i heq
      exact heq ▸ hasks
    · exact h key changes hget
  | _ => exact h

end Contract

namespace Edit

variable {α β : Type} {e : Edit α} {W R : String → Prop} {thread : String} {schema? : Option Schema}

/-- An edit that writes states under keys of a set and records under keys of another. -/
def WritesOnly (W R : String → Prop) (e : Edit α) : Prop := e.Keeps (.writing W R) fun _ => True

namespace WritesOnly

theorem bind {f : α → Edit β} (h : e.WritesOnly W R) (hf : ∀ a, (f a).WritesOnly W R) : (e >>= f).WritesOnly W R :=
  Keeps.bind h fun a _ => hf a

theorem map (h : e.WritesOnly W R) (f : α → β) : (f <$> e).WritesOnly W R := Keeps.map h f fun _ _ => trivial

theorem pure (a : α) : (pure a : Edit α).WritesOnly W R := Keeps.pure trivial

theorem ofExcept (r : Except StoreError α) : (ofExcept r).WritesOnly W R := Keeps.ofExcept fun _ _ => trivial

theorem ofCall {call : StoreCall α} (h : (Contract.writing W R).Asks (.store call)) : (ofCall call).WritesOnly W R :=
  Keeps.ofCall h fun _ _ => trivial

theorem underLock (h : e.WritesOnly W R) (thread : String) : (underLock thread e).WritesOnly W R :=
  Keeps.underLock h trivial trivial

end WritesOnly

theorem writes_save {key : String} (h : W key) (st : State) : (ofCall (.save key st)).WritesOnly W R := .ofCall h

theorem writes_delete {key : String} (h : W key) : (ofCall (.delete key)).WritesOnly W R := .ofCall h

theorem writes_appendHistory {key : String} (h : R key) (change : Change) :
    (ofCall (.appendHistory key change)).WritesOnly W R := .ofCall h

theorem writes_loadState (key : String) : (loadState key).WritesOnly W R := .ofCall trivial

theorem writes_record (hthread : R thread) (changes : List Change) : (record thread changes).WritesOnly W R := by
  induction changes with
  | nil => exact .pure ()
  | cons change changes ih => exact (writes_appendHistory hthread change).bind fun _ => ih

theorem writes_commit (hW : W thread) (hR : R thread) (changes : List Change) (st : State) :
    (commit thread changes st).WritesOnly W R :=
  (writes_record hR changes).bind fun _ => writes_save hW st

theorem writes_saveState (hW : W thread) (st : State) : (saveState schema? thread st).WritesOnly W R :=
  (WritesOnly.ofExcept _).bind fun _ => (writes_save hW st).underLock thread

theorem writes_setStatus (hW : W thread) (hR : R thread) (status : String) :
    (setStatus schema? thread status).WritesOnly W R := by
  refine ((writes_loadState thread).bind fun st => ?_).underLock thread
  split
  · exact (WritesOnly.ofExcept _).bind fun _ => (writes_commit hW hR _ _).bind fun _ => .pure true
  · exact .pure false

theorem writes_mutate (hW : W thread) (hR : R thread) (change : State → Except StoreError (State × List Change)) :
    (mutate thread change).WritesOnly W R :=
  ((writes_loadState thread).bind fun _ => (WritesOnly.ofExcept _).bind fun _ =>
    (writes_commit hW hR _ _).bind fun _ => .pure _).underLock thread

theorem writes_createCheckpoint {name : String} (h : W (checkpointKey thread name)) :
    (createCheckpoint thread name).WritesOnly W R :=
  ((writes_loadState thread).bind fun st => writes_save h st).underLock thread

theorem writes_tryLoad (key : String) : (tryLoad key).WritesOnly W R := Keeps.tryLoad trivial

theorem writes_restoreCheckpoint (hW : W thread) (hR : R thread) (name : String) :
    (restoreCheckpoint thread name).WritesOnly W R := by
  refine ((writes_tryLoad _).bind fun st? => ?_).underLock thread
  cases st? with
  | none => exact Keeps.throw _
  | some st => exact (writes_commit hW hR _ _).bind fun _ => .pure st

theorem writes_listCheckpoints : (listCheckpoints thread).WritesOnly W R :=
  WritesOnly.bind (.ofCall trivial) fun _ => .pure _

theorem writes_deleteCheckpoint {name : String} (h : W (checkpointKey thread name)) :
    (deleteCheckpoint thread name).WritesOnly W R := .ofCall h

theorem writes_deleteCheckpoints (h : ∀ key, Owns thread key → W key) (names : List String) :
    (deleteCheckpoints thread names).WritesOnly W R := by
  induction names with
  | nil => exact .pure ()
  | cons name names ih => exact (writes_deleteCheckpoint (h _ (owns_checkpointKey thread name))).bind fun _ => ih

theorem writes_deleteThread (h : ∀ key, Owns thread key → W key) : (deleteThread thread).WritesOnly W R :=
  (writes_listCheckpoints.bind fun names => (writes_deleteCheckpoints h names).bind fun _ =>
    writes_delete (h _ (owns_self thread))).underLock thread

theorem writes_history : (history thread).WritesOnly W R := .ofCall trivial

theorem writes_activeLocks : activeLocks.WritesOnly W R := ⟨trivial, fun _ _ _ _ => trivial⟩

theorem writes_loadForResume (migrator : Migrator) (version : String) :
    (loadForResume migrator thread version).WritesOnly W R :=
  (writes_loadState thread).bind fun _ => .ofExcept _

end Edit

namespace EditCommand

/-- The keys under which an edit may save or drop a state. -/
def Writes : EditCommand → String → Prop
  | saveState t _, key => key = t
  | setStatus t _, key => key = t
  | modify t _, key => key = t
  | append t _ _, key => key = t
  | deleteField t _, key => key = t
  | batch t _, key => key = t
  | createCheckpoint t name, key => key = checkpointKey t name
  | restoreCheckpoint t _, key => key = t
  | deleteCheckpoint t name, key => key = checkpointKey t name
  | deleteThread t, key => Owns t key
  | _, _ => False

/-- The keys under which an edit may add to a ledger. -/
def Records : EditCommand → String → Prop
  | setStatus t _, key => key = t
  | modify t _, key => key = t
  | append t _ _, key => key = t
  | deleteField t _, key => key = t
  | batch t _, key => key = t
  | restoreCheckpoint t _, key => key = t
  | _, _ => False

variable {c : EditCommand} {W R : String → Prop}

/-- What an edit writes lies within any sets that hold the keys that it names. -/
theorem writesOnly (rules : EditRules) (hW : ∀ key, c.Writes key → W key) (hR : ∀ key, c.Records key → R key) :
    (c.edit rules).WritesOnly W R := by
  cases c with
  | saveState t st => exact (Edit.writes_saveState (hW t rfl) st).bind fun _ => .pure _
  | loadState t => exact (Edit.writes_loadState t).map _
  | setStatus t status => exact (Edit.writes_setStatus (hW t rfl) (hR t rfl) status).map _
  | modify t updates => exact (Edit.writes_mutate (hW t rfl) (hR t rfl) _).map _
  | append t field value => exact (Edit.writes_mutate (hW t rfl) (hR t rfl) _).map _
  | deleteField t field => exact (Edit.writes_mutate (hW t rfl) (hR t rfl) _).map _
  | batch t ops => exact (Edit.writes_mutate (hW t rfl) (hR t rfl) _).map _
  | createCheckpoint t name => exact (Edit.writes_createCheckpoint (hW _ rfl)).bind fun _ => .pure _
  | restoreCheckpoint t name => exact (Edit.writes_restoreCheckpoint (hW t rfl) (hR t rfl) name).map _
  | listCheckpoints t => exact Edit.writes_listCheckpoints.map _
  | deleteCheckpoint t name => exact (Edit.writes_deleteCheckpoint (hW _ rfl)).map _
  | deleteThread t => exact (Edit.writes_deleteThread hW).map _
  | history t => exact Edit.writes_history.map _
  | loadForResume t version => exact (Edit.writes_loadForResume rules.migrator version).map _
  | activeLocks => exact Edit.writes_activeLocks.map _

end EditCommand
end GatedFlow
