import GatedFlow.Proofs.Edits.Advance
import GatedFlow.Proofs.Edits.Footprint
import GatedFlow.Proofs.Session.Attempts
import GatedFlow.Proofs.Session.Contract
import Mathlib

/-! # Checkpoints in a session

A checkpoint lies under a key that no other edit on a well-formed id writes but those that make it anew, drop it or drop its
thread (`EditCommand.replaces_of_writes`), and a run writes under the id of its thread only. So the copy outlasts whatever else
happens in a session, and the return to it gives the thread the state that it had when the checkpoint was made
(`checkpoint_restored`). -/

namespace GatedFlow

variable {thread name : String}

namespace EditCommand

/-- An edit that makes a checkpoint, drops it or drops its thread. -/
def Replaces (thread name : String) : EditCommand → Prop
  | createCheckpoint t n => t = thread ∧ n = name
  | deleteCheckpoint t n => t = thread ∧ n = name
  | deleteThread t => t = thread
  | _ => False

/-- An edit on a well-formed id that neither makes a checkpoint nor drops it. -/
structure LeavesCheckpoint (thread name : String) (c : EditCommand) : Prop where
  wellFormed : ∀ t, c.thread? = some t → WellFormedId t
  leaves : ¬c.Replaces thread name

theorem leavesCheckpoint_iff {c : EditCommand} : c.LeavesCheckpoint thread name ↔
    (∀ t, c.thread? = some t → WellFormedId t) ∧ ¬c.Replaces thread name :=
  ⟨fun h => ⟨h.1, h.2⟩, fun h => ⟨h.1, h.2⟩⟩

/-- On well-formed ids only these edits write under the key of a checkpoint. -/
theorem replaces_of_writes {c : EditCommand} (hc : ∀ t, c.thread? = some t → WellFormedId t) (hthread : WellFormedId thread)
    (h : c.Writes (checkpointKey thread name)) : c.Replaces thread name := by
  cases c with
  | createCheckpoint t n => exact (hc t rfl).checkpointKey_inj hthread h.symm
  | deleteCheckpoint t n => exact (hc t rfl).checkpointKey_inj hthread h.symm
  | deleteThread t => exact (hc t rfl).eq_of_owns hthread h (owns_checkpointKey thread name)
  | saveState t st => exact absurd h.symm (hc t rfl).ne_checkpointKey
  | setStatus t status => exact absurd h.symm (hc t rfl).ne_checkpointKey
  | modify t updates => exact absurd h.symm (hc t rfl).ne_checkpointKey
  | append t field value => exact absurd h.symm (hc t rfl).ne_checkpointKey
  | deleteField t field => exact absurd h.symm (hc t rfl).ne_checkpointKey
  | batch t ops => exact absurd h.symm (hc t rfl).ne_checkpointKey
  | restoreCheckpoint t n => exact absurd h.symm (hc t rfl).ne_checkpointKey
  | _ => exact h.elim

end EditCommand

/-- A direct call that writes under another key; all calls go on being served. -/
def StoreCommand.LeavesCheckpoint (thread name : String) : StoreCommand → Prop
  | save key _ => key ≠ checkpointKey thread name
  | delete key => key ≠ checkpointKey thread name
  | plan .. => False
  | _ => True

def Command.LeavesCheckpoint (thread name : String) : Command → Prop
  | edit c => c.LeavesCheckpoint thread name
  | store c => c.LeavesCheckpoint thread name
  | desk _ => True

/-- A step on well-formed ids that neither makes a checkpoint nor drops it. -/
def Step.LeavesCheckpoint (thread name : String) : Step → Prop
  | command c => c.LeavesCheckpoint thread name
  | together edits => ∀ c ∈ edits, c.LeavesCheckpoint thread name
  | wait t _ commands => WellFormedId t ∧ ∀ c ∈ commands.map Prod.snd, c.LeavesCheckpoint thread name
  | invoke t _ commands => WellFormedId t ∧ ∀ c ∈ commands.map Prod.snd, c.LeavesCheckpoint thread name
  | resume t commands => WellFormedId t ∧ ∀ c ∈ commands.map Prod.snd, c.LeavesCheckpoint thread name

/-- Everything may be written but what lies under the key of a checkpoint. -/
def Contract.leaving (thread name : String) : Contract EditCall :=
  .writing (fun key => key ≠ checkpointKey thread name) fun _ => True

/-- Calls do not fail, and a checkpoint holds a state. -/
def Store.Checkpointed (thread name : String) (st : State) (s : Store) : Prop :=
  s.Reliable ∧ s.snapshots.get? (checkpointKey thread name) = some st

variable {st : State}

theorem Contract.leaving_served : (leaving thread name).Served (Store.Checkpointed thread name st) :=
  reliable_served.and (kept_served (fun h => h rfl) (some st))

theorem Engine.runsKeep_writing {E : Engine} {t : String} {W R : String → Prop} (hW : W t) (hR : R t) :
    E.RunsKeep (.writing W R) t := by
  intro β call h
  cases h with
  | load => exact Edit.writes_loadState t
  | loadForResume version => exact Edit.writes_loadForResume _ version
  | save st => exact Edit.writes_saveState hW st
  | modify updates => exact Edit.writes_mutate hW hR _
  | deleteField field => exact Edit.writes_mutate hW hR _
  | setStatus status => exact Edit.writes_setStatus hW hR status
  | _ => trivial

theorem Engine.runsKeep_leaving {E : Engine} {t : String} (ht : WellFormedId t) :
    E.RunsKeep (.leaving thread name) t :=
  runsKeep_writing (W := fun key => key ≠ checkpointKey thread name) (R := fun _ => True) ht.ne_checkpointKey trivial

section

variable {rules : EditRules} {E : Engine}

theorem EditCommand.LeavesCheckpoint.keeps {c : EditCommand} (h : c.LeavesCheckpoint thread name)
    (hthread : WellFormedId thread) (rules : EditRules) :
    (c.edit rules).Keeps (.leaving thread name) fun _ => True := by
  refine c.writesOnly rules (fun key hkey heq => ?_) fun _ _ => trivial
  rw [heq] at hkey
  exact h.leaves (replaces_of_writes h.wellFormed hthread hkey)

theorem Command.LeavesCheckpoint.allowed {c : Command} (h : c.LeavesCheckpoint thread name) (hthread : WellFormedId thread) :
    c.Allowed (.leaving thread name) (Store.Checkpointed thread name st) rules := by
  cases c with
  | edit c => exact EditCommand.LeavesCheckpoint.keeps h hthread rules
  | store c =>
    cases c with
    | save key state => exact h
    | delete key => exact h
    | plan kind p => exact h.elim
    | _ => trivial
  | desk c => trivial

theorem Step.LeavesCheckpoint.allowed {s : Step} (h : s.LeavesCheckpoint thread name) (hthread : WellFormedId thread) :
    s.Allowed E (.leaving thread name) (Store.Checkpointed thread name st) := by
  have hcommands : ∀ {commands : List (Nat × Command)}, (∀ c ∈ commands.map Prod.snd, c.LeavesCheckpoint thread name) →
      ∀ c ∈ commands.map Prod.snd, c.Allowed (.leaving thread name) (Store.Checkpointed thread name st) E.rules :=
    fun h c hc => (h c hc).allowed hthread
  cases s with
  | command c => exact Command.LeavesCheckpoint.allowed h hthread
  | together edits => exact fun c hc => (h c hc).keeps hthread E.rules
  | wait t limit commands => exact ⟨Engine.runsKeep_leaving h.1, hcommands h.2⟩
  | invoke t initial commands => exact ⟨Engine.runsKeep_leaving h.1, hcommands h.2⟩
  | resume t commands => exact ⟨Engine.runsKeep_leaving h.1, hcommands h.2⟩

end

/-- A checkpoint is made of a thread with a well-formed id, and after any session on such ids that neither makes it anew nor
drops it the thread returns to it: it is given the state that it had when the checkpoint was made, and its history goes on
with a record of the return. -/
theorem checkpoint_restored {w : World} {turns : List Turn} (hs : w.store.Reliable) (hthread : WellFormedId thread)
    (hst : w.store.snapshots.get? thread = some st) (hturns : ∀ t ∈ turns, t.step.LeavesCheckpoint thread name)
    (rules rules' : EditRules) :
    let made := Command.run rules (.edit (.createCheckpoint thread name)) w
    let later := Turn.after turns made.2
    let restored := Command.run rules' (.edit (.restoreCheckpoint thread name)) later
    made.1 = .edited .done ∧ restored.1 = .edited (.state st) ∧
      (Command.run rules' (.edit (.loadState thread)) restored.2).1 = .edited (.state st) ∧
      ∃ ledger, (Command.run rules' (.edit (.history thread)) later).1 = .edited (.ledger ledger) ∧
        (Command.run rules' (.edit (.history thread)) restored.2).1 = .edited (.ledger (ledger ++ [.restore name])) := by
  intro made later restored
  obtain ⟨s₁, hmake, hs₁, hsnapshots⟩ := Edit.run_createCheckpoint hs hst name
  have hmade : made = (.edited .done, { w with store := s₁ }) := by
    show Command.run rules (.edit (.createCheckpoint thread name)) w = _
    rw [Command.run, EditCommand.edit, bind_pure_comp, Edit.run_map, hmake]
    rfl
  have hcopied : made.2.store.Checkpointed thread name st := by
    rw [hmade]
    refine ⟨hs₁, ?_⟩
    rw [hsnapshots, Record.get?_insert, if_pos rfl]
  have hkept : later.store.Checkpointed thread name st :=
    Turn.after_keeps (fun t ht => (hturns t ht).allowed hthread) Contract.leaving_served hcopied
  obtain ⟨s₂, hrestore, hadvances⟩ := Edit.advances_restoreCheckpoint hkept.1 hkept.2
  have hrestored : restored = (.edited (.state st), { later with store := s₂ }) := by
    show Command.run rules' (.edit (.restoreCheckpoint thread name)) later = _
    rw [Command.run, EditCommand.edit, Edit.run_map, hrestore]
    rfl
  obtain ⟨s₃, hload, -⟩ := Edit.advances_loadState hadvances.reliable hadvances.stored
  rw [hmade, hrestored]
  refine ⟨rfl, rfl, ?_, later.store.ledger thread, ?_, ?_⟩
  · rw [Command.run, EditCommand.edit, Edit.run_map, hload]
    rfl
  · rw [Command.run, EditCommand.edit, Edit.run_map, Edit.run_history hkept.1]
    rfl
  · rw [Command.run, EditCommand.edit, Edit.run_map, Edit.run_history hadvances.reliable, hadvances.logged.self]
    rfl

/-- A thread with a field, and one whose id begins with that of the first. -/
def neighbourWorld : World := { World.fresh [] [] none with store := { Store.empty with
  snapshots := (Record.empty.insert "t" (State.empty.set "a" .null)).insert "t:check" .empty } }

def waiting : Engine := { forked with config := { Config.standard with mode := .wait } }

/-- Two more checkpoints are made, one of the second thread with the same name. The first thread is given a new state and run,
and one of its checkpoints is dropped while the run waits. At last the second thread is dropped. -/
def busyTurns : List Turn :=
  [.command (.desk (.addAlways "b")), .command (.edit (.deleteField "t" "a")),
    .together [.createCheckpoint "t" "b", .createCheckpoint "t:check" "a:checkpoint:b"],
    .invoke "t" (State.empty.set "b" .null) [(5, .edit (.deleteCheckpoint "t" "b")), (6, .desk (.cancel "t"))],
    .command (.edit (.deleteThread "t:check"))].map (⟨waiting, patience, ·⟩)

theorem busyTurns_leaveCheckpoint : ∀ t ∈ busyTurns, t.step.LeavesCheckpoint "t" "a:checkpoint:b" := by
  have ht : WellFormedId "t" := by decide
  have hcheck : WellFormedId "t:check" := by decide
  simp [busyTurns, Step.LeavesCheckpoint, Command.LeavesCheckpoint, EditCommand.leavesCheckpoint_iff,
    EditCommand.thread?, EditCommand.Replaces, ht, hcheck, -List.mem_map]

set_option maxRecDepth 8000 in
theorem checkpoint_restored_busyTurns :
    let made := Command.run ⟨none, .lenient⟩ (.edit (.createCheckpoint "t" "a:checkpoint:b")) neighbourWorld
    let later := Turn.after busyTurns made.2
    let restored := Command.run ⟨none, .lenient⟩ (.edit (.restoreCheckpoint "t" "a:checkpoint:b")) later
    neighbourWorld.store.Reliable ∧ WellFormedId "t" ∧
      neighbourWorld.store.snapshots.get? "t" = some (State.empty.set "a" .null) ∧
      (∀ t ∈ busyTurns, t.step.LeavesCheckpoint "t" "a:checkpoint:b") ∧
      later.store.snapshots.keys = ["t", "t:checkpoint:a:checkpoint:b"] ∧
      later.store.snapshots.get? "t" = some (State.empty.set "b" .null) ∧
      made.1 = .edited .done ∧ restored.1 = .edited (.state (State.empty.set "a" .null)) ∧
      (Command.run ⟨none, .lenient⟩ (.edit (.loadState "t")) restored.2).1 = .edited (.state (State.empty.set "a" .null)) ∧
      ∃ ledger, (Command.run ⟨none, .lenient⟩ (.edit (.history "t")) later).1 = .edited (.ledger ledger) ∧
        (Command.run ⟨none, .lenient⟩ (.edit (.history "t")) restored.2).1 =
          .edited (.ledger (ledger ++ [.restore "a:checkpoint:b"])) := by
  have hs : neighbourWorld.store.Reliable := Store.reliable_empty
  have ht : WellFormedId "t" := by decide
  have hst : neighbourWorld.store.snapshots.get? "t" = some (State.empty.set "a" .null) := rfl
  have hrestored := checkpoint_restored hs ht hst busyTurns_leaveCheckpoint ⟨none, .lenient⟩ ⟨none, .lenient⟩
  exact ⟨hs, ht, hst, busyTurns_leaveCheckpoint, by cbv, by cbv, hrestored⟩

end GatedFlow
