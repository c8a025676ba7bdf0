import GatedFlow.Proofs.Edits.Mutation
import GatedFlow.Proofs.Ledger.Replay

/-! # What edits add to a ledger

Every recorded edit of a thread has a plan whose changes lead from the thread's stored state to the one it saves
(`Mutation.LeadsOn`). An edit keeps to its plan (`Carried`), so where no call to the store fails the ledger grows by changes
that lead from the stored state to the new one (`EditCommand.steps_of_isRecorded`), and the whole ledger leads from the
state a thread was given at first to the one it has come to, and back (`EditCommand.ledger_leads_from_seed`). -/

namespace GatedFlow

namespace Mutation

variable {m : Mutation} {snapshots : Record State} {thread : String} {schema? : Option Schema}

/-- What is written of a thread leads from its stored state to the one it has then. -/
def LeadsOn (m : Mutation) (snapshots : Record State) (thread : String) : Prop :=
  ∀ st, snapshots.get? thread = some st →
    ∃ st', (m.applied snapshots).get? thread = some st' ∧ Change.Leads st m.changes st'

theorem stored_eq_ok_iff {st : State} : stored snapshots thread = .ok st ↔ snapshots.get? thread = some st := by
  unfold stored
  cases snapshots.get? thread with
  | none => exact iff_of_false (fun h => by cases h) fun h => by cases h
  | some st' => exact ⟨fun h => by cases h; rfl, fun h => by cases h; rfl⟩

theorem leadsOn_of_changes {st st' : State} {changes : List Change} (hst : stored snapshots thread = .ok st)
    (h : Change.Leads st changes st') : LeadsOn ⟨changes, some (thread, st')⟩ snapshots thread := by
  intro st₀ hst₀
  obtain rfl : st₀ = st := Option.some.inj (hst₀.symm.trans (stored_eq_ok_iff.1 hst))
  exact ⟨st', (Record.get?_insert ..).trans (if_pos rfl), h⟩

theorem leadsOn_of_ofBatch {ops : List Operation} {st : State} (h : ofBatch schema? snapshots thread ops = .ok (m, st)) :
    m.LeadsOn snapshots thread := by
  rw [ofBatch_eq] at h
  obtain ⟨st₀, hst₀, h⟩ := bind_eq_ok_iff.1 h
  obtain ⟨⟨st', changes⟩, happly, h⟩ := map_eq_ok_iff.1 h
  cases h
  exact leadsOn_of_changes hst₀ (Operation.leads_of_applyAll happly)

theorem leadsOn_of_ofStatus {status : String} {b : Bool} (h : ofStatus schema? snapshots thread status = .ok (m, b)) :
    m.LeadsOn snapshots thread := by
  rw [ofStatus_eq] at h
  obtain ⟨st₀, hst₀, h⟩ := bind_eq_ok_iff.1 h
  split at h
  · obtain ⟨⟨st', change⟩, happly, h⟩ := map_eq_ok_iff.1 h
    cases h
    exact leadsOn_of_changes hst₀ (Operation.leads_of_applyUpdate happly)
  · cases h
    exact fun st hst => ⟨st, hst, .nil st⟩

theorem leadsOn_of_ofCheckpoint {name : String} {u : Unit} (h : ofCheckpoint snapshots thread name = .ok (m, u)) :
    m.LeadsOn snapshots thread := by
  obtain ⟨st₀, -, h⟩ := bind_eq_ok_iff.1 h
  cases h
  intro st hst
  exact ⟨st, (Record.get?_insert ..).trans ((if_neg (checkpointKey_ne thread name)).trans hst), .nil st⟩

end Mutation

/-- A thread has gone from one stored state to another by changes that its ledger has grown by. -/
def Store.Steps (s s' : Store) (thread : String) : Prop :=
  ∀ st, s.snapshots.get? thread = some st → ∃ st' changes, s'.snapshots.get? thread = some st' ∧
    s'.ledger thread = s.ledger thread ++ changes ∧ Change.Leads st changes st'

/-- Where no call to the store fails, a plan is carried out as a whole or refused. -/
theorem Edit.Carries.steps {α : Type} {e : Edit α} {s : Store} {thread : String} {plan : Except StoreError (Mutation × α)}
    (h : e.Carries s thread plan) (hs : s.Reliable) (hleads : ∀ m a, plan = .ok (m, a) → m.LeadsOn s.snapshots thread) :
    s.Steps (e.run s).2 thread := by
  intro st hst
  unfold Carries at h
  rcases hrun : e.run s with ⟨p | a, s'⟩ <;> rw [hrun] at h
  · obtain ⟨hsnapshots, recorded, hlogged, hwhy⟩ := h
    cases hwhy with
    | refused _ _ => exact ⟨st, [], (congrArg (·.get? thread) hsnapshots).trans hst, hlogged.self, .nil st⟩
    | outage _ hnot _ => exact absurd hs hnot
  · obtain ⟨m, hplan, hsnapshots, hlogged⟩ := h
    obtain ⟨st', hst', hstep⟩ := hleads m a hplan st hst
    exact ⟨st', m.changes, (congrArg (·.get? thread) hsnapshots).trans hst', hlogged.self, hstep⟩

namespace EditCommand

/-- Whether a command is an edit of a thread that leaves a record of each field it changes. -/
def IsRecorded (thread : String) : EditCommand → Prop
  | setStatus t _ => t = thread
  | modify t _ => t = thread
  | append t _ _ => t = thread
  | deleteField t _ => t = thread
  | batch t _ => t = thread
  | createCheckpoint t _ => t = thread
  | _ => False

/-- The store after commands one after the other, whatever each of them ends with. -/
def runAll (rules : EditRules) (commands : List EditCommand) (s : Store) : Store :=
  commands.foldl (fun s command => ((command.edit rules).run s).2) s

variable {rules : EditRules} {s : Store} {thread : String} {seed : State} {command : EditCommand}
  {commands : List EditCommand}

theorem steps_of_isRecorded (hs : s.Reliable) (hcommand : command.IsRecorded thread) :
    s.Steps ((command.edit rules).run s).2 thread := by
  have hbatch : ∀ ops, s.Steps ((Edit.batch rules.schema thread ops).run s).2 thread := fun ops =>
    (Edit.carries_batch ops).steps hs fun _ _ => Mutation.leadsOn_of_ofBatch
  cases command with
  | setStatus t status =>
    cases hcommand
    rw [edit, Edit.run_map]
    exact (Edit.carries_setStatus status).steps hs fun _ _ => Mutation.leadsOn_of_ofStatus
  | modify t updates => cases hcommand; rw [edit_modify, edit, Edit.run_map]; exact hbatch _
  | append t field value => cases hcommand; rw [edit_append, edit, Edit.run_map]; exact hbatch _
  | deleteField t field => cases hcommand; rw [edit_deleteField, edit, Edit.run_map]; exact hbatch _
  | batch t ops => cases hcommand; rw [edit, Edit.run_map]; exact hbatch ops
  | createCheckpoint t name =>
    cases hcommand
    rw [edit, bind_pure_comp, Edit.run_map]
    exact (Edit.carries_createCheckpoint name).steps hs fun _ _ => Mutation.leadsOn_of_ofCheckpoint
  | _ => exact hcommand.elim

/-- What is recorded of a thread goes on leading from its first state to the stored one. -/
theorem leads_runAll (hs : s.Reliable) (hcommands : ∀ command ∈ commands, command.IsRecorded thread) {st : State}
    (hst : s.snapshots.get? thread = some st) (hleads : Change.Leads seed (s.ledger thread) st) :
    ∃ st', (runAll rules commands s).snapshots.get? thread = some st' ∧
      Change.Leads seed ((runAll rules commands s).ledger thread) st' := by
  induction commands generalizing s st with
  | nil => exact ⟨st, hst, hleads⟩
  | cons command commands ih =>
    have hsteps : s.Steps ((command.edit rules).run s).2 thread :=
      steps_of_isRecorded hs (hcommands command List.mem_cons_self)
    obtain ⟨st', changes, hst', hledger, hstep⟩ := hsteps st hst
    refine ih (Edit.run_reliable _ hs) (fun c hc => hcommands c (List.mem_cons_of_mem _ hc)) hst' ?_
    rw [hledger]
    exact hleads.append hstep

theorem stored_saveState (hs : s.Reliable) (hseed : Schema.allows rules.schema (·.validate seed) = .ok ()) :
    let s' := (((saveState thread seed).edit rules).run s).2
    s'.snapshots.get? thread = some seed ∧ s'.ledger thread = s.ledger thread := by
  have hcarried : Carried s thread _ ((Edit.saveState rules.schema thread seed).run s) := Edit.carries_saveState seed
  have hplan : Mutation.ofSave rules.schema thread seed = .ok (⟨[], some (thread, seed)⟩, ()) := by
    rw [Mutation.ofSave, hseed]
    rfl
  rw [edit, bind_pure_comp, Edit.run_map]
  rw [hplan] at hcarried
  rcases hrun : (Edit.saveState rules.schema thread seed).run s with ⟨p | u, s'⟩ <;> rw [hrun] at hcarried
  · obtain ⟨-, recorded, -, hwhy⟩ := hcarried
    cases hwhy with
    | refused h _ => cases h
    | outage _ hnot _ => exact absurd hs hnot
  · obtain ⟨m, ⟨⟩, hsnapshots, hlogged⟩ := hcarried
    refine ⟨?_, by rw [hlogged.self, List.append_nil]⟩
    show s'.snapshots.get? thread = some seed
    rw [hsnapshots]
    exact (Record.get?_insert ..).trans (if_pos rfl)

/-- After a thread without records has been given a state and edited by any recorded commands, refused ones among them,
redoing its ledger on the first state gives the stored state, and undoing it there gives the first state. -/
theorem ledger_leads_from_seed (hs : s.Reliable) (hledger : s.ledger thread = [])
    (hseed : Schema.allows rules.schema (·.validate seed) = .ok ())
    (hcommands : ∀ command ∈ commands, command.IsRecorded thread) :
    let s' := runAll rules (.saveState thread seed :: commands) s
    ∃ st, s'.snapshots.get? thread = some st ∧
      Change.redoAll (s'.ledger thread) seed = st ∧ Change.undoAll (s'.ledger thread) st = seed := by
  obtain ⟨hst, hkept⟩ : _ ∧ (((saveState thread seed).edit rules).run s).2.ledger thread = s.ledger thread :=
    stored_saveState hs hseed
  have hleads : Change.Leads seed ((((saveState thread seed).edit rules).run s).2.ledger thread) seed := by
    rw [hkept, hledger]
    exact .nil seed
  obtain ⟨st, hst, hleads⟩ := leads_runAll (Edit.run_reliable _ hs) hcommands hst hleads
  exact ⟨st, hst, hleads.redo, hleads.undo⟩

/-- Edits of a thread with a field that is written twice at once, one that is null at first, and a deletion that is
refused because its field has gone. -/
def mixedEdits : List EditCommand :=
  [.batch "t" [.update "n" (.bool true), .update "n" .null, .append "items" .null],
    .deleteField "t" "gone", .deleteField "t" "gone", .setStatus "t" "paused", .createCheckpoint "t" "c"]

def mixedSeed : State := (State.empty.set "gone" .null).set "status" (.string "running")

theorem ledger_leads_from_seed_mixedEdits :
    let s' := runAll ⟨none, .lenient⟩ (.saveState "t" mixedSeed :: mixedEdits) .empty
    (s'.ledger "t").map (·.field) = ["n", "n", "items", "gone", "status"] ∧
      ∃ st, s'.snapshots.get? "t" = some st ∧
        Change.redoAll (s'.ledger "t") mixedSeed = st ∧ Change.undoAll (s'.ledger "t") st = mixedSeed := by
  refine ⟨by decide +kernel, ledger_leads_from_seed Store.reliable_empty rfl rfl fun command hcommand => ?_⟩
  simp only [mixedEdits, List.mem_cons, List.not_mem_nil, or_false] at hcommand
  rcases hcommand with rfl | rfl | rfl | rfl | rfl <;> rfl

end EditCommand
end GatedFlow
