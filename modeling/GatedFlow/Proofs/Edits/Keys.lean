import GatedFlow.Edits.Command
import GatedFlow.Proofs.Edits.Contract
import GatedFlow.Proofs.Store.Keys
import Mathlib.Data.List.Sort

/-! # The keys that edits touch

Under `Contract.touching` only keys of a set are asked for, and only beginnings are listed under which no other keys lie.
Every edit by name touches keys that its thread owns (`EditCommand.touches`), whatever the store answers: a thread is
deleted with the checkpoints that are listed for it, each under the thread's own key of that name. What is stored under
other keys stays (`Contract.frame_served`) and makes no difference to what the edit answers (`Edit.Touches.run_congr`). -/

namespace GatedFlow

namespace Record

variable {α : Type} {r : Record α} {key : String}

theorem mem_keys_iff : key ∈ r.keys ↔ ∃ a, r.get? key = some a := by
  suffices ∀ l : List (String × α), key ∈ l.map Prod.fst ↔ ∃ a, findEntry key l = some a from this r.entries
  intro l
  induction l with
  | nil => simp [findEntry]
  | cons e l ih =>
    rw [List.map_cons, List.mem_cons, findEntry, ih]
    split
    · rename_i heq
      simp [heq]
    · rename_i hne
      rw [or_iff_right (Ne.symm hne)]

theorem keys_sorted (r : Record α) : r.keys.Pairwise (· < ·) := List.pairwise_map.2 r.sorted

end Record

/-- Nothing is read or written but under keys of a set. -/
def Contract.touching (K : String → Prop) : Contract EditCall where
  Asks
    | .store (.save key _) => K key
    | .store (.load key) => K key
    | .store (.delete key) => K key
    | .store (.listKeys start) => ∀ key : String, start.toList <+: key.toList → K key
    | .store (.appendHistory key _) => K key
    | .store (.history key) => K key
    | _ => True
  Gives _ _ := True

/-- Under the keys of a set lies the same. -/
def Store.SameAt (K : String → Prop) (s s' : Store) : Prop :=
  ∀ key, K key → s'.snapshots.get? key = s.snapshots.get? key ∧ s'.ledgers.get? key = s.ledgers.get? key

/-- Stores that lie alike under the keys of a set, and in which the same calls fail. -/
structure Store.Alike (K : String → Prop) (s s' : Store) : Prop where
  same : s.SameAt K s'
  faults : s'.faults = s.faults

namespace Store

variable {K : String → Prop} {s s' s'' : Store} {α : Type}

theorem SameAt.refl (s : Store) : s.SameAt K s := fun _ _ => ⟨rfl, rfl⟩

theorem SameAt.trans (h : s.SameAt K s') (h' : s'.SameAt K s'') : s.SameAt K s'' :=
  fun key hkey => ⟨(h' key hkey).1.trans (h key hkey).1, (h' key hkey).2.trans (h key hkey).2⟩

/-- The stored keys of a kind that lies in the set are the same ones. -/
theorem SameAt.keys_filter (h : s.SameAt K s') {p : String → Bool} (hp : ∀ key, p key = true → K key) :
    s'.snapshots.keys.filter p = s.snapshots.keys.filter p := by
  refine (s'.snapshots.keys_sorted.filter p).eq_of_mem_iff (s.snapshots.keys_sorted.filter p) fun key => ?_
  simp only [List.mem_filter, Record.mem_keys_iff]
  refine and_congr_left fun hkey => ?_
  rw [(h key (hp key hkey)).1]

theorem Alike.counted (h : s.Alike K s') (kind : CallKind) : (s.counted kind).Alike K (s'.counted kind) where
  same := h.same
  faults := by
    show s'.faults.set kind _ = s.faults.set kind _
    rw [h.faults]

theorem Alike.serve (h : s.Alike K s') {call : StoreCall α} (hcall : (Contract.touching K).Asks (.store call)) :
    (s'.serve call).1 = (s.serve call).1 ∧ (s.serve call).2.Alike K (s'.serve call).2 := by
  have hledger : ∀ key, K key → s'.ledger key = s.ledger key := fun key hkey => by
    rw [Store.ledger, Store.ledger, (h.same key hkey).2]
  cases call with
  | save key st =>
    refine ⟨rfl, fun key' hkey' => ⟨?_, (h.same key' hkey').2⟩, h.faults⟩
    show (s'.snapshots.insert key st).get? key' = (s.snapshots.insert key st).get? key'
    rw [Record.get?_insert, Record.get?_insert, (h.same key' hkey').1]
  | load key =>
    unfold Store.serve
    dsimp only
    rw [(h.same key hcall).1]
    split <;> exact ⟨rfl, h⟩
  | delete key =>
    refine ⟨congrArg Except.ok ?_, fun key' hkey' => ⟨?_, ?_⟩, h.faults⟩
    · rw [Record.contains, Record.contains, (h.same key hcall).1]
    · show (s'.snapshots.erase key).get? key' = (s.snapshots.erase key).get? key'
      rw [Record.get?_erase, Record.get?_erase, (h.same key' hkey').1]
    · show (s'.ledgers.erase key).get? key' = (s.ledgers.erase key).get? key'
      rw [Record.get?_erase, Record.get?_erase, (h.same key' hkey').2]
  | listKeys start =>
    refine ⟨congrArg Except.ok (h.same.keys_filter fun key hkey => ?_), h⟩
    exact hcall key (List.isPrefixOf_iff_prefix.1 hkey)
  | appendHistory key change =>
    refine ⟨rfl, fun key' hkey' => ⟨(h.same key' hkey').1, ?_⟩, h.faults⟩
    show (s'.ledgers.insert key (s'.ledger key ++ [change])).get? key' =
      (s.ledgers.insert key (s.ledger key ++ [change])).get? key'
    rw [Record.get?_insert, Record.get?_insert, hledger key hcall, (h.same key' hkey').2]
  | history key => exact ⟨congrArg Except.ok (hledger key hcall), h⟩

theorem Alike.answer (h : s.Alike K s') {call : StoreCall α} (hcall : (Contract.touching K).Asks (.store call)) :
    (s'.answer call).1 = (s.answer call).1 ∧ (s.answer call).2.Alike K (s'.answer call).2 := by
  have hserved : (s'.countCall call.kind).1 = (s.countCall call.kind).1 := by rw [countCall, countCall, h.faults]
  show (if (s'.countCall call.kind).1 then _ else _ : _ × _).1 = (if (s.countCall call.kind).1 then _ else _ : _ × _).1 ∧
    Alike K (if (s.countCall call.kind).1 then _ else _ : _ × _).2 (if (s'.countCall call.kind).1 then _ else _ : _ × _).2
  rw [hserved]
  split
  · exact (h.counted call.kind).serve hcall
  · exact ⟨rfl, h.counted call.kind⟩

end Store

namespace Contract

variable {K J : String → Prop}

/-- What lies under keys outside of the set stays there. -/
theorem frame_served (hdisjoint : ∀ key, K key → ¬J key) (s₀ : Store) :
    (touching K).Served fun s => s₀.SameAt J s := by
  have hne : ∀ {key key'}, J key → K key' → key' ≠ key := fun hkey hkey' heq => hdisjoint _ hkey' (heq ▸ hkey)
  refine served_of_serve (fun _ _ => trivial) (fun _ _ h => h) fun call s hasks h => h.trans fun key hkey => ?_
  cases call with
  | save key' st => exact ⟨(Record.get?_insert ..).trans (if_neg (hne hkey hasks)), rfl⟩
  | load key' =>
    rw [Store.serve_load]
    exact ⟨rfl, rfl⟩
  | delete key' =>
    exact ⟨(Record.get?_erase ..).trans (if_neg (hne hkey hasks)), (Record.get?_erase ..).trans (if_neg (hne hkey hasks))⟩
  | listKeys start => exact ⟨rfl, rfl⟩
  | appendHistory key' change => exact ⟨rfl, (Record.get?_insert ..).trans (if_neg (hne hkey hasks))⟩
  | history key' => exact ⟨rfl, rfl⟩

/-- Where states are stored under keys of the set only, it stays so. -/
theorem within_served (K : String → Prop) :
    (touching K).Served fun s => ∀ key st, s.snapshots.get? key = some st → K key := by
  refine served_of_serve (fun _ _ => trivial) (fun _ _ h => h) fun call s hasks h => ?_
  cases call with
  | save key' st' =>
    intro key st hget
    rw [show (s.serve (.save key' st')).2.snapshots = s.snapshots.insert key' st' from rfl, Record.get?_insert] at hget
    split at hget
    · rename_i heq
      exact heq ▸ hasks
    · exact h key st hget
  | load key' => rwa [Store.serve_load]
  | delete key' =>
    intro key st hget
    rw [show (s.serve (.delete key')).2.snapshots = s.snapshots.erase key' from rfl, Record.get?_erase] at hget
    split at hget
    · cases hget
    · exact h key st hget
  | _ => exact h

end Contract

namespace Edit

variable {thread : String} {schema? : Option Schema} {α β : Type} {K : String → Prop}

/-- An edit that touches only keys of a set. -/
def Touches (K : String → Prop) (e : Edit α) : Prop := e.Keeps (.touching K) fun _ => True

namespace Touches

variable {e : Edit α} {s s' : Store}

theorem bind {f : α → Edit β} (h : e.Touches K) (hf : ∀ a, (f a).Touches K) : (e >>= f).Touches K :=
  Keeps.bind h fun a _ => hf a

theorem map (h : e.Touches K) (f : α → β) : (f <$> e).Touches K := Keeps.map h f fun _ _ => trivial

theorem pure (a : α) : (pure a : Edit α).Touches K := Keeps.pure trivial

theorem ofExcept (r : Except StoreError α) : (ofExcept r).Touches K := Keeps.ofExcept fun _ _ => trivial

theorem ofCall {call : StoreCall α} (h : (Contract.touching K).Asks (.store call)) : (ofCall call).Touches K :=
  Keeps.ofCall h fun _ _ => trivial

theorem underLock (h : e.Touches K) (thread : String) : (underLock thread e).Touches K :=
  Keeps.underLock h trivial trivial

theorem mono {K' : String → Prop} (h : e.Touches K) (hK : ∀ key, K key → K' key) : e.Touches K' := by
  refine Program.Keeps.allow h (fun call hcall => ?_) fun _ _ _ => trivial
  cases call with
  | store call =>
    cases call with
    | listKeys start => exact fun key hkey => hK key (hcall key hkey)
    | _ => exact hK _ hcall
  | _ => trivial

/-- What lies under other keys makes no difference. -/
theorem run_congr (h : e.Touches K) (hs : s.Alike K s') :
    (e.run s').1 = (e.run s).1 ∧ (e.run s).2.Alike K (e.run s').2 := by
  suffices ∀ {γ : Type} {Q : γ → Prop} (p : Program EditCall γ) {s s' : Store}, p.Keeps (.touching K) Q → s.Alike K s' →
      (p.run EditCall.answer s').1 = (p.run EditCall.answer s).1 ∧
        (p.run EditCall.answer s).2.Alike K (p.run EditCall.answer s').2 from this (ExceptT.run e) h hs
  intro γ Q p
  induction p with
  | done a => exact fun _ hs => ⟨rfl, hs⟩
  | ask call next ih =>
    intro s s' h hs
    obtain ⟨heq, hs'⟩ : (call.answer s').1 = (call.answer s).1 ∧ (call.answer s).2.Alike K (call.answer s').2 := by
      cases call with
      | store call => exact hs.answer h.1
      | acquire thread => exact ⟨rfl, hs⟩
      | release thread => exact ⟨rfl, hs⟩
      | activeLocks => exact ⟨rfl, hs⟩
    rw [Program.run_ask, Program.run_ask, heq]
    exact ih _ (h.2 _ trivial) hs'

end Touches

theorem touches_save {key : String} (h : K key) (st : State) : (ofCall (.save key st)).Touches K := .ofCall h

theorem touches_loadState {key : String} (h : K key) : (loadState key).Touches K := .ofCall h

theorem touches_delete {key : String} (h : K key) : (ofCall (.delete key)).Touches K := .ofCall h

theorem touches_appendHistory {key : String} (h : K key) (change : Change) :
    (ofCall (.appendHistory key change)).Touches K := .ofCall h

theorem touches_record (changes : List Change) : (record thread changes).Touches (Owns thread) := by
  induction changes with
  | nil => exact .pure ()
  | cons change changes ih => exact (touches_appendHistory (owns_self thread) change).bind fun _ => ih

theorem touches_commit (changes : List Change) (st : State) : (commit thread changes st).Touches (Owns thread) :=
  (touches_record changes).bind fun _ => touches_save (owns_self thread) st

theorem touches_saveState (st : State) : (saveState schema? thread st).Touches (Owns thread) :=
  (Touches.ofExcept _).bind fun _ => .underLock (touches_save (owns_self thread) st) thread

theorem touches_setStatus (status : String) : (setStatus schema? thread status).Touches (Owns thread) := by
  refine .underLock ((touches_loadState (owns_self thread)).bind fun st => ?_) thread
  split
  · exact (Touches.ofExcept _).bind fun r => (touches_commit _ _).bind fun _ => .pure true
  · exact .pure false

theorem touches_mutate (change : State → Except StoreError (State × List Change)) :
    (mutate thread change).Touches (Owns thread) :=
  .underLock ((touches_loadState (owns_self thread)).bind fun _ => (Touches.ofExcept _).bind fun _ =>
    (touches_commit _ _).bind fun _ => .pure _) thread

theorem touches_createCheckpoint (name : String) : (createCheckpoint thread name).Touches (Owns thread) :=
  .underLock ((touches_loadState (owns_self thread)).bind fun st => touches_save (owns_checkpointKey thread name) st) thread

theorem touches_tryLoad {key : String} (h : K key) : (tryLoad key).Touches K := Keeps.tryLoad h

theorem touches_restoreCheckpoint (name : String) : (restoreCheckpoint thread name).Touches (Owns thread) := by
  refine .underLock ((touches_tryLoad (owns_checkpointKey thread name)).bind fun st? => ?_) thread
  cases st? with
  | none => exact Keeps.throw _
  | some st => exact (touches_commit _ _).bind fun _ => .pure st

theorem touches_listCheckpoints : (listCheckpoints thread).Touches (Owns thread) :=
  Touches.bind (.ofCall fun _ => owns_of_start) fun _ => .pure _

theorem touches_deleteCheckpoint (name : String) : (deleteCheckpoint thread name).Touches (Owns thread) :=
  .ofCall (owns_checkpointKey thread name)

theorem touches_deleteCheckpoints (names : List String) : (deleteCheckpoints thread names).Touches (Owns thread) := by
  induction names with
  | nil => exact .pure ()
  | cons name names ih => exact (touches_deleteCheckpoint name).bind fun _ => ih

theorem touches_deleteThread : (deleteThread thread).Touches (Owns thread) :=
  .underLock (touches_listCheckpoints.bind fun names => (touches_deleteCheckpoints names).bind fun _ =>
    touches_delete (owns_self thread)) thread

theorem touches_history : (history thread).Touches (Owns thread) := .ofCall (owns_self thread)

theorem touches_loadForResume (migrator : Migrator) (version : String) :
    (loadForResume migrator thread version).Touches (Owns thread) :=
  (touches_loadState (owns_self thread)).bind fun _ => .ofExcept _

theorem touches_activeLocks : activeLocks.Touches K := ⟨trivial, fun _ _ _ _ => trivial⟩

end Edit

namespace EditCommand

/-- The thread an edit is for. -/
def thread? : EditCommand → Option String
  | saveState t _ => t
  | loadState t => t
  | setStatus t _ => t
  | modify t _ => t
  | append t _ _ => t
  | deleteField t _ => t
  | batch t _ => t
  | createCheckpoint t _ => t
  | restoreCheckpoint t _ => t
  | listCheckpoints t => t
  | deleteCheckpoint t _ => t
  | deleteThread t => t
  | history t => t
  | loadForResume t _ => t
  | activeLocks => none

/-- An edit touches only what its thread owns. -/
theorem touches (rules : EditRules) (c : EditCommand) {K : String → Prop}
    (hK : ∀ thread, c.thread? = some thread → ∀ key, Owns thread key → K key) : (c.edit rules).Touches K := by
  cases c with
  | saveState thread st => exact ((Edit.touches_saveState st).bind fun _ => .pure _).mono (hK thread rfl)
  | loadState thread => exact (Edit.touches_loadState (hK thread rfl _ (owns_self thread))).map _
  | setStatus thread status => exact ((Edit.touches_setStatus status).map _).mono (hK thread rfl)
  | modify thread updates => exact ((Edit.touches_mutate _).map _).mono (hK thread rfl)
  | append thread field value => exact ((Edit.touches_mutate _).map _).mono (hK thread rfl)
  | deleteField thread field => exact ((Edit.touches_mutate _).map _).mono (hK thread rfl)
  | batch thread ops => exact ((Edit.touches_mutate _).map _).mono (hK thread rfl)
  | createCheckpoint thread name => exact ((Edit.touches_createCheckpoint name).bind fun _ => .pure _).mono (hK thread rfl)
  | restoreCheckpoint thread name => exact ((Edit.touches_restoreCheckpoint name).map _).mono (hK thread rfl)
  | listCheckpoints thread => exact (Edit.touches_listCheckpoints.map _).mono (hK thread rfl)
  | deleteCheckpoint thread name => exact ((Edit.touches_deleteCheckpoint name).map _).mono (hK thread rfl)
  | deleteThread thread => exact (Edit.touches_deleteThread.map _).mono (hK thread rfl)
  | history thread => exact (Edit.touches_history.map _).mono (hK thread rfl)
  | loadForResume thread version => exact ((Edit.touches_loadForResume rules.migrator version).map _).mono (hK thread rfl)
  | activeLocks => exact Edit.touches_activeLocks.map _

end EditCommand
end GatedFlow
