import GatedFlow.Proofs.Edits.Keys
import GatedFlow.Proofs.Edits.Mutation
import GatedFlow.Session.Command

/-! # Checkpoints of threads

A key names a checkpoint by its thread and its name as long as the thread's id does not end in an open mark; such an id
shares its checkpoint keys with the id before that mark, to which they are counted. What is listed for a well-formed id are
the names under which it has a checkpoint, in any store, and in a store that was written on behalf of well-formed ids
every key is listed exactly once (`checkpoints_identified`). -/

namespace GatedFlow

variable {thread name : String} {s : Store} {rules : EditRules}

/-- The store from now on without calls that fail. -/
def Store.repaired (s : Store) : Store := { s with faults := .none }

theorem Store.reliable_repaired (s : Store) : s.repaired.Reliable := by
  intro kind n
  cases kind <;> rfl

namespace Edit

theorem checkpointName?_eq_some_iff {key : String} : ((parseCheckpointKey? key).bind fun (owner, name) =>
    if owner = thread then some name else none) = some name ↔ parseCheckpointKey? key = some (thread, name) := by
  rw [Option.bind_eq_some_iff]
  constructor
  · rintro ⟨⟨owner, name'⟩, hparse, h⟩
    dsimp only at h
    split at h
    · rename_i howner
      cases h
      exact howner ▸ hparse
    · cases h
  · exact fun hparse => ⟨(thread, name), hparse, if_pos rfl⟩

/-- Listed are the checkpoints of a well-formed id, and none of any other. -/
theorem mem_checkpointNames_iff {keys : List String} :
    name ∈ checkpointNames thread keys ↔ WellFormedId thread ∧ checkpointKey thread name ∈ keys := by
  unfold checkpointNames
  rw [List.filterMap_filterMap, List.mem_filterMap]
  simp only [checkpointName?_eq_some_iff]
  constructor
  · rintro ⟨key, hkey, hparse⟩
    obtain ⟨rfl, -⟩ := parseCheckpointKey?_eq_some_iff.1 hparse
    exact ⟨(WellFormedId.parse_checkpointKey_iff thread name).1 hparse, hkey⟩
  · rintro ⟨hthread, hkey⟩
    exact ⟨_, hkey, (WellFormedId.parse_checkpointKey_iff thread name).2 hthread⟩

theorem checkpointNames_sorted {keys : List String} (h : keys.Pairwise (· < ·)) :
    (checkpointNames thread keys).Pairwise (· < ·) := by
  unfold checkpointNames
  rw [List.filterMap_filterMap]
  refine List.pairwise_filterMap.2 (h.imp fun {key key'} hlt name hname name' hname' => ?_)
  obtain ⟨rfl, -⟩ := parseCheckpointKey?_eq_some_iff.1 (checkpointName?_eq_some_iff.1 hname)
  obtain ⟨rfl, -⟩ := parseCheckpointKey?_eq_some_iff.1 (checkpointName?_eq_some_iff.1 hname')
  exact lt_of_checkpointKey_lt hlt

/-- What is listed for a thread: the names of its stored checkpoints in order, if its id is well formed, and nothing
otherwise. -/
theorem run_listCheckpoints (hs : s.Reliable) (thread : String) : ∃ names, ((listCheckpoints thread).run s).1 = .ok names ∧
    names.Pairwise (· < ·) ∧ ∀ name, name ∈ names ↔ WellFormedId thread ∧ checkpointKey thread name ∈ s.snapshots.keys := by
  let keys := s.snapshots.keys.filter fun key => (checkpointStart thread).toList.isPrefixOf key.toList
  refine ⟨checkpointNames thread keys, ?_, checkpointNames_sorted (s.snapshots.keys_sorted.filter _), fun name => ?_⟩
  · rw [listCheckpoints, run_bind, run_ofCall, hs.answer_eq]
    rfl
  · rw [mem_checkpointNames_iff, List.mem_filter, List.isPrefixOf_iff_prefix]
    have hstart : (checkpointStart thread).toList <+: (checkpointKey thread name).toList := by
      rw [← checkpointStart_append, String.toList_append]
      exact List.prefix_append _ _
    rw [and_iff_left hstart]

theorem restoreCheckpoint_ok_iff (hs : s.Reliable) :
    (∃ st, ((restoreCheckpoint thread name).run s).1 = .ok st) ↔ checkpointKey thread name ∈ s.snapshots.keys := by
  have hcarries : Carried s thread _ ((restoreCheckpoint thread name).run s) := carries_restoreCheckpoint name
  rw [Record.mem_keys_iff]
  rcases hrun : (restoreCheckpoint thread name).run s with ⟨p | st, s'⟩
  · rw [hrun] at hcarries
    obtain ⟨-, _, -, hwhy⟩ := hcarries
    refine iff_of_false (fun ⟨_, h⟩ => by cases h) ?_
    rintro ⟨st, hst⟩
    cases hwhy with
    | refused h _ => rw [Mutation.ofRestore, hst] at h; cases h
    | outage _ hnot _ => exact hnot hs
  · rw [hrun] at hcarries
    obtain ⟨m, hplan, -⟩ := hcarries
    refine iff_of_true ⟨st, rfl⟩ ?_
    unfold Mutation.ofRestore at hplan
    split at hplan
    · rename_i hst
      exact ⟨_, hst⟩
    · cases hplan

end Edit

/-- A store that came about by edits on behalf of threads whose ids are of a kind, one after the other or several at once
and whatever calls failed. -/
inductive Store.Reached (rules : EditRules) (P : String → Prop) : Store → Prop
  | empty (faults : Faults) : Reached rules P ⟨.empty, .empty, faults⟩
  | edit {s : Store} {command : EditCommand} (h : Reached rules P s) (hcommand : ∀ t, command.thread? = some t → P t) :
    Reached rules P ((command.edit rules).run s).2
  | together {s : Store} {commands : List EditCommand} (h : Reached rules P s)
    (hcommands : ∀ command ∈ commands, ∀ t, command.thread? = some t → P t) :
    Reached rules P (Edit.runTogether (commands.map (·.edit rules)) s).2
  | plan {s : Store} (h : Reached rules P s) (faults : Faults) : Reached rules P { s with faults }

/-- What holds of the empty store, whatever calls are to fail, and is kept under a contract, holds of such a store if the
edits keep to the contract. -/
theorem Store.Reached.keeps {P : String → Prop} {C : Contract EditCall} {I : Store → Prop} (h : s.Reached rules P)
    (hC : C.Served I) (hempty : ∀ faults, I ⟨.empty, .empty, faults⟩) (hplan : ∀ s faults, I s → I { s with faults })
    (hedits : ∀ command : EditCommand, (∀ t, command.thread? = some t → P t) →
      (command.edit rules).Keeps C fun _ => True) : I s := by
  induction h with
  | empty faults => exact hempty faults
  | @edit s command h hcommand ih => exact (hedits command hcommand).run hC ih
  | @together s commands h hcommands ih =>
    refine Edit.Keeps.runTogether (Q := fun _ => True) (fun e he => ?_) hC ih
    obtain ⟨command, hmem, rfl⟩ := List.mem_map.1 he
    exact hedits command (hcommands command hmem)
  | @plan s h faults ih => exact hplan s faults ih

/-- Every key of such a store belongs to one of the threads. -/
theorem Store.Reached.owned {P : String → Prop} (h : s.Reached rules P) :
    ∀ key st, s.snapshots.get? key = some st → ∃ t, P t ∧ Owns t key := by
  refine h.keeps (Contract.within_served fun key => ∃ t, P t ∧ Owns t key) (fun _ _ _ hget => by cases hget)
    (fun _ _ ih => ih) fun command hcommand => ?_
  exact command.touches rules fun t ht key hkey => ⟨t, hcommand t ht, hkey⟩

/-- A name is listed for a thread when no call fails. -/
def Store.Lists (s : Store) (thread name : String) : Prop :=
  ∃ names, ((Edit.listCheckpoints thread).run s.repaired).1 = .ok names ∧ name ∈ names

theorem Store.lists_iff : s.Lists thread name ↔ WellFormedId thread ∧ checkpointKey thread name ∈ s.snapshots.keys := by
  obtain ⟨names, hrun, -, hmem⟩ := Edit.run_listCheckpoints s.reliable_repaired thread
  unfold Store.Lists
  rw [hrun]
  constructor
  · rintro ⟨_, ⟨⟩, h⟩
    exact (hmem name).1 h
  · exact fun h => ⟨names, rfl, (hmem name).2 h⟩

theorem StoreCommand.run_listThreads (hs : s.Reliable) : ∃ threads, (listThreads.run s).1 = .names threads ∧
    threads.Pairwise (· < ·) ∧ ∀ key, key ∈ threads ↔ key ∈ s.snapshots.keys ∧ isCheckpointKey key = false := by
  have hall : (s.snapshots.keys.filter fun key => "".toList.isPrefixOf key.toList) = s.snapshots.keys :=
    List.filter_eq_self.2 fun _ _ => rfl
  refine ⟨Store.threadsOf s.snapshots.keys, ?_, s.snapshots.keys_sorted.filter _, fun key => ?_⟩
  · show Reply.ofExcept _ (s.answer (.listKeys "")).1 = _
    rw [hs.answer_eq, ← hall]
    rfl
  · rw [Store.threadsOf, List.mem_filter, Bool.not_eq_true']

/-- A key is listed as one checkpoint of one thread: under its key, and for no other thread or name. -/
def Store.ListedAs (s : Store) (key thread name : String) : Prop :=
  s.Lists thread name ∧ checkpointKey thread name = key ∧
    ∀ thread' name', s.Lists thread' name' → checkpointKey thread' name' = key → thread' = thread ∧ name' = name

/-- What the keys of a store say of a thread, where an id that ends in an open mark is taken for a part of a checkpoint
key. -/
structure Store.Identifies (s : Store) (thread : String) : Prop where
  /-- A checkpoint key names the thread and the checkpoint unless the id ends in an open mark. -/
  parsed : ∀ name, parseCheckpointKey? (checkpointKey thread name) = some (thread, name) ↔
    ∀ stem, thread ≠ stem ++ ":checkpoint"
  /-- Two threads share a key only where one of the ids is the other with an open mark. -/
  shared : ∀ name thread' name', isCheckpointKey thread' = false →
    (checkpointKey thread name = checkpointKey thread' name' ↔
      thread = thread' ∧ name = name' ∨ thread = thread' ++ ":checkpoint" ∧ name' = "checkpoint:" ++ name ∨
        thread' = thread ++ ":checkpoint" ∧ name = "checkpoint:" ++ name')
  /-- Listed in order are the names that can be restored, but none if the id ends in an open mark. -/
  listed : ∃ names, ((Edit.listCheckpoints thread).run s.repaired).1 = .ok names ∧ names.Pairwise (· < ·) ∧
    ∀ name, name ∈ names ↔ (∀ stem, thread ≠ stem ++ ":checkpoint") ∧
      ∃ st, ((Edit.restoreCheckpoint thread name).run s.repaired).1 = .ok st
  /-- Every key is listed as a thread or as one checkpoint of one thread. It was written for a thread, and the two are
  the same unless the id of that one ends in an open mark. -/
  once : ∃ threads, (StoreCommand.listThreads.run s.repaired).1 = .names threads ∧ threads.Pairwise (· < ·) ∧
    ∀ key ∈ s.snapshots.keys,
      key ∈ threads ∧ (∀ t name, s.Lists t name → checkpointKey t name ≠ key) ∨
      key ∉ threads ∧ ∃ t name, s.ListedAs key t name ∧
        (∃ owner name', isCheckpointKey owner = false ∧ checkpointKey owner name' = key) ∧
        ∀ owner name', isCheckpointKey owner = false → checkpointKey owner name' = key →
          (owner = t ↔ ∀ stem, owner ≠ stem ++ ":checkpoint")

/-- The stored keys tell the threads and checkpoints of a store that was written on behalf of threads whose ids are no
checkpoint keys, with the exception of ids that end in an open mark. -/
theorem checkpoints_identified (hs : s.Reached rules fun t => isCheckpointKey t = false)
    (hthread : isCheckpointKey thread = false) : s.Identifies thread := by
  have hwf : ∀ t, isCheckpointKey t = false → (WellFormedId t ↔ ∀ stem, t ≠ stem ++ ":checkpoint") := fun t ht => by
    rw [WellFormedId.iff_endings, and_iff_right ht]
    rfl
  refine ⟨fun name => ?_, fun _ _ _ hthread' => checkpointKey_eq_iff hthread hthread', ?_, ?_⟩
  · rw [WellFormedId.parse_checkpointKey_iff, hwf thread hthread]
  · obtain ⟨names, hrun, hsorted, hmem⟩ := Edit.run_listCheckpoints s.reliable_repaired thread
    refine ⟨names, hrun, hsorted, fun name => ?_⟩
    rw [hmem, hwf thread hthread, Edit.restoreCheckpoint_ok_iff s.reliable_repaired]
  obtain ⟨threads, hrun, hsorted, hmem⟩ := StoreCommand.run_listThreads s.reliable_repaired
  refine ⟨threads, hrun, hsorted, fun key hkey => ?_⟩
  obtain ⟨st, hst⟩ := Record.mem_keys_iff.1 hkey
  obtain ⟨owner, howner, rfl | ⟨ownName, rfl⟩⟩ := hs.owned key st hst
  · refine .inl ⟨(hmem key).2 ⟨hkey, howner⟩, fun t name _ heq => ?_⟩
    rw [← heq, isCheckpointKey_checkpointKey] at howner
    cases howner
  · have hcheckpoint := isCheckpointKey_checkpointKey owner ownName
    refine .inr ⟨fun h => ?_, ?_⟩
    · rw [((hmem _).1 h).2] at hcheckpoint
      cases hcheckpoint
    -- the key is read with one well-formed id, and that is listed with it
    obtain ⟨⟨t, name⟩, hparse⟩ := Option.isSome_iff_exists.1 hcheckpoint
    obtain ⟨ht, heq⟩ := WellFormedId.parse_eq_some_iff.1 hparse
    have hunique : ∀ t' name', WellFormedId t' → checkpointKey t' name' = checkpointKey owner ownName →
        t' = t ∧ name' = name := fun t' name' ht' heq' => by
      have hparse' := WellFormedId.parse_eq_some_iff.2 ⟨ht', heq'⟩
      rw [hparse] at hparse'
      cases hparse'
      exact ⟨rfl, rfl⟩
    refine ⟨t, name, ⟨Store.lists_iff.2 ⟨ht, heq ▸ hkey⟩, heq, ?_⟩, ⟨owner, ownName, howner, rfl⟩, ?_⟩
    · exact fun t' name' hlists => hunique t' name' (Store.lists_iff.1 hlists).1
    · intro owner' name' howner' heq'
      rw [← hwf owner' howner']
      exact ⟨fun h => h ▸ ht, fun h => (hunique owner' name' h heq').1⟩

/-- A thread with a checkpoint whose name holds a mark. -/
def checkpointedStore : Store :=
  (((EditCommand.createCheckpoint "t" "a:checkpoint:b").edit ⟨none, .lenient⟩).run
    (((EditCommand.saveState "t" .empty).edit ⟨none, .lenient⟩).run .empty).2).2

theorem checkpoints_identified_checkpointedStore :
    checkpointedStore.Reached ⟨none, .lenient⟩ (fun t => isCheckpointKey t = false) ∧ isCheckpointKey "t" = false ∧
      checkpointedStore.snapshots.keys = ["t", "t:checkpoint:a:checkpoint:b"] ∧ checkpointedStore.Identifies "t" := by
  have ht : isCheckpointKey "t" = false := by decide
  have hs : checkpointedStore.Reached ⟨none, .lenient⟩ fun t => isCheckpointKey t = false :=
    .edit (.edit (.empty .none) fun _ h => by cases h; exact ht) fun _ h => by cases h; exact ht
  exact ⟨hs, ht, by decide +kernel, checkpoints_identified hs ht⟩

/-- The checkpoint `n` of the thread `a:checkpoint` is taken for one of the thread `a`. -/
theorem not_identified_openMark : ¬∀ thread name, isCheckpointKey thread = false →
    parseCheckpointKey? (checkpointKey thread name) = some (thread, name) := by
  intro h
  have hparse := h "a:checkpoint" "n" (by decide)
  revert hparse
  decide

end GatedFlow
