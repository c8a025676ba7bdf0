import GatedFlow.Proofs.Edits.Advance
import GatedFlow.Proofs.Edits.Checkpoints
import GatedFlow.Proofs.Edits.Footprint
import GatedFlow.Proofs.Edits.Ledger

/-! # Threads that are dropped

To drop a thread is to drop its own key and the checkpoint keys that are listed for it (`Edit.deleteThread_drops`). In a
store that was written on behalf of well-formed ids these are all the keys of the thread that hold anything: no checkpoint
key has a ledger (`Store.Reached.recorded`), and the listed checkpoints are the stored ones. So nothing of the thread is left,
and nothing else is gone (`thread_dropped`). -/

namespace GatedFlow

variable {thread : String} {s s' s'' : Store} {K K' : String → Prop} {rules : EditRules}

/-- A later store without what lay under the keys of a set. -/
structure Store.Drops (K : String → Prop) (s s' : Store) : Prop where
  reliable : s'.Reliable
  gone : ∀ key, K key → s'.snapshots.get? key = none ∧ s'.ledgers.get? key = none
  kept : s.SameAt (fun key => ¬K key) s'

namespace Store.Drops

theorem of_idle (h : s.Idle s') (hs : s.Reliable) : s.Drops (fun _ => False) s' where
  reliable := h.reliable hs
  gone _ hkey := hkey.elim
  kept _ _ := ⟨by rw [h.snapshots], by rw [h.ledgers]⟩

/-- Keys that hold nothing may be counted among those that are dropped. -/
theorem extend (h : s.Drops K s') (hK : ∀ key, K key → K' key)
    (hempty : ∀ key, K' key → ¬K key → s.snapshots.get? key = none ∧ s.ledgers.get? key = none) : s.Drops K' s' where
  reliable := h.reliable
  gone key hkey := by
    by_cases hdropped : K key
    · exact h.gone key hdropped
    · obtain ⟨hsnapshots, hledgers⟩ := h.kept key hdropped
      rw [hsnapshots, hledgers]
      exact hempty key hkey hdropped
  kept key hkey := h.kept key fun hdropped => hkey (hK key hdropped)

theorem trans (h : s.Drops K s') (h' : s'.Drops K' s'') : s.Drops (fun key => K key ∨ K' key) s'' where
  reliable := h'.reliable
  gone key hkey := by
    by_cases hlater : K' key
    · exact h'.gone key hlater
    · obtain ⟨hsnapshots, hledgers⟩ := h'.kept key hlater
      rw [hsnapshots, hledgers]
      exact h.gone key (hkey.resolve_right hlater)
  kept key hkey := by
    obtain ⟨hfirst, hlater⟩ := not_or.1 hkey
    exact ⟨(h'.kept key hlater).1.trans (h.kept key hfirst).1, (h'.kept key hlater).2.trans (h.kept key hfirst).2⟩

/-- What is stored is what was stored, without the keys of the set. -/
theorem mem_keys_iff (h : s.Drops K s') {key : String} : key ∈ s'.snapshots.keys ↔ key ∈ s.snapshots.keys ∧ ¬K key := by
  rw [Record.mem_keys_iff, Record.mem_keys_iff]
  by_cases hkey : K key
  · rw [(h.gone key hkey).1]
    simp [hkey]
  · rw [(h.kept key hkey).1]
    simp [hkey]

/-- Nothing changes where the keys hold nothing. -/
theorem eq_of_empty (h : s.Drops K s') (hempty : ∀ key, K key → s.snapshots.get? key = none ∧ s.ledgers.get? key = none) :
    s'.snapshots = s.snapshots ∧ s'.ledgers = s.ledgers := by
  have hsame : ∀ key, s'.snapshots.get? key = s.snapshots.get? key ∧ s'.ledgers.get? key = s.ledgers.get? key := by
    intro key
    by_cases hkey : K key
    · rw [(h.gone key hkey).1, (h.gone key hkey).2, (hempty key hkey).1, (hempty key hkey).2]
      exact ⟨rfl, rfl⟩
    · exact h.kept key hkey
  exact ⟨Record.ext fun key => (hsame key).1, Record.ext fun key => (hsame key).2⟩

end Store.Drops

namespace Edit

theorem run_delete (hs : s.Reliable) (key : String) : ∃ s', (ofCall (.delete key)).run s = (.ok (s.snapshots.contains key), s') ∧
    s.Drops (fun key' => key' = key) s' := by
  refine ⟨_, hs.answer_eq (.delete key), (hs.counted _).serve (.delete key), ?_, ?_⟩
  · rintro _ rfl
    exact ⟨(Record.get?_erase ..).trans (if_pos rfl), (Record.get?_erase ..).trans (if_pos rfl)⟩
  · intro key' hne
    exact ⟨(Record.get?_erase ..).trans (if_neg (Ne.symm hne)), (Record.get?_erase ..).trans (if_neg (Ne.symm hne))⟩

theorem run_deleteCheckpoints (hs : s.Reliable) (thread : String) (names : List String) :
    ∃ s', (deleteCheckpoints thread names).run s = (.ok (), s') ∧
      s.Drops (fun key => ∃ name ∈ names, key = checkpointKey thread name) s' := by
  induction names generalizing s with
  | nil =>
    refine ⟨s, rfl, (Store.Drops.of_idle (.refl s) hs).extend (fun _ h => h.elim) ?_⟩
    rintro _ ⟨_, hname, -⟩
    cases hname
  | cons name names ih =>
    obtain ⟨s₁, hrun, hfirst⟩ := run_delete hs (checkpointKey thread name)
    obtain ⟨s₂, hruns, hrest⟩ := ih hfirst.reliable
    refine ⟨s₂, ?_, (hfirst.trans hrest).extend (fun key h => ?_) fun key h hnot => ?_⟩
    · rw [deleteCheckpoints, run_bind, deleteCheckpoint, hrun]
      exact hruns
    · rcases h with rfl | ⟨name', hname', rfl⟩
      · exact ⟨name, List.mem_cons_self, rfl⟩
      · exact ⟨name', List.mem_cons_of_mem _ hname', rfl⟩
    · obtain ⟨name', hname', rfl⟩ := h
      rcases List.mem_cons.1 hname' with rfl | hname'
      · exact absurd (.inl rfl) hnot
      · exact absurd (.inr ⟨name', hname', rfl⟩) hnot

theorem run_listCheckpoints_idle (hs : s.Reliable) (thread : String) : ∃ names s',
    (listCheckpoints thread).run s = (.ok names, s') ∧ s.Idle s' ∧
      ∀ name, name ∈ names ↔ WellFormedId thread ∧ checkpointKey thread name ∈ s.snapshots.keys := by
  obtain ⟨names, hnames, -, hmem⟩ := run_listCheckpoints hs thread
  have hidle : s.Idle ((listCheckpoints thread).run s).2 := by
    rw [listCheckpoints, run_bind, run_ofCall, hs.answer_eq]
    exact s.idle_counted .listKeys
  exact ⟨names, _, Prod.ext hnames rfl, hidle, hmem⟩

theorem owns_of_listed {key : String} {keys : List String}
    (h : key = thread ∨ ∃ name, key = checkpointKey thread name ∧ key ∈ keys) : Owns thread key := by
  rcases h with rfl | ⟨name, rfl, -⟩
  · exact owns_self key
  · exact owns_checkpointKey thread name

/-- What is dropped with a thread are its own key and the keys of its stored checkpoints. -/
theorem deleteThread_drops (hs : s.Reliable) (ht : WellFormedId thread) :
    ∃ s', (deleteThread thread).run s = (.ok (s.snapshots.contains thread), s') ∧
      s.Drops (fun key => key = thread ∨ ∃ name, key = checkpointKey thread name ∧ key ∈ s.snapshots.keys) s' := by
  obtain ⟨names, s₁, hlist, hidle, hmem⟩ := run_listCheckpoints_idle hs thread
  obtain ⟨s₂, hdrop, hcheckpoints⟩ := run_deleteCheckpoints (hidle.reliable hs) thread names
  obtain ⟨s₃, hdelete, hself⟩ := run_delete hcheckpoints.reliable thread
  have hcontains : s₂.snapshots.contains thread = s.snapshots.contains thread := by
    rw [Record.contains, Record.contains, ← hidle.snapshots]
    refine congrArg Option.isSome (hcheckpoints.kept thread ?_).1
    rintro ⟨name, -, heq⟩
    exact checkpointKey_ne thread name heq.symm
  refine ⟨s₃, ?_, (((Store.Drops.of_idle hidle hs).trans hcheckpoints).trans hself).extend ?_ ?_⟩
  · rw [deleteThread, run_underLock, run_bind, hlist]
    dsimp only
    rw [run_bind, hdrop]
    dsimp only
    rw [hdelete, hcontains]
  · rintro key ((⟨⟨⟩⟩ | ⟨name, hname, rfl⟩) | rfl)
    · exact .inr ⟨name, rfl, ((hmem name).1 hname).2⟩
    · exact .inl rfl
  · rintro key (rfl | ⟨name, rfl, hkey⟩) hnot
    · exact absurd (.inr rfl) hnot
    · exact absurd (.inl (.inr ⟨name, (hmem name).2 ⟨ht, hkey⟩, rfl⟩)) hnot

end Edit

theorem EditCommand.thread?_of_records {c : EditCommand} {key : String} (h : c.Records key) : c.thread? = some key := by
  cases c <;> first | exact congrArg some h.symm | exact h.elim

/-- Every ledger of a store that came about by edits is under the id of a thread. -/
theorem Store.Reached.recorded {P : String → Prop} (h : s.Reached rules P) :
    ∀ key changes, s.ledgers.get? key = some changes → P key := by
  refine h.keeps (Contract.recorded_served (W := fun _ => True)) (fun _ _ _ hget => by cases hget) (fun _ _ ih => ih)
    fun command hcommand => ?_
  exact command.writesOnly rules (fun _ _ => trivial) fun key hkey => hcommand key (EditCommand.thread?_of_records hkey)

theorem Store.Reached.runAll {P : String → Prop} {commands : List EditCommand} (h : s.Reached rules P)
    (hcommands : ∀ command ∈ commands, ∀ t, command.thread? = some t → P t) :
    (EditCommand.runAll rules commands s).Reached rules P := by
  induction commands generalizing s with
  | nil => exact h
  | cons command commands ih =>
    obtain ⟨hcommand, hcommands⟩ := List.forall_mem_cons.1 hcommands
    exact ih (.edit h hcommand) hcommands

theorem EditCommand.runAll_reliable (hs : s.Reliable) (commands : List EditCommand) :
    (runAll rules commands s).Reliable := by
  induction commands generalizing s with
  | nil => exact hs
  | cons command commands ih => exact ih (Edit.run_reliable _ hs)

/-- In a store that was written on behalf of well-formed ids nothing lies under the keys of a thread but its state, its ledger
and the checkpoints that are stored. -/
theorem Edit.deleteThread_drops_owned (h : s.Reached rules WellFormedId) (hs : s.Reliable) (ht : WellFormedId thread) :
    ∃ s', (deleteThread thread).run s = (.ok (s.snapshots.contains thread), s') ∧ s.Drops (Owns thread) s' := by
  obtain ⟨s', hrun, hdrops⟩ := deleteThread_drops hs ht
  refine ⟨s', hrun, hdrops.extend (fun _ => owns_of_listed) ?_⟩
  rintro key (rfl | ⟨name, rfl⟩) hnot
  · exact absurd (.inl rfl) hnot
  constructor
  · refine Option.eq_none_iff_forall_ne_some.2 fun st hst => ?_
    exact hnot (.inr ⟨name, rfl, Record.mem_keys_iff.2 ⟨st, hst⟩⟩)
  · refine Option.eq_none_iff_forall_ne_some.2 fun changes hget => ?_
    exact (h.recorded _ changes hget).ne_checkpointKey rfl

/-- A thread whose keys are dropped is taken from the list, where no checkpoint stands. -/
theorem Store.Drops.listThreads (h : s.Drops (Owns thread) s') (hs : s.Reliable) : ∃ threads,
    (StoreCommand.listThreads.run s).1 = .names threads ∧
      (StoreCommand.listThreads.run s').1 = .names (threads.filter (· ≠ thread)) := by
  obtain ⟨threads, hthreads, hsorted, hmem⟩ := StoreCommand.run_listThreads hs
  obtain ⟨left, hleft, hsorted', hmem'⟩ := StoreCommand.run_listThreads h.reliable
  have hfilter : left = threads.filter (· ≠ thread) := by
    refine hsorted'.eq_of_mem_iff (hsorted.filter _) fun key => ?_
    rw [hmem', List.mem_filter, hmem, h.mem_keys_iff, decide_eq_true_iff]
    constructor
    · rintro ⟨⟨hkey, hnot⟩, hplain⟩
      exact ⟨⟨hkey, hplain⟩, fun heq => hnot (heq ▸ owns_self thread)⟩
    · rintro ⟨⟨hkey, hplain⟩, hne⟩
      refine ⟨⟨hkey, ?_⟩, hplain⟩
      rintro (rfl | ⟨name, rfl⟩)
      · exact hne rfl
      · rw [isCheckpointKey_checkpointKey] at hplain
        cases hplain
  exact ⟨threads, hthreads, hfilter ▸ hleft⟩

/-- Where a thread has nothing left, dropping it does nothing. -/
theorem Edit.deleteThread_nothing (hs : s.Reliable) (ht : WellFormedId thread)
    (hempty : ∀ key, Owns thread key → s.snapshots.get? key = none ∧ s.ledgers.get? key = none) :
    ∃ s', (deleteThread thread).run s = (.ok false, s') ∧ s'.snapshots = s.snapshots ∧ s'.ledgers = s.ledgers := by
  obtain ⟨s', hrun, hdrops⟩ := deleteThread_drops hs ht
  have habsent : s.snapshots.contains thread = false := by
    rw [Record.contains, (hempty thread (owns_self thread)).1]
    rfl
  exact ⟨s', habsent ▸ hrun, hdrops.eq_of_empty fun key hkey => hempty key (owns_of_listed hkey)⟩

/-- Dropping a thread of a store that was written on behalf of well-formed ids drops everything that is the thread's and
nothing else. It tells whether the thread had a state, takes the thread from the list, and does nothing a second time. -/
theorem thread_dropped (h : s.Reached rules WellFormedId) (hs : s.Reliable) (ht : WellFormedId thread) :
    ∃ s', (Edit.deleteThread thread).run s = (.ok (s.snapshots.contains thread), s') ∧
      (∀ key, Owns thread key → s'.snapshots.get? key = none ∧ s'.ledgers.get? key = none) ∧
      (∀ key, ¬Owns thread key →
        s'.snapshots.get? key = s.snapshots.get? key ∧ s'.ledgers.get? key = s.ledgers.get? key) ∧
      (∃ threads, (StoreCommand.listThreads.run s).1 = .names threads ∧
        (StoreCommand.listThreads.run s').1 = .names (threads.filter (· ≠ thread))) ∧
      ∃ s'', (Edit.deleteThread thread).run s' = (.ok false, s'') ∧ s''.snapshots = s'.snapshots ∧
        s''.ledgers = s'.ledgers := by
  obtain ⟨s', hrun, hdrops⟩ := Edit.deleteThread_drops_owned h hs ht
  exact ⟨s', hrun, hdrops.gone, hdrops.kept, hdrops.listThreads hs, Edit.deleteThread_nothing hdrops.reliable ht hdrops.gone⟩

/-- A thread with a ledger and checkpoints, one of them with a mark in its name, and a thread whose id begins with that of
the first, with a ledger and a checkpoint as well. -/
def crowdedEdits : List EditCommand :=
  ["t", "t:check"].flatMap fun thread =>
    [.saveState thread .empty, .append thread "items" .null, .createCheckpoint thread "t:checkpoint:t",
      .restoreCheckpoint thread "t:checkpoint:t"]

def crowdedStore : Store := EditCommand.runAll ⟨none, .lenient⟩ crowdedEdits .empty

theorem thread_dropped_crowdedStore :
    crowdedStore.Reached ⟨none, .lenient⟩ WellFormedId ∧ crowdedStore.Reliable ∧ WellFormedId "t" ∧
      crowdedStore.snapshots.keys =
        ["t", "t:check", "t:check:checkpoint:t:checkpoint:t", "t:checkpoint:t:checkpoint:t"] ∧
      crowdedStore.ledgers.keys = ["t", "t:check"] ∧
      ∃ s', (Edit.deleteThread "t").run crowdedStore = (.ok (crowdedStore.snapshots.contains "t"), s') ∧
        (∀ key, Owns "t" key → s'.snapshots.get? key = none ∧ s'.ledgers.get? key = none) ∧
        (∀ key, ¬Owns "t" key →
          s'.snapshots.get? key = crowdedStore.snapshots.get? key ∧ s'.ledgers.get? key = crowdedStore.ledgers.get? key) ∧
        (∃ threads, (StoreCommand.listThreads.run crowdedStore).1 = .names threads ∧
          (StoreCommand.listThreads.run s').1 = .names (threads.filter (· ≠ "t"))) ∧
        ∃ s'', (Edit.deleteThread "t").run s' = (.ok false, s'') ∧ s''.snapshots = s'.snapshots ∧
          s''.ledgers = s'.ledgers := by
  have ht : WellFormedId "t" := by decide
  have hcommands : ∀ c ∈ crowdedEdits, ∀ t, c.thread? = some t → WellFormedId t := by
    have hcheck : WellFormedId "t:check" := by decide
    simp [crowdedEdits, EditCommand.thread?, ht, hcheck]
  have hreached : crowdedStore.Reached ⟨none, .lenient⟩ WellFormedId := .runAll (.empty .none) hcommands
  have hs : crowdedStore.Reliable := EditCommand.runAll_reliable Store.reliable_empty crowdedEdits
  exact ⟨hreached, hs, ht, by decide +kernel, by decide +kernel, thread_dropped hreached hs ht⟩

end GatedFlow
