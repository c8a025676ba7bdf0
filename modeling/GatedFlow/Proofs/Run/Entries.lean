import GatedFlow.Proofs.Run.Drive
import GatedFlow.Proofs.Run.Edits
import GatedFlow.Proofs.Run.Quiet

/-! # What nodes are handed

`entries` reads a trace for the nodes that are entered: what is stored for the thread at that moment, the state that
the node is handed, the state by which its successors are chosen, and when the run began to wait for the node's
approval, if it did. A node is handed what was loaded before its gate, so that it sees what is stored exactly if
nothing has changed while the run waited (`drive_entries`). -/

namespace GatedFlow

def Course.stored? (c : Course) (thread : String) : Option State := c.world.store.snapshots.get? thread

namespace RunMoment

def handed? : RunMoment → Option State
  | ⟨.execute _ _ s, _, _⟩ => some s
  | _ => none

def routed? : RunMoment → Option State
  | ⟨.next _ _ s, _, _⟩ => some s
  | _ => none

def wait? : RunMoment → Option Course
  | ⟨.await .., _, c⟩ => some c
  | _ => none

end RunMoment

structure Entry where
  thread : String
  node : String
  course : Course
  /-- The course in which the wait for its approval began. -/
  began : Option Course
  handed : Option State
  routed : Option State

/-- The nodes that are entered in a trace, where a wait may have begun before it. -/
def entries (began : Option Course) : List RunMoment → List Entry
  | [] => []
  | ⟨.tell [.nodeEntered thread node], _, c⟩ :: rest =>
    ⟨thread, node, c, began, rest.findSome? RunMoment.handed?, rest.findSome? RunMoment.routed?⟩ :: entries none rest
  | m :: rest => entries (m.wait?.or began) rest

def lastWait (began : Option Course) (tr : List RunMoment) : Option Course := tr.foldl (fun b m => m.wait?.or b) began

/-- An entered node is handed what is stored, and its successors are chosen by that merged with the node's update. -/
def Entry.SeesStored (g : Graph) (e : Entry) : Prop :=
  ∃ s, e.course.stored? e.thread = some s ∧ e.handed = some s ∧
    ∀ update s', g.execute e.node s = .ok update → e.routed = some s' → s' = s.merge update

theorem entries_quiet_append {tr : List RunMoment} (h : QuietTrace tr) (began : Option Course) (tr' : List RunMoment) :
    entries began (tr ++ tr') = entries (lastWait began tr) tr' := by
  induction tr generalizing began with
  | nil => rfl
  | cons m tr ih =>
    have hm : entries began (m :: (tr ++ tr')) = entries (m.wait?.or began) (tr ++ tr') := by
      rw [entries.eq_def]
      split
      · rename_i heq; cases heq
      · rename_i thread node _ _ _ heq
        obtain ⟨rfl, -⟩ := List.cons.inj heq
        exact absurd (List.mem_singleton_self _) (h _ (List.mem_cons_self ..) thread node)
      · rename_i heq
        obtain ⟨rfl, rfl⟩ := List.cons.inj heq
        rfl
    rw [List.cons_append, hm]
    exact ih (fun m' hm' => h m' (List.mem_cons_of_mem _ hm')) _

theorem entries_of_quiet {tr : List RunMoment} (h : QuietTrace tr) (began : Option Course) : entries began tr = [] := by
  have := entries_quiet_append h began []
  rwa [List.append_nil] at this

namespace Engine

variable {E : Engine} {c : Course} {thread node : String} {s : State}

theorem mergeUpdate_entry (update : Fields) :
    E.wp (E.mergeUpdate thread s update) (fun tr r _ =>
      (tr = [] ∨ ∃ a, tr = [⟨.edit (Edit.modify E.rules.schema thread update), some a, c⟩]) ∧
      ∀ s', r = some (.ok s') → c.stored? thread = some s → s' = s.merge update) c := by
  unfold mergeUpdate
  split
  · rename_i hempty
    refine ⟨.inl rfl, ?_⟩
    rintro _ ⟨⟩ -
    exact (congrArg State.mk (Record.merge_of_isEmpty hempty)).symm
  · have hdoes : (Edit.modify E.rules.schema thread update).Does c.world.store False _ := Edit.does_modify False.elim
    rw [← bind_pure (Run.ofEdit _)]
    refine wp_edit_cases hdoes (fun st store _ h => ⟨.inr ⟨_, rfl⟩, ?_⟩) fun p store _ _ _ => ⟨.inr ⟨_, rfl⟩, ?_⟩
    · obtain ⟨s₀, hs₀, hmerge, -⟩ := h
      rintro _ ⟨⟩ hs
      obtain rfl : s = s₀ := by rw [← Option.some.injEq, ← hs₀]; exact hs.symm
      exact hmerge
    · rintro _ ⟨⟩

/-- What carrying out a node on a state shows: the state it is handed and, if it comes to that, the state by which its
successors are chosen. -/
structure Shows (E : Engine) (thread node : String) (s : State) (c : Course) (work : List RunMoment)
    (r : Option (Except FlowError (List String))) : Prop where
  noWait : lastWait none work = none
  handed : work.findSome? RunMoment.handed? = some s
  routed : ∀ targets, r = some (.ok targets) → (work.findSome? RunMoment.routed?).isSome
  merged : c.stored? thread = some s → ∀ update s', E.graph.execute node s = .ok update →
    work.findSome? RunMoment.routed? = some s' → s' = s.merge update

theorem Shows.of_not_routed {work : List RunMoment} {r : Option (Except FlowError (List String))}
    (hwait : lastWait none work = none) (hhanded : work.findSome? RunMoment.handed? = some s)
    (hrouted : work.findSome? RunMoment.routed? = none) (hr : ∀ targets, r ≠ some (.ok targets)) :
    E.Shows thread node s c work r := by
  refine ⟨hwait, hhanded, fun targets h => absurd h (hr targets), fun _ _ _ _ h => ?_⟩
  rw [hrouted] at h
  cases h

theorem Shows.of_routed {work : List RunMoment} {r : Option (Except FlowError (List String))} {update : Fields} {s' : State}
    (hwait : lastWait none work = none) (hhanded : work.findSome? RunMoment.handed? = some s)
    (hrouted : work.findSome? RunMoment.routed? = some s') (hupdate : E.graph.execute node s = .ok update)
    (hmerge : c.stored? thread = some s → s' = s.merge update) : E.Shows thread node s c work r := by
  refine ⟨hwait, hhanded, fun _ _ => by rw [hrouted]; rfl, fun hs update' s'' hupdate' hrouted' => ?_⟩
  rw [hupdate, Except.ok.injEq] at hupdate'
  rw [hrouted, Option.some.injEq] at hrouted'
  rw [← hrouted', ← hupdate']
  exact hmerge hs

theorem perform_shows (E : Engine) (thread node : String) (s : State) (c : Course) :
    E.wp (E.perform thread node s) (fun tr r _ => ∃ work,
      tr = ⟨.tell [.nodeEntered thread node], some (), c⟩ :: work ∧ E.Shows thread node s c work r) c := by
  unfold perform
  rw [wp_bind, wp_tell]
  dsimp only
  rw [wp_bind, wp_execute]
  cases hexecute : E.graph.execute node s with
  | error e => exact ⟨_, rfl, .of_not_routed rfl rfl rfl fun _ h => (by cases h)⟩
  | ok update =>
    dsimp only
    rw [wp_bind]
    refine wp_mono (mergeUpdate_entry update) fun tr r c₁ h => ?_
    obtain ⟨htr, hr⟩ := h
    have hskip : ∀ tr', lastWait none (tr ++ tr') = lastWait none tr' ∧
        (tr ++ tr').findSome? RunMoment.routed? = tr'.findSome? RunMoment.routed? := by
      intro tr'
      rcases htr with rfl | ⟨a, rfl⟩ <;> exact ⟨rfl, rfl⟩
    have hended := hskip []
    rw [List.append_nil] at hended
    rcases r with _ | (e | s')
    · exact ⟨_, rfl, .of_not_routed hended.1 rfl hended.2 fun _ h => (by cases h)⟩
    · exact ⟨_, rfl, .of_not_routed hended.1 rfl hended.2 fun _ h => (by cases h)⟩
    · dsimp only
      rw [wp_bind, wp_tell]
      dsimp only
      rw [wp_bind, wp_next]
      cases E.graph.next node s' with
      | error e => exact ⟨_, rfl, .of_routed (hskip _).1 rfl (hskip _).2 hexecute (hr s' rfl)⟩
      | ok targets =>
        dsimp only
        rw [wp_bind, wp_tell]
        exact ⟨_, rfl, .of_routed (hskip _).1 rfl (hskip _).2 hexecute (hr s' rfl)⟩

theorem perform_entry (E : Engine) (thread node : String) (s : State) (c : Course) :
    E.wp (E.perform thread node s) (fun tr r _ => ∃ work, tr = ⟨.tell [.nodeEntered thread node], some (), c⟩ :: work ∧
      QuietTrace work ∧ E.Shows thread node s c work r) c := by
  obtain ⟨work, htr, hshows⟩ := E.perform_shows thread node s c
  obtain ⟨work', htr', hquiet⟩ := trace_perform (E := E) thread node s c
  obtain rfl : work = work' := (List.cons.inj (htr.symm.trans htr')).2
  exact ⟨work, htr, hquiet, hshows⟩

/-- Where a run goes on that loaded these states: it did not wait since, and they are stored still, or they were stored
when it began to wait. -/
def Waited (E : Engine) (snapshots : Record State) (began : Option Course) (c : Course) : Prop :=
  match began with
  | none => c.world.store.snapshots = snapshots
  | some c₀ => c₀.world.store.snapshots = snapshots ∧ E.config.mode = .wait

theorem gate_waits {rest : List String} :
    E.wp (E.gate thread node s rest) (fun tr r c' => r = some (.ok none) →
      E.Waited c.world.store.snapshots (lastWait none tr) c') c := by
  unfold gate
  rw [wp_bind, wp_askReason]
  cases c.world.desk.policy.reason? s node with
  | none => exact fun _ => rfl
  | some reason =>
    dsimp only
    rw [wp_bind, wp_createRequest]
    dsimp only
    cases hmode : E.config.mode with
    | pause =>
      dsimp only
      rw [wp_bind]
      refine wp_mono (Q := fun _ _ _ => True) trivial fun tr r c' _ => ?_
      rcases r with _ | (e | outcome) <;> rintro ⟨⟩
    | wait =>
      dsimp only
      unfold awaitDecision
      rw [wp_bind, wp_await]
      split
      · split
        · exact fun _ => ⟨rfl, hmode⟩
        · rintro ⟨⟩
      · rintro ⟨⟩
      · rintro ⟨⟩

theorem passGate_waits {rest : List String} {free : Bool} :
    E.wp (E.passGate thread node s rest free) (fun tr r c' => QuietTrace tr ∧ (r = some (.ok none) →
      E.Waited c.world.store.snapshots (lastWait none tr) c')) c := by
  unfold passGate
  split
  · exact ⟨.nil, fun _ => rfl⟩
  · exact wp_and ((quiet_gate thread node s rest).wp c) gate_waits

/-- What holds of an entered node: it is handed what was stored when the run began to wait there, or else what is
stored now, and sees what is stored exactly if that is the same. Only a run in wait mode waits. -/
structure EntrySound (E : Engine) (e : Entry) : Prop where
  handed : e.handed = (e.began.getD e.course).stored? e.thread
  sees : e.SeesStored E.graph ↔ ∀ c, e.began = some c → c.stored? e.thread = e.course.stored? e.thread
  mode : ∀ c, e.began = some c → E.config.mode = .wait

/-- A node that passed its gate is handed what was loaded before the gate. -/
theorem Shows.entrySound {c₁ : Course} {began : Option Course} {work tr : List RunMoment}
    {r : Option (Except FlowError (List String))} (h : E.Shows thread node s c₁ work r)
    (hs : c.stored? thread = some s) (hwaited : E.Waited c.world.store.snapshots began c₁)
    (hfirst : ∀ s', (work ++ tr).findSome? RunMoment.routed? = some s' → work.findSome? RunMoment.routed? = some s') :
    E.EntrySound ⟨thread, node, c₁, began, (work ++ tr).findSome? RunMoment.handed?,
      (work ++ tr).findSome? RunMoment.routed?⟩ := by
  have hhanded : (work ++ tr).findSome? RunMoment.handed? = some s := by
    rw [List.findSome?_append, h.handed]
    rfl
  have hsees : Entry.SeesStored E.graph ⟨thread, node, c₁, began, (work ++ tr).findSome? RunMoment.handed?,
      (work ++ tr).findSome? RunMoment.routed?⟩ ↔ c₁.stored? thread = some s := by
    constructor
    · rintro ⟨s₁, hs₁, hhanded₁, -⟩
      have heq : some s = some s₁ := hhanded.symm.trans hhanded₁
      rw [heq]
      exact hs₁
    · exact fun hstored => ⟨s, hstored, hhanded, fun update s' hupdate hs' =>
        h.merged hstored update s' hupdate (hfirst s' hs')⟩
  cases began with
  | none =>
    -- nobody else had a turn between the loading and the entry
    have hstored : c₁.stored? thread = some s := by
      rw [← hs, Course.stored?, hwaited]
      rfl
    refine ⟨hhanded.trans hstored.symm, iff_of_true (hsees.2 hstored) ?_, ?_⟩ <;> rintro _ ⟨⟩
  | some c₀ =>
    have hstored : c₀.stored? thread = some s := by
      rw [← hs, Course.stored?, hwaited.1]
      rfl
    refine ⟨hhanded.trans hstored.symm, hsees.trans ⟨?_, fun h => ?_⟩, ?_⟩
    · rintro h _ ⟨⟩
      exact hstored.trans h.symm
    · exact (h c₀ rfl).symm.trans hstored
    · rintro _ ⟨⟩
      exact hwaited.2

theorem entrySound_of_quiet {tr : List RunMoment} (h : QuietTrace tr) : ∀ e ∈ entries none tr, E.EntrySound e := by
  rw [entries_of_quiet h]
  exact fun e he => by cases he

theorem drive_cons_entries {rest visited : List String} {left : Nat} {approved : Option String}
    (hgo : ∀ {s : State} {approved : Option String} {c : Course}, E.wp (E.goOn thread node rest approved visited s left)
      (fun tr _ _ => tr = [] ∨ ∃ work tr' r, tr = ⟨.tell [.nodeEntered thread node], some (), c⟩ :: (work ++ tr') ∧
        QuietTrace work ∧ E.Shows thread node s c work r ∧
        (∀ s', (work ++ tr').findSome? RunMoment.routed? = some s' → work.findSome? RunMoment.routed? = some s') ∧
        ∀ e ∈ entries none tr', E.EntrySound e) c) (c : Course) :
    E.wp (E.drive thread left (node :: rest) approved visited) (fun tr _ _ => ∀ e ∈ entries none tr, E.EntrySound e) c := by
  rw [drive_cons]
  have hload : (Edit.loadState thread).Does c.world.store False _ := Edit.does_loadState False.elim
  refine wp_edit_cases hload (fun s store _ h => ?_) fun p store _ _ _ => entrySound_of_quiet (.of_news rfl)
  obtain ⟨hs, hsnapshots⟩ := h
  rw [wp_bind]
  refine wp_mono passGate_waits fun tr r c₁ h₁ => ?_
  obtain ⟨htr, hwaited⟩ := h₁
  have htr : QuietTrace (⟨.edit (Edit.loadState thread), some (.ok s), c⟩ :: tr) := (QuietTrace.of_news rfl).append htr
  rcases r with _ | (e | (_ | outcome))
  · exact entrySound_of_quiet htr
  · exact entrySound_of_quiet htr
  · have hwaited : E.Waited c.world.store.snapshots (lastWait none tr) c₁ := hsnapshots ▸ hwaited rfl
    refine wp_mono hgo fun tr' r c' h => ?_
    obtain rfl | ⟨work, tr'', r, rfl, hwork, hshows, hfirst, hrest⟩ := h
    · exact entrySound_of_quiet (htr.append .nil)
    rw [← List.cons_append, entries_quiet_append htr]
    show ∀ e ∈ _ :: entries none (work ++ tr''), E.EntrySound e
    rw [entries_quiet_append hwork, hshows.noWait, List.forall_mem_cons]
    exact ⟨hshows.entrySound hs hwaited hfirst, hrest⟩
  · exact entrySound_of_quiet (htr.append .nil)

theorem drive_entries (E : Engine) (thread : String) (left : Nat) (frontier : List String) (approved : Option String)
    (visited : List String) (c : Course) :
    E.wp (E.drive thread left frontier approved visited) (fun tr _ _ => ∀ e ∈ entries none tr, E.EntrySound e) c := by
  induction left generalizing frontier approved visited c with
  | zero =>
    cases frontier with
    | nil => exact entrySound_of_quiet (((clerical_ofEdit _).bind fun s => only_pure _).mono (fun _ h => h.quiet) c)
    | cons node rest => exact drive_cons_entries (fun {_ _ _} => .inl rfl) c
  | succ left ih =>
    cases frontier with
    | nil => exact entrySound_of_quiet (((clerical_ofEdit _).bind fun s => only_pure _).mono (fun _ h => h.quiet) c)
    | cons node rest =>
      refine drive_cons_entries (fun {s approved c} => ?_) c
      rw [goOn, wp_bind]
      refine wp_mono (E.perform_entry thread node s c) fun tr r c₁ h => ?_
      obtain ⟨work, rfl, hwork, hshows⟩ := h
      have hended : ∀ s', (work ++ []).findSome? RunMoment.routed? = some s' →
          work.findSome? RunMoment.routed? = some s' := fun s' hs' => by rwa [List.append_nil] at hs'
      rcases r with _ | (e | targets)
      · exact .inr ⟨work, [], _, by rw [List.append_nil], hwork, hshows, hended, entrySound_of_quiet .nil⟩
      · exact .inr ⟨work, [], _, by rw [List.append_nil], hwork, hshows, hended, entrySound_of_quiet .nil⟩
      · -- a node that goes on has chosen its successors, so that no later choice is taken for its own
        refine wp_mono (ih _ _ _ c₁) fun tr' r c' hrest => .inr ⟨work, tr', _, rfl, hwork, hshows, fun s' hs' => ?_, hrest⟩
        obtain ⟨s₁, hs₁⟩ := Option.isSome_iff_exists.1 (hshows.routed targets rfl)
        rw [List.findSome?_append, hs₁] at hs'
        rw [hs₁]
        exact hs'

end Engine
end GatedFlow
