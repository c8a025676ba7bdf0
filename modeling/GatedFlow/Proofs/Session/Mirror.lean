import GatedFlow.Proofs.Run.Mirror
import GatedFlow.Proofs.Session.Continuing

/-! # A session of pausing runs and the frontier it keeps

Where only runs that pause for approvals write a thread, the field for the frontier says after each of them how it has
ended: it holds the frontier of a run that has stopped and is empty after one that has ended for good, and a run that is
refused leaves all that is stored as it was (`pending_mirrors`). -/

namespace GatedFlow

variable {thread : String}

/-- What a run on a thread leaves: the field for the frontier mirrors its end, and nothing was written if it was refused. -/
structure Graph.MirrorsRun (g : Graph) (thread : String) (w : World) (r : Option (Except FlowError Outcome)) (w' : World) :
    Prop extends g.Mirrors thread r w'.store.snapshots where
  refused : ∀ e, r = some (.error e) → e.refuses = true → w.store.Unwritten w'.store

namespace Engine

variable {E : Engine} {c : Course}

/-- What precedes the nodes of a run may fail, and then the field is left as it was found or empty. -/
theorem mirrorsRun_of_error {w w' : World} {e : FlowError} (h : E.graph.Mirrored thread w'.store.snapshots)
    (he : e.OfStore ∨ e.refuses = true) (hrefused : e.refuses = true → w.store.Unwritten w'.store) :
    E.graph.MirrorsRun thread w (some (.error e)) w' where
  toMirrors := .of_error h he
  refused := by
    rintro _ ⟨⟩
    exact hrefused

/-- A run that has come to its nodes mirrors its end. -/
theorem drive_mirrorsRun (hmode : E.config.mode = .pause) (hclosed : E.graph.Closed)
    (hupdates : ∀ node s update, E.graph.execute node s = .ok update → update.get? pendingField = none)
    {left : Nat} {frontier visited : List String} {approved : Option String} {w : World}
    (hpending : pendingIn c.world.store.snapshots thread = none) (hfrontier : E.graph.Begins frontier approved) :
    E.wp (E.drive thread left frontier approved visited) (fun _ r c' => E.graph.MirrorsRun thread w r c'.world) c := by
  refine wp_mono (wp_and (drive_mirrors hmode hclosed hupdates hpending hfrontier)
    (drive_fails left frontier approved visited c)) fun _ r c' h => ?_
  obtain ⟨hmirrors, hfails⟩ := h
  refine { hmirrors with refused := fun e he hrefuses => ?_ }
  cases (hfails e he).symm.trans hrefuses

theorem invoke_mirrors (hmode : E.config.mode = .pause) (hclosed : E.graph.Closed)
    (hupdates : ∀ node s update, E.graph.execute node s = .ok update → update.get? pendingField = none)
    (hmirrored : E.graph.Mirrored thread c.world.store.snapshots) (initial : State) :
    E.wp (E.invoke thread initial) (fun _ r c' => E.graph.MirrorsRun thread c.world r c'.world) c := by
  rw [invoke_eq, wp_bind]
  refine wp_mono (wp_and seed_spec (wp_and (seed_fails thread initial c) (seed_refused thread initial c)))
    fun _ r c₁ h => ?_
  obtain ⟨⟨store, rfl, hstored⟩, hfails, hrefused⟩ := h
  rcases r with _ | (e | u)
  · exact { Graph.Mirrors.of_unended (hstored ▸ hmirrored) with refused := by rintro _ ⟨⟩ }
  · exact mirrorsRun_of_error (hstored ▸ hmirrored) (hfails e rfl) (hrefused e rfl)
  · refine drive_mirrorsRun hmode hclosed hupdates ?_ (.inl (.singleton hclosed.entry))
    show pendingIn store.snapshots thread = none
    rw [hstored, pendingIn_insert, State.get?_remove, if_pos rfl]

/-- A frontier that was kept, or the approved node alone, is one for a run to begin with. -/
theorem begins_of_kept {g : Graph} {snapshots : Record State} {node : String} {frontier kept : List String}
    (hmirrored : g.Mirrored thread snapshots) (hkept : kept = keptOf (pendingIn snapshots thread))
    (hfrontier : frontier = if kept.isEmpty then [node] else kept) : g.Begins frontier (some node) := by
  cases hpending : pendingIn snapshots thread with
  | none =>
    rw [hpending] at hkept
    subst hkept
    exact .inr ⟨node, hfrontier, rfl⟩
  | some value =>
    obtain ⟨f, rfl, hf⟩ := hmirrored value hpending
    rw [hpending, keptOf_frontierValue] at hkept
    subst hkept
    cases kept with
    | nil => exact .inr ⟨node, hfrontier, rfl⟩
    | cons first rest => exact .inl (hfrontier ▸ hf)

theorem resume_mirrors (hmode : E.config.mode = .pause) (hclosed : E.graph.Closed)
    (hupdates : ∀ node s update, E.graph.execute node s = .ok update → update.get? pendingField = none)
    (hmirrored : E.graph.Mirrored thread c.world.store.snapshots) :
    E.wp (E.resume thread) (fun _ r c' => E.graph.MirrorsRun thread c.world r c'.world) c := by
  unfold resume
  rw [wp_bind]
  refine wp_mono (wp_and (wp_and prepare_pending (wp_and prepare_cleared prepare_refused))
    (wp_and (prepare_fails thread c) (prepare_refused_unwritten thread c))) fun _ r c₁ h => ?_
  obtain ⟨⟨⟨hunclaimed, hclaimed, hready⟩, hcleared, hended⟩, hfails, hrefused⟩ := h
  -- the field is as it was or empty, whichever way resuming has come so far
  have hmirrored₁ : E.graph.Mirrored thread c₁.world.store.snapshots := by
    by_cases hclaims : E.Claims thread c
    · exact Graph.mirrored_of_none (hclaimed hclaims)
    · intro value hvalue
      exact hmirrored value ((hunclaimed hclaims).symm.trans hvalue)
  rcases r with _ | (e | (outcome | ⟨node, frontier⟩))
  · exact { Graph.Mirrors.of_unended hmirrored₁ with refused := by rintro _ ⟨⟩ }
  · exact mirrorsRun_of_error hmirrored₁ (hfails e rfl) (hrefused e rfl)
  · obtain ⟨request, -, -, rfl, -⟩ := hended outcome rfl
    have hmirrors : E.graph.Mirrors thread (some (.ok (.rejected request.record.node (c₁.world.desk.latest request))))
        c₁.world.store.snapshots := .of_none (hcleared _ rfl) fun _ _ h => by cases h
    exact { hmirrors with refused := by rintro _ ⟨⟩ }
  · obtain ⟨request, kept, -, -, hkept, hfrontier⟩ := hready node frontier rfl
    exact drive_mirrorsRun hmode hclosed hupdates (hcleared _ rfl) (begins_of_kept hmirrored hkept hfrontier)

end Engine

namespace Turn

/-- A turn that runs a thread on a graph, pausing for approvals. -/
structure Executes (g : Graph) (thread : String) (t : Turn) : Prop where
  graph : t.engine.graph = g
  mode : t.engine.config.mode = .pause
  runs : ∃ commands, t.step.Runs thread commands

/-- A turn that does not write the state of a thread. -/
def LeavesStored (thread : String) (t : Turn) : Prop :=
  ∀ w, (t.next w).store.snapshots.get? thread = w.store.snapshots.get? thread

theorem LeavesStored.of_commandsLeave {t : Turn} (ht : t.step.CommandsLeave thread)
    (hruns : ∀ commands, ¬t.step.Runs thread commands) : t.LeavesStored thread :=
  fun _ => (untouched ht hruns).stored

variable {g : Graph} {t : Turn} {w : World}

theorem Executes.mirrorsRun (ht : t.Executes g thread) (hclosed : g.Closed)
    (hupdates : ∀ node s update, g.execute node s = .ok update → update.get? pendingField = none)
    (hmirrored : g.Mirrored thread w.store.snapshots) : g.MirrorsRun thread w (t.result? w) (t.next w) := by
  obtain ⟨E, patience, s⟩ := t
  obtain ⟨rfl, hmode, commands, ⟨initial, rfl⟩ | rfl⟩ := ht
  · have hrun : E.wp (E.invoke thread initial) _ (.start patience w commands) :=
      Engine.invoke_mirrors hmode hclosed hupdates hmirrored initial
    exact hrun
  · have hrun : E.wp (E.resume thread) _ (.start patience w commands) :=
      Engine.resume_mirrors hmode hclosed hupdates hmirrored
    exact hrun

/-- Whatever turns are taken, what is kept for a thread is a frontier of the graph. -/
theorem after_mirrored {turns : List Turn} {w₀ : World} (hclosed : g.Closed)
    (hupdates : ∀ node s update, g.execute node s = .ok update → update.get? pendingField = none)
    (hturns : ∀ t ∈ turns, t.Executes g thread ∨ t.LeavesStored thread) (h : g.Mirrored thread w₀.store.snapshots) :
    g.Mirrored thread (after turns w₀).store.snapshots := by
  induction turns generalizing w₀ with
  | nil => exact h
  | cons t turns ih =>
    obtain ⟨ht, hturns⟩ := List.forall_mem_cons.1 hturns
    refine ih hturns ?_
    rcases ht with ht | ht
    · exact (ht.mirrorsRun hclosed hupdates h).mirrored
    · intro value hvalue
      rw [pendingIn, ht w₀] at hvalue
      exact h value hvalue

end Turn

/-- The field for the frontier mirrors the last run. A thread is written only by runs on one graph that pause for
approvals and whose nodes do not write the field; in between anything may happen that does not write the thread. After a
run that has stopped before a node the field holds declared nodes, none twice and that node first. It is empty after a run
that is complete, rejected, or has failed in a node or for the number of steps. A run that is refused writes nothing. -/
theorem pending_mirrors {d : Draft} {g : Graph} {w₀ : World} {turns : List Turn} {t : Turn} (hbuild : d.build = .ok g)
    (hupdates : ∀ node s update, g.execute node s = .ok update → update.get? pendingField = none)
    (hstart : w₀.store.snapshots.get? thread = none)
    (hturns : ∀ k ∈ turns, k.Executes g thread ∨ k.LeavesStored thread) (ht : t.Executes g thread) :
    g.MirrorsRun thread (Turn.after turns w₀) (t.result? (Turn.after turns w₀)) (t.next (Turn.after turns w₀)) := by
  have hclosed := d.closed_of_build hbuild
  have hnone : pendingIn w₀.store.snapshots thread = none := by rw [pendingIn, hstart]; rfl
  exact ht.mirrorsRun hclosed hupdates (Turn.after_mirrored hclosed hupdates hturns (Graph.mirrored_of_none hnone))

/-- The draft of the graph of `forked`. -/
def forkedDraft : Draft :=
  ⟨[⟨"a", .assign .empty, .empty⟩, ⟨"b", .assign .empty, .empty⟩, ⟨"c", .assign .empty, .empty⟩],
    [⟨"a", "b", none, .empty⟩, ⟨"a", "c", none, .empty⟩], .empty, some "a", .empty⟩

theorem forked_updates (node : String) (s : State) (update : Fields) (h : forked.graph.execute node s = .ok update) :
    update.get? pendingField = none := by
  unfold Graph.execute at h
  split at h
  · cases h
  · rename_i n hn
    have hmem : n ∈ forked.graph.nodes := by
      obtain ⟨i, -, hi⟩ := Option.bind_eq_some_iff.1 hn
      exact List.mem_of_getElem? hi
    have hnodes : ∀ n ∈ forked.graph.nodes, n.action = .assign .empty := by
      simp [forked, Graph.ofParts]
    rw [hnodes n hmem] at h
    cases h
    rfl

/-- The node that a run has stopped before. -/
def stopOf : Option (Except FlowError Outcome) → Option String
  | some (.ok (.interrupted node _)) => some node
  | _ => none

theorem stopOf_eq_some_iff {r : Option (Except FlowError Outcome)} {node : String} :
    stopOf r = some node ↔ ∃ request, r = some (.ok (.interrupted node request)) := by
  constructor
  · intro h
    unfold stopOf at h
    split at h
    · cases h
      exact ⟨_, rfl⟩
    · cases h
  · rintro ⟨request, rfl⟩
    rfl

/-- A thread that has stopped before one node is approved; then the node after that needs approval as well, and somebody
attempts to resume another thread. -/
def stoppedTwiceTurns : List Turn :=
  stoppedTurns ++ [forkedTurn (.command (.desk (.addAlways "c"))), forkedTurn (.resume "u" [])]

theorem stoppedTwiceTurns_allowed :
    ∀ k ∈ stoppedTwiceTurns, k.Executes forked.graph "t" ∨ k.LeavesStored "t" := by
  have hdesk : ∀ c, (forkedTurn (.command (.desk c))).LeavesStored "t" := fun _ _ => rfl
  have hother : (forkedTurn (.resume "u" [])).LeavesStored "t" := by
    refine .of_commandsLeave (fun _ h => by cases h) ?_
    rintro commands (⟨initial, h⟩ | h)
    · cases h
    · exact absurd (Step.resume.inj h).1 (by decide)
  simp only [stoppedTwiceTurns, stoppedTurns, List.cons_append, List.nil_append, List.forall_mem_cons]
  exact ⟨.inr (hdesk _), .inl ⟨rfl, rfl, [], .inl ⟨.empty, rfl⟩⟩, .inr (hdesk _), .inr (hdesk _), .inr hother,
    fun _ h => by cases h⟩

theorem pending_mirrors_stoppedTwice :
    (∃ request, (forkedTurn (.resume "t" [])).result? (Turn.after stoppedTwiceTurns (.fresh [] [] none)) =
      some (.ok (.interrupted "c" request))) ∧
    forked.graph.MirrorsRun "t" (Turn.after stoppedTwiceTurns (.fresh [] [] none))
      ((forkedTurn (.resume "t" [])).result? (Turn.after stoppedTwiceTurns (.fresh [] [] none)))
      ((forkedTurn (.resume "t" [])).next (Turn.after stoppedTwiceTurns (.fresh [] [] none))) := by
  have hstop : stopOf ((forkedTurn (.resume "t" [])).result? (Turn.after stoppedTwiceTurns (.fresh [] [] none))) =
      some "c" := by cbv
  have hstart : (World.fresh [] [] none).store.snapshots.get? "t" = none := rfl
  have hruns : (forkedTurn (.resume "t" [])).Executes forked.graph "t" := ⟨rfl, rfl, [], .inr rfl⟩
  have hbuild : forkedDraft.build = .ok forked.graph := rfl
  exact ⟨stopOf_eq_some_iff.1 hstop, pending_mirrors hbuild forked_updates hstart stoppedTwiceTurns_allowed hruns⟩

end GatedFlow
