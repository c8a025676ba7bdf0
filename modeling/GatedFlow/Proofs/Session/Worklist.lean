import GatedFlow.Proofs.Run.Worklist
import GatedFlow.Proofs.Session.Attempts

/-! # Work is neither lost nor invented

What a new run that completes tells of its work (`worklist_served`): every edge that is followed is served by a later
entry, every entry but the first serves an edge, nodes that wait are entered in the order in which they began to wait, and
the nodes that the run has visited are the entered ones. -/

namespace GatedFlow

/-- A node waits since it has come to `p`: the edge that was followed then is the first one into it that was not served. -/
def WaitsSince (thread node : String) (past p : List Event) : Prop :=
  ¬Waits thread node p ∧
    ∃ source q, past = p ++ .edgeTraversed thread source node :: q ∧ .nodeEntered thread node ∉ q

/-- What the events of a complete run from an entry point are like that has visited these nodes. -/
structure Served (thread entry : String) (events : List Event) (visited : List String) : Prop where
  own : ∀ event ∈ events,
    (∃ node, event = .nodeEntered thread node) ∨ ∃ source target, event = .edgeTraversed thread source target
  first : events.head? = some (.nodeEntered thread entry)
  lossless : ∀ p source node rest, events = p ++ .edgeTraversed thread source node :: rest →
    .nodeEntered thread node ∈ rest
  earned : ∀ p node rest, p ≠ [] → events = p ++ .nodeEntered thread node :: rest → Waits thread node p
  inOrder : ∀ past rest node node' p p', events = past ++ rest → WaitsSince thread node past p →
    WaitsSince thread node' past p' → p.length < p'.length →
    ∃ q q', rest = q ++ .nodeEntered thread node :: q' ∧ .nodeEntered thread node' ∉ q
  visits : visited = events.filterMap Event.entered?

section Served

variable {thread entry node : String} {events p rest : List Event}

/-- Once a run has entered its first node, those wait that its frontier holds. -/
theorem WorksOff.reaches (h : WorksOff thread [entry] events []) (hfirst : events.head? = some (.nodeEntered thread entry))
    (hevents : events = p ++ rest) (hp : p ≠ []) :
    ∃ frontier, WorksOff thread frontier rest [] ∧ ∀ node, node ∈ frontier ↔ Waits thread node p := by
  subst hevents
  obtain ⟨frontier, hto, hoff⟩ := h.split
  refine ⟨frontier, hoff, fun node => ?_⟩
  rw [List.head?_append_of_ne_nil _ hp] at hfirst
  have hentered : .nodeEntered thread entry ∈ p := List.mem_of_mem_head? hfirst
  rw [hto.mem_iff (by simp)]
  refine ⟨fun hnode => hnode.resolve_left fun ⟨hentry, hnot⟩ => hnot ?_, .inr⟩
  rwa [List.mem_singleton.1 hentry]

theorem WorksOff.lossless (h : WorksOff thread [entry] events []) (hfirst : events.head? = some (.nodeEntered thread entry))
    {source : String} (hevents : events = p ++ .edgeTraversed thread source node :: rest) : .nodeEntered thread node ∈ rest := by
  rw [List.append_cons] at hevents
  obtain ⟨frontier, hoff, hwaits⟩ := h.reaches hfirst hevents (by simp)
  have hnode : Waits thread node (p ++ [.edgeTraversed thread source node]) := ⟨p, source, [], rfl, List.not_mem_nil⟩
  obtain ⟨q, q', rfl, -⟩ := hoff.serves ((hwaits node).2 hnode)
  exact List.mem_append_right _ List.mem_cons_self

theorem WorksOff.earned (h : WorksOff thread [entry] events []) (hfirst : events.head? = some (.nodeEntered thread entry))
    (hp : p ≠ []) (hevents : events = p ++ .nodeEntered thread node :: rest) : Waits thread node p := by
  obtain ⟨frontier, hoff, hwaits⟩ := h.reaches hfirst hevents hp
  cases hoff with
  | enter => exact (hwaits node).1 List.mem_cons_self

theorem WorksOff.inOrder (h : WorksOff thread [entry] events []) (hfirst : events.head? = some (.nodeEntered thread entry))
    {past p' : List Event} {node' : String} (hevents : events = past ++ rest) (hnode : WaitsSince thread node past p)
    (hnode' : WaitsSince thread node' past p') (hlt : p.length < p'.length) :
    ∃ q q', rest = q ++ .nodeEntered thread node :: q' ∧ .nodeEntered thread node' ∉ q := by
  obtain ⟨-, source, served, hpast, hnot⟩ := hnode
  obtain ⟨hfresh, source', served', hpast', -⟩ := hnode'
  -- when the later node begins to wait, the earlier one waits already
  obtain ⟨between, rfl, rfl⟩ : ∃ between, p' = p ++ .edgeTraversed thread source node :: between ∧
      served = between ++ .edgeTraversed thread source' node' :: served' := by
    rcases List.append_eq_append_iff.1 (hpast.symm.trans hpast') with ⟨m, rfl, hm⟩ | ⟨m, rfl, -⟩
    · rcases m with _ | ⟨event, m⟩
      · simp at hlt
      · obtain ⟨rfl, rfl⟩ := List.cons.inj hm
        exact ⟨m, rfl, rfl⟩
    · rw [List.length_append] at hlt
      omega
  rw [List.mem_append, not_or] at hnot
  have hwaiting : Waits thread node (p ++ .edgeTraversed thread source node :: between) := ⟨p, source, between, rfl, hnot.1⟩
  have hevents : events = (p ++ .edgeTraversed thread source node :: between) ++
      (.edgeTraversed thread source' node' :: served' ++ rest) := by rw [hevents, hpast', List.append_assoc]
  obtain ⟨frontier, hoff, hwaits⟩ := h.reaches hfirst hevents (by simp)
  obtain ⟨q, q', hrest, hq⟩ := hoff.serves ((hwaits node).2 hwaiting)
  rcases List.append_eq_append_iff.1 hrest with ⟨m, rfl, rfl⟩ | ⟨m, hm, hrest⟩
  · refine ⟨m, q', rfl, fun hmem => hq node' (fun hin => hfresh ((hwaits node').1 hin)) ?_⟩
    exact List.mem_append_right _ hmem
  · cases m with
    | nil => exact ⟨[], q', hrest.symm, List.not_mem_nil⟩
    | cons event m =>
      -- it was not entered before `rest`
      obtain ⟨rfl, -⟩ := List.cons.inj hrest
      exact absurd (hm ▸ List.mem_append_right q List.mem_cons_self) hnot.2

end Served

namespace Engine

/-- A new run gives its thread the first state before it comes to any node, and then works off the entry point. -/
theorem invoke_served {E : Engine} {thread : String} {initial : State} {c : Course} :
    E.wp (E.invoke thread initial) (fun tr r _ => ∀ s visited, r = some (.ok (.completed s visited)) →
      Served thread E.graph.entry (workOf tr) visited) c := by
  have hseed : E.Only RunMoment.Clerical (E.seed thread initial) := (only_ofExcept _).bind fun _ => clerical_ofEdit _
  rw [invoke_eq, wp_bind]
  refine wp_mono (hseed.wp c) fun tr r c₁ htr => ?_
  rcases r with _ | (e | u)
  · rintro _ _ ⟨⟩
  · rintro _ _ ⟨⟩
  refine wp_mono (drive_rounds _ _ _ _ c₁) fun tr' r c' h s visited hr => ?_
  obtain ⟨hoff, hvisited, hfirst⟩ := h.worksOff hr
  have hwork : workOf (tr ++ tr') = workOf tr' := by
    rw [workOf_append, workOf_of_silent fun m hm => (htr m hm).news, List.nil_append]
  rw [hwork]
  have hfirst := hfirst _ _ rfl
  exact ⟨hoff.own, hfirst, fun _ _ _ _ h => hoff.lossless hfirst h, fun _ _ _ hp h => hoff.earned hfirst hp h,
    fun _ _ _ _ _ _ hevents h h' hlt => hoff.inOrder hfirst hevents h h' hlt, hvisited⟩

end Engine

/-- The worklist of a new run that completes neither loses nor invents work. -/
theorem worklist_served {E : Engine} {patience : Nat} {thread : String} {initial s : State}
    {commands : List (Nat × Command)} {w w' : World} {visited : List String} {replies : List (Option Reply)}
    (h : E.stepWithin patience (.invoke thread initial commands) w = (.ran (some (.ok (.completed s visited))) replies, w')) :
    Served thread E.graph.entry (workOf (E.stepTrace patience (.invoke thread initial commands) w)) visited := by
  rw [Engine.stepWithin_invoke, Prod.mk.injEq, StepReply.ran.injEq] at h
  have hserved : E.wp (E.invoke thread initial) _ (.start patience w commands) := Engine.invoke_served
  exact hserved s visited h.1.1

theorem worklist_served_forked :
    forked.stepWithin patience (.invoke "t" .empty []) (World.fresh [] [] none) =
        (.ran (some (.ok (.completed .empty ["a", "b", "c"]))) [],
          (forked.stepWithin patience (.invoke "t" .empty []) (World.fresh [] [] none)).2) ∧
      Served "t" "a" (workOf (forked.stepTrace patience (.invoke "t" .empty []) (World.fresh [] [] none))) ["a", "b", "c"] := by
  have hfirst : (forked.stepWithin patience (.invoke "t" .empty []) (World.fresh [] [] none)).1 =
      .ran (some (.ok (.completed .empty ["a", "b", "c"]))) [] := by cbv
  exact ⟨Prod.ext hfirst rfl, worklist_served (Prod.ext hfirst rfl)⟩

end GatedFlow
