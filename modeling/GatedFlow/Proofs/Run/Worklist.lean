import GatedFlow.Proofs.Run.Refusal

/-! # The frontier as a queue

`WorksOff` replays the events of a run on its frontier: the node that is entered is the first one, and a node that an
edge leads to joins at the end unless it waits already. What a run that completes tells is such a replay
(`Engine.Rounds.worksOff`). Which nodes wait can be read off the events alone (`WorksOff.mem_iff`), and a node that waits is
entered before all that join after it (`WorksOff.serves`). -/

namespace GatedFlow

/-- The node that an event says is entered. -/
def Event.entered? : Event → Option String
  | nodeEntered _ node => some node
  | _ => none

/-- Events that take one frontier to another. -/
inductive WorksOff (thread : String) : List String → List Event → List String → Prop
  | done (frontier : List String) : WorksOff thread frontier [] frontier
  | enter {node : String} {rest left : List String} {events : List Event} (h : WorksOff thread rest events left) :
      WorksOff thread (node :: rest) (.nodeEntered thread node :: events) left
  | follow {source target : String} {frontier left : List String} {events : List Event}
      (h : WorksOff thread (joinFrontier frontier [target]) events left) :
      WorksOff thread frontier (.edgeTraversed thread source target :: events) left

/-- A node waits to be entered: an edge into it was followed, and it was not entered since. -/
def Waits (thread node : String) (past : List Event) : Prop :=
  ∃ p source q, past = p ++ .edgeTraversed thread source node :: q ∧ .nodeEntered thread node ∉ q

section Waits

variable {thread node : String} {past : List Event}

theorem not_waits_nil : ¬Waits thread node [] := by
  rintro ⟨p, source, q, h, -⟩
  exact List.append_ne_nil_of_right_ne_nil p (List.cons_ne_nil _ q) h.symm

theorem waits_cons_iff {event : Event} : Waits thread node (event :: past) ↔
    (∃ source, event = .edgeTraversed thread source node) ∧ .nodeEntered thread node ∉ past ∨ Waits thread node past := by
  constructor
  · rintro ⟨p, source, q, h, hnot⟩
    rcases List.cons_eq_append_iff.1 h with ⟨rfl, hcons⟩ | ⟨p', rfl, rfl⟩
    · obtain ⟨rfl, rfl⟩ := List.cons.inj hcons
      exact .inl ⟨⟨source, rfl⟩, hnot⟩
    · exact .inr ⟨p', source, q, rfl, hnot⟩
  · rintro (⟨⟨source, rfl⟩, hnot⟩ | ⟨p, source, q, rfl, hnot⟩)
    · exact ⟨[], source, past, rfl, hnot⟩
    · exact ⟨event :: p, source, q, rfl, hnot⟩

end Waits

namespace WorksOff

variable {thread node : String} {frontier rest left : List String} {p events : List Event}

theorem follows {source : String} {targets : List String} (h : WorksOff thread (joinFrontier rest targets) events left) :
    WorksOff thread rest (targets.map (.edgeTraversed thread source) ++ events) left := by
  induction targets generalizing rest with
  | nil => exact h
  | cons target targets ih => exact .follow (ih h)

/-- The events are those of one thread. -/
theorem own (h : WorksOff thread frontier events left) : ∀ event ∈ events,
    (∃ node, event = .nodeEntered thread node) ∨ ∃ source target, event = .edgeTraversed thread source target := by
  induction h with
  | done => exact fun _ h => by cases h
  | enter _ ih => exact List.forall_mem_cons.2 ⟨.inl ⟨_, rfl⟩, ih⟩
  | follow _ ih => exact List.forall_mem_cons.2 ⟨.inr ⟨_, _, rfl⟩, ih⟩

theorem split (h : WorksOff thread frontier (p ++ events) left) :
    ∃ between, WorksOff thread frontier p between ∧ WorksOff thread between events left := by
  induction p generalizing frontier with
  | nil => exact ⟨frontier, .done frontier, h⟩
  | cons event p ih =>
    cases h with
    | enter h =>
      obtain ⟨between, hp, hevents⟩ := ih h
      exact ⟨between, .enter hp, hevents⟩
    | follow h =>
      obtain ⟨between, hp, hevents⟩ := ih h
      exact ⟨between, .follow hp, hevents⟩

/-- The nodes of a frontier are those that were there from the start, or wait, and were not entered since. -/
theorem mem_iff (h : WorksOff thread frontier events left) (hfrontier : frontier.Nodup) :
    node ∈ left ↔ node ∈ frontier ∧ .nodeEntered thread node ∉ events ∨ Waits thread node events := by
  induction h with
  | done => simp [not_waits_nil]
  | @enter first rest left events _ ih =>
    obtain ⟨hfirst, hrest⟩ := List.nodup_cons.1 hfrontier
    have hnode : node ∈ rest → node ≠ first := fun h heq => hfirst (heq ▸ h)
    rw [ih hrest, waits_cons_iff]
    simp only [List.mem_cons, Event.nodeEntered.injEq, reduceCtorEq, exists_false, false_and, false_or, true_and]
    grind
  | @follow source target frontier left events _ ih =>
    rw [ih (nodup_joinFrontier hfrontier), mem_joinFrontier_singleton, waits_cons_iff]
    simp only [List.mem_cons, Event.edgeTraversed.injEq, reduceCtorEq, false_or, true_and]
    grind

/-- A node of a frontier that is worked off is entered, and before it only nodes that precede it there. -/
theorem serves_at {first others : List String} (h : WorksOff thread frontier events [])
    (hfrontier : frontier = first ++ node :: others) :
    ∃ p q, events = p ++ .nodeEntered thread node :: q ∧ ∀ other, .nodeEntered thread other ∈ p → other ∈ first := by
  generalize hleft : [] = left at h
  induction h generalizing first others with
  | done => exact absurd (hleft.trans hfrontier) (by simp)
  | @enter entered rest left events _ ih =>
    rcases first with _ | ⟨_, first⟩
    · obtain ⟨rfl, -⟩ := List.cons.inj hfrontier
      exact ⟨[], events, rfl, fun _ h => by cases h⟩
    · obtain ⟨rfl, hrest⟩ := List.cons.inj hfrontier
      obtain ⟨p, q, rfl, hp⟩ := ih hrest hleft
      refine ⟨.nodeEntered thread entered :: p, q, rfl, fun other hother => ?_⟩
      rcases List.mem_cons.1 hother with heq | hother
      · obtain ⟨-, rfl⟩ := Event.nodeEntered.inj heq
        exact List.mem_cons_self
      · exact List.mem_cons_of_mem _ (hp other hother)
  | @follow source target frontier left events _ ih =>
    -- what joins, joins behind the node
    obtain ⟨others', hjoined⟩ : ∃ others', joinFrontier frontier [target] = first ++ node :: others' := by
      rw [joinFrontier_singleton, hfrontier]
      split
      · exact ⟨others, rfl⟩
      · exact ⟨others ++ [target], by simp⟩
    obtain ⟨p, q, rfl, hp⟩ := ih hjoined hleft
    refine ⟨.edgeTraversed thread source target :: p, q, rfl, fun other hother => hp other ?_⟩
    exact (List.mem_cons.1 hother).resolve_left fun heq => by cases heq

/-- A node of a frontier that is worked off is entered, and before it no node that was not there. -/
theorem serves (h : WorksOff thread frontier events []) (hnode : node ∈ frontier) :
    ∃ p q, events = p ++ .nodeEntered thread node :: q ∧ ∀ other ∉ frontier, .nodeEntered thread other ∉ p := by
  obtain ⟨first, others, rfl⟩ := List.append_of_mem hnode
  obtain ⟨p, q, hevents, hp⟩ := h.serves_at rfl
  exact ⟨p, q, hevents, fun other hother hmem => hother (List.mem_append_left _ (hp other hmem))⟩

end WorksOff

namespace Engine

variable {E : Engine} {thread node : String} {c c₁ c' : Course} {s : State} {tr : List RunMoment}

theorem Passes.workOf {rest : List String} {free : Bool} (h : E.Passes thread node rest free c s tr c₁) :
    workOf tr = [] := by
  obtain ⟨store, -, -, rfl⟩ := h
  have hsilent : E.Only (fun m => m.news = []) (E.passGate thread node s rest free) :=
    only_ite (only_pure none) (silent_gate thread node s rest)
  exact (workOf_cons_of_news rfl _).trans (workOf_of_silent (hsilent _))

/-- A run that is stopped at a gate is not complete. -/
theorem gate_incomplete {rest : List String} : E.wp (E.gate thread node s rest) (fun _ r _ =>
    ∀ s' visited, r ≠ some (.ok (some (.completed s' visited)))) c := by
  refine wp_gate (fun _ _ _ _ _ _ _ h => by cases h) (fun _ _ d r₀ _ => ?_) fun _ _ d r₀ _ => ?_
  · refine wp_mono pause_interrupts fun _ r _ h s' visited hr => ?_
    rcases r with _ | (e | outcome)
    · cases hr
    · cases hr
    · rw [(h.2 outcome rfl).1] at hr
      cases hr
  · refine wp_mono awaitDecision_spec fun _ r _ h s' visited hr => ?_
    subst hr
    obtain ⟨_, -, -, -, houtcome⟩ := h
    cases houtcome

/-- What a run that completes tells takes its frontier to the empty one, and the nodes that it has visited are those
that it tells it has entered. -/
theorem Rounds.worksOff {left : Nat} {frontier visited visited' : List String} {approved : Option String}
    {r : Option (Except FlowError Outcome)} {s : State} (h : E.Rounds thread left frontier approved visited c tr r c')
    (hr : r = some (.ok (.completed s visited'))) :
    WorksOff thread frontier (workOf tr) [] ∧ visited' = visited ++ (workOf tr).filterMap Event.entered? ∧
      ∀ node rest, frontier = node :: rest → (workOf tr).head? = some (.nodeEntered thread node) := by
  induction h with
  | unread => cases hr
  | completed =>
    cases hr
    exact ⟨.done [], (List.append_nil _).symm, fun _ _ h => by cases h⟩
  | @stopped left node rest visited approved c c' s₀ store r _ hload hgate =>
    subst hr
    exact absurd rfl ((wp_iff_of_outcome hgate).1 gate_incomplete s visited')
  | exhausted => cases hr
  | @broken _ _ _ _ _ _ _ _ _ _ e =>
    cases e <;> cases hr
  | @round left node rest targets visited approved c c₁ c₂ c' s tr tr' r hpass hperform _ ih =>
    obtain ⟨hoff, hvisited, -⟩ := ih hr
    obtain ⟨hwork, -⟩ := (wp_iff_of_outcome hperform).1 (perform_goes thread node s c₁) targets rfl
    have hwork : workOf (tr ++ (E.trace (E.perform thread node s) c₁ ++ tr')) =
        .nodeEntered thread node :: (targets.map (.edgeTraversed thread node) ++ workOf tr') := by
      rw [workOf_append, workOf_append, hpass.workOf, hwork]
      rfl
    rw [hwork]
    refine ⟨.enter hoff.follows, ?_, ?_⟩
    · rw [hvisited, List.append_assoc, List.filterMap_cons, List.filterMap_append, List.filterMap_map]
      simp [Event.entered?, Function.comp_def]
    · rintro _ _ ⟨⟩
      rfl

end Engine
end GatedFlow
