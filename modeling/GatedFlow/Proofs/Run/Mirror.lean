import GatedFlow.Proofs.Graph.Built
import GatedFlow.Proofs.Run.Failures
import GatedFlow.Proofs.Run.Refusal

/-! # The kept frontier as the mirror of a run

In a run that pauses for approvals the field for the frontier is empty from gate to gate and holds the frontier when the
run stops. The frontier consists of declared nodes of the graph, none twice, from the entry point on and through every
round; a run that is resumed begins with such a frontier again, or with the approved node alone (`Rounds.mirrors`). -/

namespace GatedFlow

/-- How a run on a thread ends for good: nothing of it is left to be taken up. -/
inductive EndsForGood : Except FlowError Outcome → Prop
  | completed (s : State) (visited : List String) : EndsForGood (.ok (.completed s visited))
  | rejected (node : String) (request : Request) : EndsForGood (.ok (.rejected node request))
  | nodeFailed (node text : String) : EndsForGood (.error (.nodeFailed node text))
  | stepLimit (thread : String) (limit : Nat) : EndsForGood (.error (.stepLimit thread limit))

theorem EndsForGood.not_error {e : FlowError} (h : e.OfStore ∨ e.refuses = true) : ¬EndsForGood (.error e) := by
  rintro (_ | _)
  all_goals
    rcases h with ⟨p, hp, -⟩ | h
    · cases hp
    · cases h

namespace Graph

variable {g : Graph} {thread node : String} {frontier rest targets : List String}

/-- Declared nodes of a graph, none twice. -/
structure IsFrontier (g : Graph) (frontier : List String) : Prop where
  nodup : frontier.Nodup
  declared : ∀ node ∈ frontier, g.declares node = true

theorem IsFrontier.singleton (h : g.declares node = true) : g.IsFrontier [node] :=
  ⟨by simp, fun _ hmem => by rwa [List.mem_singleton.1 hmem]⟩

theorem IsFrontier.join (h : g.IsFrontier (node :: rest)) (htargets : ∀ target ∈ targets, g.declares target = true) :
    g.IsFrontier (joinFrontier rest targets) where
  nodup := nodup_joinFrontier (List.nodup_cons.1 h.nodup).2
  declared := fun n hn => (mem_joinFrontier.1 hn).elim (fun hrest => h.declared n (List.mem_cons_of_mem _ hrest)) (htargets n)

/-- What is kept for a thread, if anything, is a frontier. -/
def Mirrored (g : Graph) (thread : String) (snapshots : Record State) : Prop :=
  ∀ value, pendingIn snapshots thread = some value → ∃ frontier, value = frontierValue frontier ∧ g.IsFrontier frontier

theorem mirrored_of_none {snapshots : Record State} (h : pendingIn snapshots thread = none) : g.Mirrored thread snapshots :=
  fun _ hvalue => by cases h.symm.trans hvalue

theorem mirrored_of_frontier {snapshots : Record State} (h : pendingIn snapshots thread = some (frontierValue frontier))
    (hfrontier : g.IsFrontier frontier) : g.Mirrored thread snapshots :=
  fun _ hvalue => ⟨frontier, Option.some.inj (hvalue.symm.trans h), hfrontier⟩

/-- The field for the frontier of a thread mirrors how a run has ended. -/
structure Mirrors (g : Graph) (thread : String) (r : Option (Except FlowError Outcome)) (snapshots : Record State) : Prop where
  mirrored : g.Mirrored thread snapshots
  interrupted : ∀ node request, r = some (.ok (.interrupted node request)) → ∃ rest,
    pendingIn snapshots thread = some (frontierValue (node :: rest)) ∧ g.IsFrontier (node :: rest)
  cleared : ∀ result, r = some result → EndsForGood result → pendingIn snapshots thread = none

theorem Mirrors.of_none {snapshots : Record State} {r : Option (Except FlowError Outcome)}
    (h : pendingIn snapshots thread = none) (hr : ∀ node request, r ≠ some (.ok (.interrupted node request))) :
    g.Mirrors thread r snapshots where
  mirrored := mirrored_of_none h
  interrupted node request hr' := absurd hr' (hr node request)
  cleared _ _ _ := h

theorem Mirrors.of_unended {snapshots : Record State} (h : g.Mirrored thread snapshots) :
    g.Mirrors thread none snapshots where
  mirrored := h
  interrupted := by rintro _ _ ⟨⟩
  cleared := by rintro _ ⟨⟩

theorem Mirrors.of_error {snapshots : Record State} {e : FlowError} (h : g.Mirrored thread snapshots)
    (he : e.OfStore ∨ e.refuses = true) : g.Mirrors thread (some (.error e)) snapshots where
  mirrored := h
  interrupted := by rintro _ _ ⟨⟩
  cleared := by
    rintro _ ⟨⟩ hends
    exact absurd hends (EndsForGood.not_error he)

/-- A frontier for a run to begin with: one of the graph, or the node that it may carry out unasked. -/
def Begins (g : Graph) (frontier : List String) (approved : Option String) : Prop :=
  g.IsFrontier frontier ∨ ∃ node, frontier = [node] ∧ approved = some node

end Graph

namespace Engine

variable {E : Engine} {g : Graph} {c c' : Course} {thread node : String} {rest : List String} {s : State}
  {tr : List RunMoment}

theorem pause_mirrors {request : Request} (hpending : pendingIn c.world.store.snapshots thread = none)
    (hfrontier : g.IsFrontier (node :: rest)) : E.wp (E.pause thread node rest request) (fun _ r c' =>
      g.Mirrors thread r c'.world.store.snapshots) c := by
  refine wp_mono (wp_and pause_pending (wp_and pause_interrupts (pause_fails rest request c))) fun _ r c' h => ?_
  obtain ⟨⟨-, hkeeps, hfails⟩, ⟨-, hinterrupts⟩, hstore⟩ := h
  have hmirrored : g.Mirrored thread c'.world.store.snapshots := by
    by_cases hk : E.Keeps thread (node :: rest) c.world.store
    · exact Graph.mirrored_of_frontier (hkeeps hk) hfrontier
    · exact Graph.mirrored_of_none ((hfails hk).trans hpending)
  rcases r with _ | (e | outcome)
  · exact .of_unended hmirrored
  · exact .of_error hmirrored (.inl (hstore e rfl))
  · obtain ⟨rfl, hkept⟩ := hinterrupts outcome rfl
    refine ⟨hmirrored, ?_, ?_⟩
    · rintro _ _ ⟨⟩
      exact ⟨rest, hkept, hfrontier⟩
    · rintro _ ⟨⟩ ⟨⟩

/-- A run that stops at a gate where it does not wait keeps its frontier. -/
theorem gate_mirrors (hmode : E.config.mode = .pause) (hpending : pendingIn c.world.store.snapshots thread = none)
    (hfrontier : g.IsFrontier (node :: rest)) : E.wp (E.gate thread node s rest) (fun _ r c' =>
      ∀ r' : Option (Except FlowError Outcome), r = r'.map (·.map some) →
        g.Mirrors thread r' c'.world.store.snapshots) c := by
  refine wp_gate (fun _ _ _ _ _ r' hr => ?_) (fun _ _ d r₀ _ => ?_) fun hwait _ _ _ _ => ?_
  · rcases r' with _ | (e | outcome) <;> cases hr
  · refine wp_mono (pause_mirrors (c := c.withDesk d) hpending hfrontier) fun _ r c' h r' hr => ?_
    obtain rfl : r = r' := by
      rcases r with _ | (e | outcome) <;> rcases r' with _ | (e' | outcome') <;> cases hr <;> rfl
    exact h
  · rw [hmode] at hwait
    cases hwait

/-- The rounds of a run that does not wait, from a frontier while none is kept. -/
theorem Rounds.mirrors {commands : List Command} (hmode : E.config.mode = .pause) (hclosed : E.graph.Closed)
    (hkept : E.Kept thread fun c => c.Unkept thread commands) {left : Nat} {frontier visited : List String}
    {approved : Option String} {r : Option (Except FlowError Outcome)}
    (h : E.Rounds thread left frontier approved visited c tr r c') (hc : c.Unkept thread commands)
    (hfrontier : E.graph.Begins frontier approved) : E.graph.Mirrors thread r c'.world.store.snapshots := by
  induction h with
  | unread hload => exact .of_none (hkept.loaded hload hc).pending fun _ _ h => (by cases h)
  | completed hload => exact .of_none (hkept.loaded hload hc).pending fun _ _ h => (by cases h)
  | @stopped left node rest visited approved c c' s store r hasked hload hgate =>
    have hc := hkept.loaded hload hc
    -- a node that may be carried out unasked is not stopped at
    have hfrontier : E.graph.IsFrontier (node :: rest) := by
      refine hfrontier.resolve_right ?_
      rintro ⟨node', hnode, rfl⟩
      obtain ⟨rfl, -⟩ := List.cons.inj hnode
      simp at hasked
    exact (wp_iff_of_outcome hgate).1 (gate_mirrors hmode hc.pending hfrontier) r rfl
  | exhausted hpass => exact .of_none (hpass.kept hkept hc).pending fun _ _ h => (by cases h)
  | @broken left node rest visited approved c c₁ c' s tr e? hpass hperform =>
    exact .of_none (hkept.performed hperform (hpass.kept hkept hc)).pending fun _ _ h => (by cases e? <;> cases h)
  | @round left node rest targets visited approved c c₁ c₂ c' s tr tr' r hpass hperform _ ih =>
    have hc₂ := hkept.performed hperform (hpass.kept hkept hc)
    obtain ⟨-, s', hs'⟩ := (wp_iff_of_outcome hperform).1 (perform_goes thread node s c₁) targets rfl
    -- a node that goes on is declared, even if it was not known to be so before
    have hfrontier : E.graph.IsFrontier (node :: rest) := by
      rcases hfrontier with h | ⟨_, hnode, -⟩
      · exact h
      · obtain ⟨rfl, rfl⟩ := List.cons.inj hnode
        exact .singleton (Graph.declares_of_next hs')
    exact ih hc₂ (.inl (hfrontier.join (hclosed.next node s' targets hs')))

/-- A run that does not wait and whose nodes do not write the field for the frontier leaves there what mirrors its end. -/
theorem drive_mirrors (hmode : E.config.mode = .pause) (hclosed : E.graph.Closed)
    (hupdates : ∀ node s update, E.graph.execute node s = .ok update → update.get? pendingField = none)
    {left : Nat} {frontier visited : List String} {approved : Option String}
    (hpending : pendingIn c.world.store.snapshots thread = none) (hfrontier : E.graph.Begins frontier approved) :
    E.wp (E.drive thread left frontier approved visited) (fun _ r c' =>
      E.graph.Mirrors thread r c'.world.store.snapshots) c := by
  have hkept : E.Kept thread fun c' => c'.Unkept thread (c.agenda.map (·.command)) :=
    kept_unkept hupdates fun hwait => by rw [hmode] at hwait; cases hwait
  have hc : c.Unkept thread (c.agenda.map (·.command)) := ⟨hpending, fun a ha => List.mem_map_of_mem ha⟩
  exact wp_mono (drive_rounds left frontier approved visited c) fun _ _ _ h => h.mirrors hmode hclosed hkept hc hfrontier

end Engine
end GatedFlow
