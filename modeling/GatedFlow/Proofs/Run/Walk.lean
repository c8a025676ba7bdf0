import GatedFlow.Proofs.Approval.Growth
import GatedFlow.Proofs.Run.Drive
import GatedFlow.Proofs.Run.Edits
import GatedFlow.Proofs.Run.Quiet

/-! # The walk behind a run

`Graph.Walk` is the work of a run without approvals and failures of the store: which nodes are carried out on which
state, and how it ends. A run in which no node needs approval and whose store does not fail does the work of a walk
(`walk_of_drive`). -/

namespace GatedFlow

/-- Whether an event reports work: a node that is entered or an edge that is followed. -/
def Event.isWork : Event → Bool
  | nodeEntered .. => true
  | edgeTraversed .. => true
  | _ => false

def workOf (tr : List RunMoment) : List Event := (tr.flatMap RunMoment.news).filter Event.isWork

@[simp] theorem workOf_append (tr tr' : List RunMoment) : workOf (tr ++ tr') = workOf tr ++ workOf tr' := by
  simp [workOf]

theorem workOf_cons_of_news {m : RunMoment} (h : m.news.filter Event.isWork = []) (tr : List RunMoment) :
    workOf (m :: tr) = workOf tr := by
  rw [workOf, List.flatMap_cons, List.filter_append, h]
  rfl

theorem workOf_of_silent {tr : List RunMoment} (h : ∀ m ∈ tr, m.news = []) : workOf tr = [] := by
  rw [workOf, List.flatMap_eq_nil_iff.2 h]
  rfl

/-- The work off a frontier in `n` node executions: from a state and a frontier to the reported events, the state at
the end and the error of the node that failed, if one did. -/
inductive Graph.Walk (g : Graph) (thread : String) :
    Nat → List String → State → List Event → State → Option FlowError → Prop
  | done (s : State) : Walk g thread 0 [] s [] s none
  | failed {node : String} {s : State} {e : FlowError} (rest : List String) (h : g.execute node s = .error e) :
      Walk g thread 1 (node :: rest) s [.nodeEntered thread node] s (some e)
  | step {node : String} {rest targets : List String} {s s' : State} {update : Fields} {n : Nat} {events : List Event}
      {error? : Option FlowError} (hupdate : g.execute node s = .ok update)
      (hnext : g.next node (s.merge update) = .ok targets)
      (h : Walk g thread n (joinFrontier rest targets) (s.merge update) events s' error?) :
      Walk g thread (n + 1) (node :: rest) s
        (.nodeEntered thread node :: targets.map (.edgeTraversed thread node) ++ events) s' error?

/-- How a run ends: completed in a state, or with the error of a node. -/
def EndsAs (error? : Option FlowError) (s : State) (r : Except FlowError Outcome) : Prop :=
  match error? with
  | none => ∃ visited, r = .ok (.completed s visited)
  | some e => r = .error e

theorem EndsAs.not_interrupted {error? : Option FlowError} {s : State} {r : Except FlowError Outcome}
    (h : EndsAs error? s r) (node : String) (request : Request) : r ≠ .ok (.interrupted node request) := by
  cases error? with
  | none =>
    obtain ⟨visited, rfl⟩ := h
    exact fun h => by cases h
  | some e =>
    obtain rfl : r = .error e := h
    exact fun h => by cases h

theorem Graph.nextFailures_isWork (g : Graph) (node : String) (s : State) :
    (g.nextFailures node s).filter Event.isWork = [] := by
  refine List.filter_eq_nil_iff.2 fun event h => ?_
  unfold nextFailures at h
  split at h
  · split at h
    all_goals
      obtain ⟨asked, -, hfailed⟩ := List.mem_filterMap.1 h
      obtain ⟨error, -, rfl⟩ := Option.map_eq_some_iff.1 hfailed
      exact Bool.false_ne_true
  · cases h

theorem edgeTraversed_isWork (thread node : String) (targets : List String) :
    (targets.map (Event.edgeTraversed thread node)).filter Event.isWork = targets.map (.edgeTraversed thread node) := by
  refine List.filter_eq_self.2 fun event h => ?_
  obtain ⟨target, -, rfl⟩ := List.mem_map.1 h
  rfl

theorem Graph.next_ne_nodeFailed (g : Graph) (node : String) (s : State) (name text : String) :
    g.next node s ≠ .error (.nodeFailed name text) := by
  unfold next traversable outgoing require
  split
  · split <;> exact fun h => by cases h
  · exact fun h => by cases h

def Policy.Lenient (p : Policy) : Prop := p.conditions = [] ∧ p.always = []

theorem Policy.Lenient.reason? {p : Policy} (h : p.Lenient) (s : State) (node : String) : p.reason? s node = none := by
  simp [Policy.reason?, h.1, h.2]

namespace Engine

variable {β : Type} {E : Engine} {c : Course} {thread node : String} {s : State}

theorem does_modify {st : State} (hs : c.world.store.Holds thread st) (update : Fields) :
    (Edit.modify none thread update).Does c.world.store True fun st' m =>
      st' = st.merge update ∧ m = c.world.store.snapshots.insert thread (st.merge update) := by
  refine (Edit.does_modify fun _ => ⟨st, hs.stored, rfl⟩).mono fun st' m h => ?_
  obtain ⟨st₁, hst₁, rfl, rfl⟩ := h
  obtain rfl : st = st₁ := by rw [hs.stored, Option.some.injEq] at hst₁; exact hst₁
  exact ⟨rfl, rfl⟩

theorem mergeUpdate_spec (hschema : E.rules.schema = none) (hs : c.world.store.Holds thread s) (update : Fields) :
    E.wp (E.mergeUpdate thread s update) (fun tr r c' => r = some (.ok (s.merge update)) ∧ workOf tr = [] ∧
      c'.world.desk = c.world.desk ∧ c'.world.store.Holds thread (s.merge update)) c := by
  unfold mergeUpdate
  split
  · rename_i hempty
    have hmerge : s.merge update = s := congrArg State.mk (Record.merge_of_isEmpty hempty)
    rw [hmerge]
    exact ⟨rfl, rfl, rfl, hs⟩
  · rw [hschema, ← bind_pure (Run.ofEdit _)]
    refine wp_edit_bind hs.reliable (does_modify hs update) fun st s' hst hs' => ?_
    refine ⟨by rw [hst.1]; rfl, rfl, rfl, hs', ?_⟩
    show s'.snapshots.get? thread = _
    rw [hst.2, Record.get?_insert, if_pos rfl]

/-- What carrying out a node comes to, where the node's action and the choice of the next nodes are all that can
fail. -/
def Performed (E : Engine) (thread node : String) (s : State) (tr : List RunMoment)
    (r : Option (Except FlowError (List String))) (store : Store) : Prop :=
  match E.graph.execute node s with
  | .error e => r = some (.error e) ∧ workOf tr = [.nodeEntered thread node] ∧ store.Holds thread s
  | .ok update => store.Holds thread (s.merge update) ∧ match E.graph.next node (s.merge update) with
    | .error e => r = some (.error e)
    | .ok targets => r = some (.ok targets) ∧
      workOf tr = .nodeEntered thread node :: targets.map (.edgeTraversed thread node)

theorem perform_spec (hschema : E.rules.schema = none) (hs : c.world.store.Holds thread s) :
    E.wp (E.perform thread node s) (fun tr r c' => E.Performed thread node s tr r c'.world.store ∧
      c'.world.desk.policy = c.world.desk.policy) c := by
  unfold perform Performed
  rw [wp_bind, wp_tell]
  dsimp only
  rw [wp_bind, wp_execute]
  cases hexecute : E.graph.execute node s with
  | error e => exact ⟨⟨rfl, rfl, hs⟩, Desk.tellAll_policy ..⟩
  | ok update =>
    dsimp only
    rw [wp_bind]
    have hs₀ : (c.withDesk (c.world.desk.tellAll E.registry [.nodeEntered thread node])).world.store.Holds thread s := hs
    refine wp_mono (mergeUpdate_spec hschema hs₀ update) fun tr r c₁ h => ?_
    obtain ⟨rfl, htr, hdesk, hs₁⟩ := h
    dsimp only
    rw [wp_bind, wp_tell]
    dsimp only
    rw [wp_bind, wp_next]
    have hpolicy : ∀ events, (c₁.world.desk.tellAll E.registry events).policy = c.world.desk.policy := by
      intro events
      rw [Desk.tellAll_policy, hdesk]
      exact Desk.tellAll_policy ..
    cases hnext : E.graph.next node (s.merge update) with
    | error e => exact ⟨⟨hs₁, rfl⟩, hpolicy _⟩
    | ok targets =>
      dsimp only
      rw [wp_bind, wp_tell]
      refine ⟨⟨hs₁, rfl, ?_⟩, ?_⟩
      · simp only [workOf_append, htr]
        simp only [workOf, RunMoment.news, List.flatMap_cons, List.flatMap_nil, List.append_nil, List.nil_append,
          E.graph.nextFailures_isWork, edgeTraversed_isWork]
        exact congrArg _ (List.append_nil _)
      · exact (Desk.tellAll_policy ..).trans (hpolicy _)

/-- A node that goes on goes where the graph leads from it, and tells that it is entered and which edges are followed. -/
theorem perform_goes (thread node : String) (s : State) (c : Course) :
    E.wp (E.perform thread node s) (fun tr r _ => ∀ targets, r = some (.ok targets) →
      workOf tr = .nodeEntered thread node :: targets.map (.edgeTraversed thread node) ∧
        ∃ s', E.graph.next node s' = .ok targets) c := by
  unfold perform
  rw [wp_bind, wp_tell]
  dsimp only
  rw [wp_bind, wp_execute]
  cases E.graph.execute node s with
  | error e => rintro _ ⟨⟩
  | ok update =>
    dsimp only
    rw [wp_bind]
    have hmerge : E.Only RunMoment.Clerical (E.mergeUpdate thread s update) := only_ite (only_pure s) (clerical_ofEdit _)
    refine wp_mono (hmerge.wp _) fun tr r c₁ htr => ?_
    have htr : workOf tr = [] := workOf_of_silent fun m hm => (htr m hm).news
    rcases r with _ | (e | s')
    · rintro _ ⟨⟩
    · rintro _ ⟨⟩
    · dsimp only
      rw [wp_bind, wp_tell]
      dsimp only
      rw [wp_bind, wp_next]
      cases hnext : E.graph.next node s' with
      | error e => rintro _ ⟨⟩
      | ok targets =>
        dsimp only
        rw [wp_bind, wp_tell]
        rintro _ ⟨⟩
        refine ⟨?_, s', hnext⟩
        simp only [workOf_append, htr]
        simp only [workOf, RunMoment.news, List.flatMap_cons, List.flatMap_nil, List.append_nil, List.nil_append,
          E.graph.nextFailures_isWork, edgeTraversed_isWork]
        exact congrArg _ (List.append_nil _)

theorem wp_gate_bind_of_none {rest : List String} {f : Option Outcome → Run β}
    {Q : List RunMoment → Option (Except FlowError β) → Course → Prop}
    (hreason : c.world.desk.policy.reason? s node = none)
    (hf : E.wp (f none) (fun tr => Q (⟨.askReason s node, some none, c⟩ :: tr))
      (c.withDesk (c.world.desk.askReason s node).2)) :
    E.wp (E.gate thread node s rest >>= f) Q c := by
  rw [wp_bind, gate, wp_bind, wp_askReason, hreason]
  exact hf

/-- A run off a frontier that completes or fails in a node has done the work of a walk. -/
def Walks (E : Engine) (thread : String) (left : Nat) (frontier : List String) (s : State) (tr : List RunMoment)
    (r : Option (Except FlowError Outcome)) (c' : Course) : Prop :=
  ∀ result, r = some result →
    (∃ s v, result = .ok (.completed s v)) ∨ (∃ node text, result = .error (.nodeFailed node text)) →
    ∃ n s' error?, n ≤ left ∧ E.graph.Walk thread n frontier s (workOf tr) s' error? ∧ EndsAs error? s' result ∧
      c'.world.store.snapshots.get? thread = some s'

theorem walk_of_drive_nil {left : Nat} {visited : List String} (hs : c.world.store.Holds thread s) :
    E.wp (E.drive thread left [] none visited) (E.Walks thread left [] s) c := by
  rw [drive_nil]
  refine wp_load_bind hs fun s' hs' => ?_
  rintro _ ⟨⟩ -
  exact ⟨0, s, none, Nat.zero_le left, .done s, ⟨visited, rfl⟩, hs'.stored⟩

/-- A run in which no node needs approval does the work of a walk. -/
theorem walk_of_drive (hschema : E.rules.schema = none) {left : Nat} {frontier visited : List String}
    (hlenient : c.world.desk.policy.Lenient) (hs : c.world.store.Holds thread s) :
    E.wp (E.drive thread left frontier none visited) (E.Walks thread left frontier s) c := by
  induction left generalizing frontier visited s c with
  | zero =>
    cases frontier with
    | nil => exact walk_of_drive_nil hs
    | cons node rest =>
      rw [drive_cons]
      refine wp_load_bind hs fun s' hs' => wp_gate_bind_of_none (hlenient.reason? s node) ?_
      rintro _ ⟨⟩ (⟨_, _, ⟨⟩⟩ | ⟨_, _, ⟨⟩⟩)
  | succ left ih =>
    cases frontier with
    | nil => exact walk_of_drive_nil hs
    | cons node rest =>
      rw [drive_cons]
      refine wp_load_bind hs fun s' hs' => wp_gate_bind_of_none (hlenient.reason? s node) ?_
      dsimp only [goOn]
      rw [wp_bind]
      refine wp_mono (perform_spec hschema hs') fun tr r c₁ h => ?_
      obtain ⟨hperformed, hpolicy⟩ := h
      have hlenient₁ : c₁.world.desk.policy.Lenient := by
        rw [hpolicy, Course.withDesk_desk, Desk.askReason, Desk.tellAll_policy]
        exact hlenient
      unfold Performed at hperformed
      cases hexecute : E.graph.execute node s with
      | error e =>
        rw [hexecute] at hperformed
        obtain ⟨rfl, htr, hs₁⟩ := hperformed
        rintro _ ⟨⟩ -
        refine ⟨1, s, some e, Nat.le_add_left 1 left, ?_, rfl, hs₁.stored⟩
        rw [workOf_cons_of_news rfl, workOf_cons_of_news rfl, htr]
        exact .failed rest hexecute
      | ok update =>
        rw [hexecute] at hperformed
        obtain ⟨hs₁, hnexts⟩ := hperformed
        cases hnext : E.graph.next node (s.merge update) with
        | error e =>
          rw [hnext] at hnexts
          obtain rfl : r = some (.error e) := hnexts
          -- the choice of the next nodes fails with other errors than a node does
          rintro _ ⟨⟩ (⟨_, _, ⟨⟩⟩ | ⟨_, _, ⟨⟩⟩)
          exact absurd hnext (E.graph.next_ne_nodeFailed _ _ _ _)
        | ok targets =>
          rw [hnext] at hnexts
          obtain ⟨rfl, htr⟩ := hnexts
          refine wp_mono (ih hlenient₁ hs₁) fun tr' r c' h result hr hproper => ?_
          obtain ⟨n, s', error?, hn, hwalk, hends, hstored⟩ := h result hr hproper
          refine ⟨n + 1, s', error?, Nat.succ_le_succ hn, ?_, hends, hstored⟩
          rw [workOf_cons_of_news rfl, workOf_cons_of_news rfl, workOf_append, htr]
          exact .step hexecute hnext hwalk

end Engine
end GatedFlow
