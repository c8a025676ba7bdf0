import GatedFlow.Proofs.Run.Pause
import Mathlib

/-! # Pausing is transparent

A run that pauses for approvals, and is resumed after each of them, does the work of the run in which no node needs
approval: both do the work of the same walk (`walk_of_drive`, `drive_brings`). The simulation cuts the walk wherever
the policy says so; what carries over a cut is the state of the thread and the frontier that is kept in it. -/

namespace GatedFlow

namespace Engine

variable (E : Engine) (patience : Nat) (thread : String) (approver : Request → String)
  (comment : Request → Option String)

def approving (request : Request) (w : World) : World :=
  ((Command.desk (.decide (.number request.record.id) (.approve (approver request) (comment request)))).run E.rules w).2

/-- A run is pursued to its end: as long as it ends interrupted, its request is approved and its thread resumed. The
work that is reported is the work after the first piece. -/
inductive Pursued : StepReply × World → List Event → Except FlowError Outcome → World → Prop
  | ended {r : Except FlowError Outcome} {replies : List (Option Reply)} {w : World}
      (hr : ∀ node request, r ≠ .ok (.interrupted node request)) : Pursued (.ran (some r) replies, w) [] r w
  | resumed {node : String} {request : Request} {replies : List (Option Reply)} {w w' : World} {events : List Event}
      {r : Except FlowError Outcome}
      (h : Pursued (E.stepWithin patience (.resume thread []) (E.approving approver comment request w)) events r w') :
      Pursued (.ran (some (.ok (.interrupted node request))) replies, w)
        (workOf (E.stepTrace patience (.resume thread []) (E.approving approver comment request w)) ++ events) r w'

variable {E patience thread approver comment}

theorem Pursued.det {x : StepReply × World} {events events' : List Event} {r r' : Except FlowError Outcome}
    {w w' : World} (h : E.Pursued patience thread approver comment x events r w)
    (h' : E.Pursued patience thread approver comment x events' r' w') : events = events' ∧ r = r' ∧ w = w' := by
  induction h generalizing events' r' w' with
  | ended hr =>
    cases h' with
    | ended _ => exact ⟨rfl, rfl, rfl⟩
    | resumed _ => exact absurd rfl (hr _ _)
  | resumed _ ih =>
    cases h' with
    | ended hr => exact absurd rfl (hr _ _)
    | resumed h' =>
      obtain ⟨rfl, rfl, rfl⟩ := ih h'
      exact ⟨rfl, rfl, rfl⟩

variable (E patience thread approver comment) in
/-- A run that is pursued from here on reports this work, leaves this state and ends this way. -/
def Brings (p : Run Outcome) (events : List Event) (s : State) (error? : Option FlowError) (c : Course) : Prop :=
  E.wp p (fun tr r c' => ∃ result events' r' w', r = some result ∧
    E.Pursued patience thread approver comment (.ran (some result) [], c'.world) events' r' w' ∧
    workOf tr ++ events' = events ∧ EndsAs error? s r' ∧ w'.store.snapshots.get? thread = some s) c

variable {node : String} {rest : List String} {s s' : State} {events : List Event} {error? : Option FlowError} {n : Nat}

theorem free_brings {left : Nat} {visited : List String} {c : Course}
    (hgo : ∀ {approved : Option String} {c : Course}, c.world.store.Holds thread s →
      E.Brings patience thread approver comment (E.goOn thread node rest approved visited s left) events s' error? c)
    (hs : c.world.store.Holds thread s) :
    E.Brings patience thread approver comment (E.drive thread left (node :: rest) (some node) visited) events s' error? c := by
  unfold Brings
  rw [drive_cons]
  refine wp_load_bind hs fun s₁ hs₁ => ?_
  rw [passGate, if_pos (beq_self_eq_true _)]
  exact hgo hs₁

/-- A thread that was paused before a node and whose request is approved goes on with that node. -/
theorem resume_pursued (hrules : E.rules = ⟨none, .lenient⟩) (hvalid : E.config.validate = .ok ()) {request : Request}
    {w : World} (hcurrent : w.desk.current? thread = some request) (hstatus : request.status = .approved)
    (hnode : request.record.node = node) (hplain : s.fields.Plain)
    (hs : w.store.Holds thread (s.set pendingField (frontierValue (node :: rest))))
    (hgo : ∀ {approved : Option String} {c : Course}, c.world.store.Holds thread s → E.Brings patience thread approver
      comment (E.goOn thread node rest approved [] s E.config.maxSteps) events s' error? c) :
    ∃ events' r' w', E.Pursued patience thread approver comment (E.stepWithin patience (.resume thread []) w) events' r' w' ∧
      workOf (E.stepTrace patience (.resume thread []) w) ++ events' = events ∧ EndsAs error? s' r' ∧
      w'.store.snapshots.get? thread = some s' := by
  have hresume : E.Brings patience thread approver comment (E.resume thread) events s' error? (.start patience w []) := by
    unfold Brings resume
    rw [wp_bind]
    refine wp_mono (prepare_ready (c := .start patience w []) hrules hvalid hcurrent hstatus hnode hplain hs) fun tr r c₁ h => ?_
    obtain ⟨htr, rfl, hs₁⟩ := h
    refine wp_mono (free_brings hgo hs₁) fun tr' r c' h => ?_
    rw [workOf_append, htr]
    exact h
  obtain ⟨result, events', r', w', hresult, h⟩ := hresume
  refine ⟨events', r', w', ?_, h.2⟩
  rw [stepWithin_resume, hresult]
  exact h.1

theorem drive_cons_brings (hrules : E.rules = ⟨none, .lenient⟩) (hmode : E.config.mode = .pause)
    (hvalid : E.config.validate = .ok ()) (hn : n ≤ E.config.maxSteps) {left : Nat} (hleft : n ≤ left)
    (hgo : ∀ {left : Nat} {approved : Option String} {visited : List String} {c : Course}, n ≤ left →
      c.world.store.Holds thread s →
      E.Brings patience thread approver comment (E.goOn thread node rest approved visited s left) events s' error? c)
    {approved : Option String} {visited : List String} {c : Course} (hplain : s.fields.Plain)
    (hs : c.world.store.Holds thread s) :
    E.Brings patience thread approver comment (E.drive thread left (node :: rest) approved visited) events s' error? c := by
  by_cases hfree : approved = some node
  · rw [hfree]
    exact free_brings (hgo hleft) hs
  unfold Brings
  rw [drive_cons]
  refine wp_load_bind hs fun s₁ hs₁ => ?_
  rw [passGate, if_neg (by simpa using hfree)]
  cases hreason : (c.withStore s₁).world.desk.policy.reason? s node with
  | none => exact wp_gate_bind_of_none hreason (hgo hleft hs₁)
  | some reason =>
    rw [wp_bind]
    refine wp_mono (gate_pauses (by rw [hrules]) hmode hreason hplain hs₁) fun tr r c' h => ?_
    obtain ⟨htr, request, rfl, hawaits, hs'⟩ := h
    -- the run ends here; what is pursued is the resumed thread, whose first node passes its gate unasked
    obtain ⟨q, hcurrent, hstatus, hnode⟩ := hawaits.approve (approver request) (comment request)
    have hdesk : (E.approving approver comment request c'.world).desk =
        (c'.world.desk.resolve request.record.id (.approve (approver request) (comment request))).2 :=
      DeskCommand.decide_snd c'.world.desk (.number request.record.id) (.approve (approver request) (comment request))
    rw [← hdesk] at hcurrent
    obtain ⟨events', r', w', hpursued, hevents, hends⟩ :=
      resume_pursued hrules hvalid hcurrent hstatus hnode hplain hs' (hgo hn)
    refine ⟨_, _, r', w', rfl, .resumed hpursued, ?_, hends⟩
    rw [workOf_cons_of_news rfl, workOf_append, htr]
    exact hevents

/-- A run that may pause anywhere, pursued to its end, does the work of a walk. -/
theorem drive_brings (hrules : E.rules = ⟨none, .lenient⟩) (hmode : E.config.mode = .pause)
    (hvalid : E.config.validate = .ok ()) (hupdates : ∀ node s update, E.graph.execute node s = .ok update → update.Plain)
    {frontier : List String} (hwalk : E.graph.Walk thread n frontier s events s' error?) (hn : n ≤ E.config.maxSteps)
    {left : Nat} (hleft : n ≤ left) {approved : Option String} {visited : List String} {c : Course}
    (hplain : s.fields.Plain) (hs : c.world.store.Holds thread s) :
    E.Brings patience thread approver comment (E.drive thread left frontier approved visited) events s' error? c := by
  induction hwalk generalizing left approved visited c with
  | done s =>
    unfold Brings
    rw [drive_nil]
    refine wp_load_bind hs fun s₁ hs₁ => ?_
    have hends : EndsAs none s (.ok (.completed s visited)) := ⟨visited, rfl⟩
    exact ⟨_, [], _, _, rfl, .ended hends.not_interrupted, rfl, hends, hs₁.stored⟩
  | @failed node s e rest hexecute =>
    refine drive_cons_brings hrules hmode hvalid hn hleft (fun {left approved visited c} hleft hs => ?_) hplain hs
    obtain ⟨left, rfl⟩ := Nat.exists_eq_add_of_le' hleft
    unfold Brings
    rw [goOn, wp_bind]
    refine wp_mono (perform_spec (by rw [hrules]) hs) fun tr r c₁ h => ?_
    have hperformed := h.1
    rw [Performed, hexecute] at hperformed
    obtain ⟨rfl, htr, hs₁⟩ := hperformed
    have hends : EndsAs (some e) s (.error e) := rfl
    refine ⟨_, [], _, _, rfl, .ended hends.not_interrupted, ?_, hends, hs₁.stored⟩
    rw [htr]
    rfl
  | @step node rest targets s s' update n events error? hupdate hnext hwalk ih =>
    refine drive_cons_brings hrules hmode hvalid hn hleft (fun {left approved visited c} hleft hs => ?_) hplain hs
    obtain ⟨left, rfl⟩ := Nat.exists_eq_add_of_le' (Nat.le_of_add_left_le hleft)
    unfold Brings
    rw [goOn, wp_bind]
    refine wp_mono (perform_spec (by rw [hrules]) hs) fun tr r c₁ h => ?_
    have hperformed := h.1
    rw [Performed, hupdate] at hperformed
    dsimp only at hperformed
    rw [hnext] at hperformed
    obtain ⟨hs₁, rfl, htr⟩ := hperformed
    have hplain₁ : (s.merge update).fields.Plain := hplain.merge (hupdates node s update hupdate)
    have hleft₁ : n ≤ left := by omega
    refine wp_mono (ih (by omega) hleft₁ hplain₁ hs₁) fun tr' r c' h => ?_
    obtain ⟨result, events', r', w', hr, hpursued, hevents, hends⟩ := h
    refine ⟨result, events', r', w', hr, hpursued, ?_, hends⟩
    rw [workOf_append, htr, List.append_assoc, hevents]

theorem wp_invoke (hschema : E.rules.schema = none) (hvalid : E.config.validate = .ok ()) {initial : State} {c : Course}
    {Q : List RunMoment → Option (Except FlowError Outcome) → Course → Prop} (hreliable : c.world.store.Reliable)
    (hrun : ∀ s', s'.Holds thread (initial.remove pendingField) →
      E.wp (E.drive thread E.config.maxSteps [E.graph.entry] none []) (fun tr =>
        Q (⟨.edit (Edit.saveState none thread (initial.remove pendingField)), some (.ok ()), c⟩ :: tr))
        (c.withStore s')) : E.wp (E.invoke thread initial) Q c := by
  unfold invoke
  rw [wp_bind, checkConfig, wp_ofExcept, hvalid]
  show E.wp _ _ c
  rw [hschema]
  refine wp_edit_bind hreliable (Edit.does_saveState fun _ => ⟨(), rfl⟩) fun _ s' h hs' => ?_
  exact hrun s' ⟨hs', by rw [h, Record.get?_insert, if_pos rfl]⟩

theorem invoke_valid {initial : State} {c : Course} {r : Except FlowError Outcome}
    (h : (E.outcome (E.invoke thread initial) c).1 = some r) (hr : ∀ e, r ≠ .error (.config e)) :
    E.config.validate = .ok () := by
  have hw : E.wp (E.invoke thread initial) (fun _ r _ => (∃ e, r = some (.error (.config e))) ∨
      E.config.validate = .ok ()) c := by
    unfold invoke
    rw [wp_bind, checkConfig, wp_ofExcept]
    cases E.config.validate with
    | error p => exact .inl ⟨_, rfl⟩
    | ok u => exact wp_mono (Q := fun _ _ _ => True) trivial fun _ _ _ _ => .inr rfl
  rcases hw with ⟨e, he⟩ | hvalid
  · rw [h, Option.some.injEq] at he
    exact absurd he (hr e)
  · exact hvalid

end Engine

/-- Two runs end the same way: completed in the same state, or with the same error of the same node. -/
inductive SameEnd : Except FlowError Outcome → Except FlowError Outcome → Prop
  | completed (s : State) (visited visited' : List String) :
      SameEnd (.ok (.completed s visited)) (.ok (.completed s visited'))
  | nodeFailed (node text : String) : SameEnd (.error (.nodeFailed node text)) (.error (.nodeFailed node text))

/-- If a run in which no node needs approval completes or fails in a node, then the run under any policy, pursued
through its pauses, comes to its end after finitely many of them: the same end, with the same stored state and the
same work reported on the way. -/
theorem pausing_transparent {E : Engine} {patience : Nat} {thread : String} {initial : State} {w₀ w₁ w : World}
    {r₀ : Except FlowError Outcome} (approver : Request → String) (comment : Request → Option String)
    (hrules : E.rules = ⟨none, .lenient⟩) (hmode : E.config.mode = .pause)
    (hupdates : ∀ node s update, E.graph.execute node s = .ok update → update.Plain) (hinitial : initial.fields.Plain)
    (hlenient : w₀.desk.policy.Lenient) (hreliable₀ : w₀.store.Reliable) (hreliable : w.store.Reliable)
    (hrun : E.stepWithin patience (.invoke thread initial []) w₀ = (.ran (some r₀) [], w₁))
    (hend : (∃ s visited, r₀ = .ok (.completed s visited)) ∨ ∃ node text, r₀ = .error (.nodeFailed node text)) :
    ∃ events r w', E.Pursued patience thread approver comment (E.stepWithin patience (.invoke thread initial []) w)
        events r w' ∧ SameEnd r₀ r ∧ w'.store.snapshots.get? thread = w₁.store.snapshots.get? thread ∧
      workOf (E.stepTrace patience (.invoke thread initial []) w) ++ events =
        workOf (E.stepTrace patience (.invoke thread initial []) w₀) := by
  have hschema : E.rules.schema = none := by rw [hrules]
  have hplain : (initial.remove pendingField).fields.Plain := by
    refine ⟨(State.get?_remove ..).trans ?_, (State.get?_remove ..).trans (if_pos rfl)⟩
    split
    · rfl
    · exact hinitial.1
  rw [Engine.stepWithin_invoke, Prod.mk.injEq, StepReply.ran.injEq] at hrun
  obtain ⟨⟨hresult, -⟩, rfl⟩ := hrun
  have hvalid : E.config.validate = .ok () := by
    refine Engine.invoke_valid hresult fun e he => ?_
    rcases hend with ⟨_, _, rfl⟩ | ⟨_, _, rfl⟩ <;> cases he
  -- the ungated run does the work of a walk, which the gated one does as well
  have hwalk : E.wp (E.invoke thread initial)
      (E.Walks thread E.config.maxSteps [E.graph.entry] (initial.remove pendingField)) (.start patience w₀ []) :=
    Engine.wp_invoke hschema hvalid hreliable₀ fun s' hs' => Engine.walk_of_drive hschema hlenient hs'
  obtain ⟨n, s', error?, hn, hwalk, hends, hstored⟩ := hwalk r₀ hresult hend
  have hbrings : E.Brings patience thread approver comment (E.invoke thread initial) _ s' error? (.start patience w []) :=
    Engine.wp_invoke hschema hvalid hreliable fun s₁ hs₁ =>
      Engine.drive_brings hrules hmode hvalid hupdates hwalk hn hn hplain hs₁
  obtain ⟨result, events, r, w', hresult', hpursued, hevents, hends', hstored'⟩ := hbrings
  refine ⟨events, r, w', ?_, ?_, hstored'.trans hstored.symm, hevents⟩
  · rw [Engine.stepWithin_invoke, hresult']
    exact hpursued
  · cases error? with
    | none =>
      obtain ⟨visited, rfl⟩ := hends
      obtain ⟨visited', rfl⟩ := hends'
      exact .completed s' visited visited'
    | some e =>
      obtain rfl : r₀ = .error e := hends
      obtain rfl : r = .error e := hends'
      obtain ⟨_, _, h⟩ | ⟨node, text, h⟩ := hend
      · cases h
      · cases h; exact .nodeFailed node text

/-- An engine for two nodes one after the other, of which the second fails. -/
def failingPair : Engine where
  graph := .ofParts [⟨"a", .assign (Record.empty.insert "x" (.bool true)), .empty⟩, ⟨"b", .fail "no", .empty⟩]
    [⟨"a", "b", none, .empty⟩] "a" .empty .empty
  config := .standard
  rules := ⟨none, .lenient⟩
  registry := 0

theorem failingPair_updates (node : String) (s : State) (update : Fields)
    (h : failingPair.graph.execute node s = .ok update) : update.Plain := by
  unfold Graph.execute at h
  split at h
  · cases h
  · rename_i found hfound
    obtain ⟨i, -, hi⟩ := Option.bind_eq_some_iff.1 hfound
    obtain _ | ⟨_, _ | ⟨_, ⟨⟩⟩⟩ := List.mem_of_getElem? hi
    · cases h
      exact ⟨by decide +kernel, by decide +kernel⟩
    · cases h

theorem pausing_transparent_failingPair :
    let w₀ := World.fresh [] [] none
    let w := ((Command.desk (.addAlways "b")).run ⟨none, .lenient⟩ w₀).2
    ∃ events r w', failingPair.Pursued patience "t" (fun _ => "operator") (fun _ => none)
        (failingPair.stepWithin patience (.invoke "t" .empty []) w) events r w' ∧
      SameEnd (.error (.nodeFailed "b" "no")) r ∧
      w'.store.snapshots.get? "t" = (failingPair.stepWithin patience (.invoke "t" .empty []) w₀).2.store.snapshots.get? "t" ∧
      workOf (failingPair.stepTrace patience (.invoke "t" .empty []) w) ++ events =
        workOf (failingPair.stepTrace patience (.invoke "t" .empty []) w₀) := by
  intro w₀ w
  have hrun : (failingPair.stepWithin patience (.invoke "t" .empty []) w₀).1 =
      .ran (some (.error (.nodeFailed "b" "no"))) [] := by cbv
  exact pausing_transparent (fun _ => "operator") (fun _ => none) rfl rfl failingPair_updates ⟨rfl, rfl⟩ ⟨rfl, rfl⟩
    Store.reliable_empty Store.reliable_empty (Prod.ext hrun rfl) (.inr ⟨"b", "no", rfl⟩)

end GatedFlow
