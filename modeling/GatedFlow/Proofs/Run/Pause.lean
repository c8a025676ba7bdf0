import GatedFlow.Proofs.Run.Walk
import GatedFlow.Proofs.State.Records

/-! # Pausing and taking up again on a store that does not fail

Where nothing fails, a run that pauses before a node keeps that node and the rest of its frontier in the thread's
state and leaves an open request behind (`gate_pauses`); once the request is approved, resuming finds that frontier
and the state as it was before the pause (`prepare_ready`). -/

namespace GatedFlow

/-- Fields without those in which a run keeps its own business. -/
def Record.Plain (fields : Record Value) : Prop := fields.get? statusField = none ∧ fields.get? pendingField = none

theorem Record.Plain.merge {fields update : Record Value} (h : fields.Plain) (hu : update.Plain) :
    (fields.merge update).Plain :=
  ⟨(get?_merge_of_none hu.1).trans h.1, (get?_merge_of_none hu.2).trans h.2⟩

def keptOf : Option Value → List String
  | some (.array items) => items.filterMap Value.asString?
  | _ => []

theorem keptFrontier_eq (s : State) : keptFrontier s = keptOf (s.get? pendingField) := by
  unfold keptFrontier keptOf
  cases s.get? pendingField with
  | none => rfl
  | some value => cases value <;> rfl

theorem keptOf_frontierValue (frontier : List String) : keptOf (some (frontierValue frontier)) = frontier := by
  show (frontier.map Value.string).filterMap Value.asString? = frontier
  rw [List.filterMap_map]
  exact List.filterMap_some

theorem keptFrontier_set (s : State) (frontier : List String) :
    keptFrontier (s.set pendingField (frontierValue frontier)) = frontier := by
  rw [keptFrontier_eq, State.get?_set, if_pos rfl]
  exact keptOf_frontierValue frontier

namespace Desk

variable {d : Desk} {thread node : String} {request : Request}

structure Awaits (d : Desk) (thread node : String) (request : Request) : Prop where
  current : d.policy.current.get? thread = some request.record.id
  found : d.request? request.record.id = some request
  node_eq : request.record.node = node
  pending : request.status = .pending

theorem createRequest_awaits (d : Desk) (thread node reason : String) (timeout : Option Nat) :
    (d.createRequest thread node reason timeout).2.Awaits thread node (d.createRequest thread node reason timeout).1 where
  current := by
    show (d.policy.current.insert thread d.requests.length).get? thread = _
    rw [Record.get?_insert, if_pos rfl]
    rfl
  found := List.getElem?_concat_length
  node_eq := rfl
  pending := rfl

theorem Awaits.latest (h : d.Awaits thread node request) : d.latest request = request := by
  rw [Desk.latest, h.found]
  rfl

theorem Awaits.approve (h : d.Awaits thread node request) (approver : String) (comment : Option String) :
    ∃ r, (d.resolve request.record.id (.approve approver comment)).2.current? thread = some r ∧
      r.status = .approved ∧ r.record.node = node := by
  obtain ⟨r, hr⟩ : ∃ r, request.resolve (.approve approver comment) d.clock = .ok r :=
    ⟨_, Request.resolve_eq_ok_iff.2 ⟨by rw [h.pending]; rfl, rfl⟩⟩
  obtain ⟨hrequests, hpolicy⟩ := resolve_of_ok h.found hr
  refine ⟨r, ?_, ?_, (Request.Later.of_resolve hr).node_eq.trans h.node_eq⟩
  · rw [current?, hpolicy, h.current, Option.bind_some, request?, hrequests, List.getElem?_set_self (request?_lt h.found)]
  · rw [(Request.resolve_eq_ok_iff.1 hr).2]; rfl

end Desk

namespace Engine

variable {E : Engine} {c : Course} {thread node : String} {s : State}

theorem supportsStatus_of_plain {value : Value} (hplain : s.fields.Plain) :
    Edit.supportsStatus none (s.set pendingField value) = false := by
  have hstatus : (s.set pendingField value).get? statusField = none := by
    rw [State.get?_set, if_neg (by decide)]
    exact hplain.1
  show ((s.set pendingField value).get? statusField).isSome.or false = false
  rw [hstatus]
  rfl

theorem wp_setStatus_bind {β : Type} {f : Bool → Run β} {status : String}
    {Q : List RunMoment → Option (Except FlowError β) → Course → Prop} (hs : c.world.store.Holds thread s)
    (hstatus : Edit.supportsStatus none s = false)
    (hf : ∀ s', s'.Holds thread s →
      E.wp (f false) (fun tr => Q (⟨.edit (Edit.setStatus none thread status), some (.ok false), c⟩ :: tr)) (c.withStore s')) :
    E.wp (Run.ofEdit (Edit.setStatus none thread status) >>= f) Q c := by
  refine wp_edit_bind hs.reliable (Edit.does_setStatus fun _ => ⟨s, hs.stored, fun h => ?_⟩) fun b s' h hs' => ?_
  · rw [hstatus] at h; cases h
  obtain ⟨st, hst, hb, hsnapshots⟩ := h
  obtain rfl : s = st := by rw [hs.stored, Option.some.injEq] at hst; exact hst
  obtain rfl : b = false := hb.trans hstatus
  exact hf s' ⟨hs', by rw [hsnapshots]; exact hs.stored⟩

theorem pause_spec (hschema : E.rules.schema = none) {rest : List String} {request : Request} (hplain : s.fields.Plain)
    (hs : c.world.store.Holds thread s) (hawaits : c.world.desk.Awaits thread node request) :
    E.wp (E.pause thread node rest request) (fun tr r c' => workOf tr = [] ∧
      r = some (.ok (.interrupted node request)) ∧ c'.world.desk.Awaits thread node request ∧
        c'.world.store.Holds thread (s.set pendingField (frontierValue (node :: rest)))) c := by
  unfold pause keep
  rw [hschema]
  refine wp_edit_bind hs.reliable (does_modify hs _) fun st s₁ h₁ hs₁ => ?_
  have hs₁ : s₁.Holds thread (s.set pendingField (frontierValue (node :: rest))) := by
    refine ⟨hs₁, ?_⟩
    rw [h₁.2, Record.get?_insert, if_pos rfl]
    rfl
  refine wp_setStatus_bind hs₁ (supportsStatus_of_plain hplain) fun s₂ hs₂ => ?_
  rw [wp_bind, wp_latest]
  refine ⟨rfl, ?_, hawaits, hs₂⟩
  show some (Except.ok (Outcome.interrupted node (c.world.desk.latest request))) = _
  rw [hawaits.latest]

/-- Before a node that needs approval, a run that does not wait asks for it and pauses. -/
theorem wp_gate_of_reason (hmode : E.config.mode = .pause) {rest : List String} {reason : GateReason}
    (hreason : c.world.desk.policy.reason? s node = some reason)
    {Q : List RunMoment → Option (Except FlowError (Option Outcome)) → Course → Prop}
    (hpause : ∀ d request, d.Awaits thread node request → request.record.id = c.world.desk.requests.length →
      E.wp (E.pause thread node rest request) (fun tr r c' => ∀ asked, workOf asked = [] →
        Q (asked ++ tr) (r.map (·.map some)) c') (c.withDesk d)) : E.wp (E.gate thread node s rest) Q c := by
  unfold gate
  rw [wp_bind, wp_askReason, hreason]
  dsimp only
  rw [wp_bind, wp_createRequest, hmode]
  dsimp only
  rw [wp_bind]
  let d := (c.world.desk.askReason s node).2
  have hlength : d.requests.length = c.world.desk.requests.length := congrArg List.length (Desk.tellAll_requests ..)
  have hawaits := d.createRequest_awaits thread node reason.message E.config.timeout?
  refine wp_mono (hpause _ _ hawaits hlength) fun tr r c' h => ?_
  have h := h [⟨.askReason s node, some (some reason), c⟩, ⟨.createRequest thread node reason.message E.config.timeout?,
    some (d.createRequest thread node reason.message E.config.timeout?).1, c.withDesk d⟩] rfl
  rcases r with _ | (e | outcome)
  · exact h
  · exact h
  · dsimp only
    rw [wp_pure, List.append_nil]
    exact h

/-- Where a run pauses, it keeps the node it pauses before and the rest of its frontier. -/
theorem gate_pauses (hschema : E.rules.schema = none) (hmode : E.config.mode = .pause) {rest : List String}
    {reason : GateReason} (hreason : c.world.desk.policy.reason? s node = some reason) (hplain : s.fields.Plain)
    (hs : c.world.store.Holds thread s) :
    E.wp (E.gate thread node s rest) (fun tr r c' => workOf tr = [] ∧
      ∃ request, r = some (.ok (some (.interrupted node request))) ∧ c'.world.desk.Awaits thread node request ∧
        c'.world.store.Holds thread (s.set pendingField (frontierValue (node :: rest)))) c := by
  refine wp_gate_of_reason hmode hreason fun d request hawaits _ => ?_
  refine wp_mono (pause_spec (c := c.withDesk d) hschema hplain hs hawaits) fun tr r c' h asked hasked => ?_
  obtain ⟨htr, rfl, hawaits', hs'⟩ := h
  exact ⟨by rw [workOf_append, hasked, htr]; rfl, request, rfl, hawaits', hs'⟩

/-- Taking out a kept frontier leaves the state as it was before it was put in. -/
theorem clearPending_spec (hschema : E.rules.schema = none) {frontier : List String} (hplain : s.fields.Plain)
    (hs : c.world.store.Holds thread (s.set pendingField (frontierValue frontier))) :
    E.wp (E.clearPending thread) (fun tr r c' => workOf tr = [] ∧ r = some (.ok ()) ∧ c'.world.desk = c.world.desk ∧
      c'.world.store.Holds thread s) c := by
  have hget : (s.set pendingField (frontierValue frontier)).get? pendingField = some (frontierValue frontier) := by
    rw [State.get?_set, if_pos rfl]
  have hcontains : (s.set pendingField (frontierValue frontier)).contains pendingField = true := by
    show ((s.set pendingField (frontierValue frontier)).get? pendingField).isSome = true
    rw [hget]
    rfl
  unfold clearPending
  refine wp_load_bind hs fun s₁ hs₁ => ?_
  rw [if_pos hcontains, hschema]
  refine wp_edit_bind hs₁.reliable (Edit.does_deleteField fun _ => ⟨_, hs₁.stored, hcontains, rfl⟩) fun st s₂ h hs₂ => ?_
  obtain ⟨st', hst', rfl, hsnapshots⟩ := h
  rw [Course.withStore_store, hs₁.stored, Option.some.injEq] at hst'
  refine ⟨rfl, rfl, rfl, hs₂, ?_⟩
  show s₂.snapshots.get? thread = some s
  rw [hsnapshots, Record.get?_insert, if_pos rfl, ← hst', State.remove_set hplain.2]

theorem claim_spec (hrules : E.rules = ⟨none, .lenient⟩) {frontier : List String} {request : Request}
    (hstatus : request.status = .approved) (hplain : s.fields.Plain)
    (hs : c.world.store.Holds thread (s.set pendingField (frontierValue frontier))) :
    E.wp (E.claim thread request) (fun tr r c' => workOf tr = [] ∧ r = some (.ok (some frontier)) ∧
      c'.world.store.Holds thread s) c := by
  unfold claim
  rw [hstatus]
  refine wp_edit_bind hs.reliable (Edit.does_loadForResume fun _ => ⟨_, _, hs.stored, by rw [hrules]; rfl⟩)
    fun st s₁ h hs₁ => ?_
  obtain ⟨st', hst', hmigrate, hsnapshots⟩ := h
  rw [hs.stored, Option.some.injEq] at hst'
  rw [hrules, ← hst'] at hmigrate
  obtain rfl : s.set pendingField (frontierValue frontier) = st := Except.ok.inj hmigrate
  refine wp_edit_bind hs₁ (Edit.does_saveState fun _ => ⟨(), by rw [hrules]; rfl⟩) fun _ s₂ h hs₂ => ?_
  have hs₂ : s₂.Holds thread (s.set pendingField (frontierValue frontier)) :=
    ⟨hs₂, by rw [h, Record.get?_insert, if_pos rfl]⟩
  rw [wp_bind]
  refine wp_mono (clearPending_spec (by rw [hrules]) hplain hs₂) fun tr r c₁ h => ?_
  obtain ⟨htr, rfl, -, hs₃⟩ := h
  refine ⟨?_, ?_, hs₃⟩
  · rw [workOf_cons_of_news rfl, workOf_cons_of_news rfl, workOf_append, htr]
    rfl
  · rw [keptFrontier_set]
    rfl

theorem settle_spec (hschema : E.rules.schema = none) {next : String} {rest : List String} {request : Request}
    (hplain : s.fields.Plain) (hs : c.world.store.Holds thread s) :
    E.wp (E.settle thread request (some (next :: rest))) (fun tr r c' => workOf tr = [] ∧
      r = some (.ok (.ready request.record.node (next :: rest))) ∧ c'.world.store.Holds thread s) c := by
  unfold settle
  dsimp only
  rw [hschema]
  refine wp_setStatus_bind hs ?_ fun s₁ hs₁ => ?_
  · show (s.get? statusField).isSome.or false = false
    rw [show s.get? statusField = none from hplain.1]
    rfl
  rw [wp_bind, wp_cancelRequest]
  exact ⟨rfl, rfl, hs₁⟩

/-- A thread whose request is approved is taken up where it was paused. -/
theorem prepare_ready (hrules : E.rules = ⟨none, .lenient⟩) (hvalid : E.config.validate = .ok ()) {rest : List String}
    {request : Request} (hcurrent : c.world.desk.current? thread = some request) (hstatus : request.status = .approved)
    (hnode : request.record.node = node) (hplain : s.fields.Plain)
    (hs : c.world.store.Holds thread (s.set pendingField (frontierValue (node :: rest)))) :
    E.wp (E.prepare thread) (fun tr r c' => workOf tr = [] ∧ r = some (.ok (.ready node (node :: rest))) ∧
      c'.world.store.Holds thread s) c := by
  unfold prepare
  rw [wp_bind, checkConfig, wp_ofExcept, hvalid]
  show E.wp _ _ c
  rw [wp_bind, wp_currentRequest, hcurrent]
  dsimp only
  rw [wp_bind]
  refine wp_mono (claim_spec hrules hstatus hplain hs) fun tr r c₁ h => ?_
  obtain ⟨htr, rfl, hs₁⟩ := h
  refine wp_mono (settle_spec (by rw [hrules]) hplain hs₁) fun tr' r c' h => ?_
  obtain ⟨htr', rfl, hs'⟩ := h
  refine ⟨?_, by rw [hnode], hs'⟩
  rw [List.nil_append, workOf_append, workOf_append, htr, htr']
  rfl

end Engine
end GatedFlow
