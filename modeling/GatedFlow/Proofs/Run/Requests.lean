import GatedFlow.Proofs.Run.Charges
import GatedFlow.Proofs.Run.Refusal

/-! # The requests that runs leave

Only at a gate a run asks for an approval. Everything else leaves a thread with the request that it has or with none
(`Only.unasked`), and so do commands that leave the thread alone. A run that ends well therefore has made the current
request of its thread itself and keeps its frontier, or has made none, or has waited for one in vain
(`drive_leaves`). -/

namespace GatedFlow

variable {thread : String}

/-- A thread has been given no request since an earlier desk. -/
def Desk.Unasked (thread : String) (d d' : Desk) : Prop :=
  ∀ id, d'.policy.current.get? thread = some id → d.policy.current.get? thread = some id

namespace Desk.Unasked

variable {d d' d'' : Desk}

theorem of_eq (h : d'.policy.current.get? thread = d.policy.current.get? thread) : d.Unasked thread d' :=
  fun _ hid => h.symm.trans hid

theorem refl (d : Desk) : d.Unasked thread d := of_eq rfl

theorem trans (h : d.Unasked thread d') (h' : d'.Unasked thread d'') : d.Unasked thread d'' := fun id hid => h id (h' id hid)

theorem of_policy (h : d'.policy = d.policy) : d.Unasked thread d' := of_eq (by rw [h])

theorem of_none (h : d'.policy.current.get? thread = none) : d.Unasked thread d' := fun _ hid => by cases h.symm.trans hid

theorem cancelRequest (d : Desk) (t : String) : d.Unasked thread (d.cancelRequest t).2 := by
  intro id hid
  rw [cancelRequest_current] at hid
  split at hid
  · cases hid
  · exact hid

theorem createRequest {t : String} (h : t ≠ thread) (d : Desk) (node reason : String) (timeout : Option Nat) :
    d.Unasked thread (d.createRequest t node reason timeout).2 :=
  of_eq (by rw [createRequest_current, if_neg h])

end Desk.Unasked

/-- A command that neither writes the state of a thread nor makes a request for it. -/
def Command.LeavesThread (thread : String) : Command → Prop
  | .desk (.createRequest t _ _ _) => t ≠ thread
  | .desk _ => True
  | command => ∀ rules w, (command.run rules w).2.store.snapshots.get? thread = w.store.snapshots.get? thread

namespace Command.LeavesThread

variable {command : Command}

theorem stored (h : command.LeavesThread thread) (rules : EditRules) (w : World) :
    (command.run rules w).2.store.snapshots.get? thread = w.store.snapshots.get? thread := by
  cases command with
  | edit c => exact h rules w
  | store c => exact h rules w
  | desk c => rfl

theorem unasked (h : command.LeavesThread thread) (rules : EditRules) (w : World) :
    w.desk.Unasked thread (command.run rules w).2.desk := by
  cases command with
  | edit c => exact .refl _
  | store c => exact .refl _
  | desk c =>
    have hcurrent := c.run_current w.desk
    cases c with
    | createRequest t node reason timeout => exact .createRequest h _ _ _ _
    | cancel t => exact .cancelRequest _ _
    | _ => exact .of_eq (congrArg (·.get? thread) hcurrent)

end Command.LeavesThread

/-- A call by which a run asks for an approval on a thread. -/
def RunCall.AsksFor {α : Type} (thread : String) : RunCall α → Prop
  | .createRequest t _ _ _ => t = thread
  | _ => False

/-- No command that is still to happen writes the state of a thread or makes a request for it. -/
def Course.LeavesThread (thread : String) (c : Course) : Prop := ∀ a ∈ c.agenda, a.command.LeavesThread thread

theorem Course.LeavesThread.await {c : Course} (h : c.LeavesThread thread) (rules : EditRules) (r : Request)
    (limit : Option Nat) : (c.await rules r limit).2.LeavesThread thread :=
  fun a ha => h a (Course.agenda_of_await ha)

theorem Course.LeavesThread.await_unasked {c : Course} (h : c.LeavesThread thread) (rules : EditRules) (r : Request)
    (limit : Option Nat) : c.world.desk.Unasked thread (c.await rules r limit).2.world.desk :=
  Course.await_keeps (J := fun w => c.world.desk.Unasked thread w.desk)
    (fun a ha w hw => hw.trans ((h a ha).unasked rules w)) (fun _ _ hw => hw)
    (fun _ hw => hw.trans (.of_policy (Desk.resolve_policy ..))) (.refl _)

theorem RunCall.answer_unasked {α : Type} {call : RunCall α} {c : Course} (h : ¬call.AsksFor thread)
    (hc : c.LeavesThread thread) (rules : EditRules) (registry : Nat) :
    c.world.desk.Unasked thread (call.answer rules registry c).2.world.desk ∧
      (call.answer rules registry c).2.LeavesThread thread := by
  cases call with
  | edit e => exact ⟨.refl _, hc⟩
  | askReason s node => exact ⟨.of_policy (Desk.tellAll_policy ..), hc⟩
  | createRequest t node reason timeout => exact ⟨.createRequest h _ _ _ _, hc⟩
  | currentRequest t => exact ⟨.refl _, hc⟩
  | latest r => exact ⟨.refl _, hc⟩
  | cancelRequest t => exact ⟨.cancelRequest _ _, hc⟩
  | await r limit => exact ⟨hc.await_unasked rules r limit, hc.await rules r limit⟩
  | tell events => exact ⟨.of_policy (Desk.tellAll_policy ..), hc⟩
  | execute g node s => exact ⟨.refl _, hc⟩
  | next g node s => exact ⟨.refl _, hc⟩

/-- A moment at which no approval is asked for. -/
def RunMoment.AsksNone (m : RunMoment) : Prop := ∀ thread, ¬m.call.AsksFor thread

theorem RunMoment.Settles.asksNone {m : RunMoment} (h : m.Settles) : m.AsksNone := by
  obtain ⟨call, answer, c⟩ := m
  cases call with
  | createRequest t node reason timeout => exact h.elim
  | _ => exact fun _ => id

namespace Engine

variable {α : Type} {E : Engine} {c : Course} {node : String} {d : Desk}

/-- A run that does not ask for an approval on a thread leaves the thread with the request that it has or with none. -/
theorem Only.unasked {p : Run α} (h : E.Only (fun m => ¬m.call.AsksFor thread) p) (hc : c.LeavesThread thread) :
    E.wp p (fun _ _ c' => c.world.desk.Unasked thread c'.world.desk ∧ c'.LeavesThread thread) c :=
  h.related (R := fun c c' => c.LeavesThread thread → c.world.desk.Unasked thread c'.world.desk ∧ c'.LeavesThread thread)
    (fun _ hc => ⟨.refl _, hc⟩)
    (fun h h' hc => ⟨(h hc).1.trans (h' (h hc).2).1, (h' (h hc).2).2⟩)
    (fun _ hm hc => RunCall.answer_unasked hm hc E.rules E.registry) c hc

theorem asksNone_perform (s : State) : E.Only RunMoment.AsksNone (E.perform thread node s) :=
  only_perform (fun _ _ _ _ => id) (fun _ _ _ _ _ => id) (fun _ _ _ _ _ => id) (fun _ _ _ _ => id) s

end Engine

/-- A course in which a thread has been given no request since an earlier desk, and will be given none by commands. -/
structure Course.Unasked (thread : String) (d : Desk) (c : Course) : Prop where
  grows : d.Grows c.world.desk
  unasked : d.Unasked thread c.world.desk
  leaves : c.LeavesThread thread

/-- What a run on a thread that ends well leaves of the thread's current request, by the desk at which it started: the
one that there was or none; the one with which it has stopped and for which its frontier is kept; or none that is
approved. -/
inductive Outcome.Leaves (thread : String) (d : Desk) : Outcome → World → Prop
  | completed {s : State} {visited : List String} {w : World} (h : d.Unasked thread w.desk) :
      Leaves thread d (.completed s visited) w
  | interrupted {node : String} {request : Request} {rest : List String} {w : World}
      (hcurrent : w.desk.policy.current.get? thread = some request.record.id)
      (hnew : d.requests.length ≤ request.record.id) (hfound : w.desk.request? request.record.id = some request)
      (hnode : request.record.node = node)
      (hkept : pendingIn w.store.snapshots thread = some (frontierValue (node :: rest))) :
      Leaves thread d (.interrupted node request) w
  | rejected {node : String} {request : Request} {w : World}
      (h : ∀ id, w.desk.policy.current.get? thread = some id → ∃ status, w.decision? id = some status ∧ status ≠ .approved) :
      Leaves thread d (.rejected node request) w

/-- A run that ends well and leaves a request that is open or approved has stopped with it exactly if the request was not
there before. -/
theorem Outcome.Leaves.interrupted_iff {outcome : Outcome} {d : Desk} {w : World} {id : Nat} (h : outcome.Leaves thread d w)
    (hd : d.Sound) (hcurrent : w.desk.policy.current.get? thread = some id)
    (hdecision : ∀ status, w.decision? id = some status → status = .approved) :
    (∃ node request, outcome = .interrupted node request) ↔ d.policy.current.get? thread ≠ some id := by
  cases h with
  | completed h => exact iff_of_false (fun ⟨_, _, h⟩ => by cases h) (not_not_intro (h id hcurrent))
  | @interrupted node request _ _ hthis hnew =>
    refine iff_of_true ⟨node, request, rfl⟩ fun hbefore => ?_
    -- a request that was there before has a smaller number than one that the run makes
    obtain ⟨r, hr, -⟩ := hd.current thread id hbefore
    obtain rfl : request.record.id = id := Option.some.inj (hthis.symm.trans hcurrent)
    exact absurd (Desk.request?_lt hr) (Nat.not_lt.2 hnew)
  | rejected h =>
    obtain ⟨status, hstatus, hnot⟩ := h id hcurrent
    exact absurd (hdecision status hstatus) hnot

namespace Engine

variable {E : Engine} {c : Course} {node : String} {d : Desk}

theorem awaitDecision_none {request : Request} (hc : c.LeavesThread thread) :
    E.wp (awaitDecision thread node request) (fun _ r c' => r = some (.ok none) →
      c'.world.desk.policy.current.get? thread = none ∧ c'.LeavesThread thread) c := by
  refine wp_mono awaitDecision_spec fun _ r c' h hr => ?_
  subst hr
  dsimp only at h
  rw [h]
  refine ⟨?_, hc.await E.rules request none⟩
  rw [Course.withDesk_desk, Desk.cancelRequest_current, if_pos rfl]

/-- From gate to gate of its own, a run makes no request that is left. -/
theorem kept_unasked : E.Kept thread (Course.Unasked thread d) where
  load c hc := ⟨hc.grows, hc.unasked, hc.leaves⟩
  pass node s rest c hc := by
    have hpass : E.wp (E.gate thread node s rest) (fun _ r c' => r = some (.ok none) →
        d.Unasked thread c'.world.desk ∧ c'.LeavesThread thread) c := by
      refine wp_gate (fun _ _ d' hpolicy _ _ => ⟨hc.unasked.trans (.of_policy hpolicy), hc.leaves⟩) (fun _ _ d' r₀ _ => ?_)
        fun _ _ d' r₀ _ => ?_
      · refine wp_mono pause_interrupts fun _ r _ _ hr => ?_
        rcases r with _ | (e | outcome) <;> cases hr
      · exact wp_mono (awaitDecision_none hc.leaves) fun _ _ _ h hr => ⟨.of_none (h hr).1, (h hr).2⟩
    exact wp_mono (wp_grows hpass) fun _ _ _ h hr => ⟨hc.grows.trans h.2, (h.1 hr).1, (h.1 hr).2⟩
  perform node s c hc :=
    wp_mono (wp_grows (((asksNone_perform s).mono fun _ h => h thread).unasked hc.leaves)) fun _ _ _ h =>
      ⟨hc.grows.trans h.2, hc.unasked.trans h.1.1, h.1.2⟩

theorem gate_leaves {s : State} {rest : List String} (hc : c.Unasked thread d) :
    E.wp (E.gate thread node s rest) (fun _ r c' => ∀ outcome, r = some (.ok (some outcome)) →
      outcome.Leaves thread d c'.world) c := by
  refine wp_gate (fun _ _ d' _ _ => ?_) (fun _ _ d' r₀ hasked => ?_) fun _ _ d' r₀ hasked => ?_
  · rintro _ ⟨⟩
  · refine wp_mono pause_interrupts fun _ r c' h outcome hr => ?_
    obtain ⟨hdesk, h⟩ := h
    rcases r with _ | (e | outcome')
    · cases hr
    · cases hr
    cases hr
    obtain ⟨houtcome, hkept⟩ := h _ rfl
    rw [houtcome, Course.withDesk_desk, hasked.latest]
    have hnew : d.requests.length ≤ r₀.record.id := hasked.id_eq ▸ hc.grows.length_le
    have hdesk : c'.world.desk = d' := hdesk
    exact .interrupted (hdesk ▸ hasked.current) hnew (hdesk ▸ hasked.found) hasked.node_eq hkept
  · refine wp_mono awaitDecision_spec fun _ r c' h outcome hr => ?_
    subst hr
    obtain ⟨status, hawait, hstatus, -, rfl⟩ := h
    have hd : (c.withDesk d').LeavesThread thread := hc.leaves
    have hfirst : ((c.withDesk d').await E.rules r₀ none).1 = some (.ok status) := by rw [hawait]
    have hdecision := Course.await_decision hfirst
    have hcurrent := hd.await_unasked E.rules r₀ none
    rw [hawait] at hdecision hcurrent
    refine .rejected fun id hid => ?_
    -- the request that is left, if any, is the one that was waited for
    obtain rfl : r₀.record.id = id := Option.some.inj (hasked.current.symm.trans (hcurrent id hid))
    exact ⟨status, hdecision, hstatus⟩

theorem drive_leaves (left : Nat) (frontier : List String) {approved : Option String} {visited : List String}
    (hc : c.Unasked thread d) :
    E.wp (E.drive thread left frontier approved visited) (fun _ r c' => ∀ outcome, r = some (.ok outcome) →
      outcome.Leaves thread d c'.world) c := by
  refine wp_mono (drive_ends kept_unasked left frontier hc) fun tr r c' h outcome hr => ?_
  cases h with
  | between h hended =>
    obtain ⟨s, visited, rfl⟩ := hended _ hr
    exact .completed h.unasked
  | @atGate tr₀ _ node s rest c₀ _ h hgate =>
    subst hr
    exact (wp_iff_of_outcome hgate).1 (gate_leaves h) outcome rfl

end Engine
end GatedFlow
