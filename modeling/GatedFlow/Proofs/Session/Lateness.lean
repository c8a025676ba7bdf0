import GatedFlow.Proofs.Approval.Decided
import GatedFlow.Proofs.Approval.Lateness
import GatedFlow.Proofs.Session.Acts
import GatedFlow.Proofs.Session.Continuing
import Mathlib

/-! # Approvals that come too late

A run that stops before a node has made a request with the timeout of its configuration, or else with that of the policy
(`Turn.stopsWith_of_result`). The clock alone does not end the request: an approval is taken as long as the request is
open, however late it comes. But once its timeout has passed and somebody has looked, no approval is taken any more and
nothing goes on with the request (`late_approval`). -/

namespace GatedFlow

/-- A request with which a run has stopped that found one desk and left the other. -/
structure Engine.StopsWith (E : Engine) (d d' : Desk) (node : String) (request : Request) : Prop where
  node_eq : request.record.node = node
  found : d'.request? request.record.id = some request
  pending : request.isPending = true
  timeout : request.timeout = E.config.timeout?.or d.policy.defaultTimeout

/-- A request has lapsed for good: every decision about it is refused, no thread can be resumed with it, and no node that
a session enters from now on is charged to it. -/
structure World.Lapsed (w : World) (id : Nat) : Prop where
  refused : ∀ decision, w.desk.resolve id decision = (some (.error (.alreadyResolved id .timeout)), w.desk)
  fails : ∀ (E : Engine) (patience : Nat) (thread : String) (commands : List (Nat × Command)),
    w.desk.policy.current.get? thread = some id →
      QuietTrace (E.trace (E.resume thread) (.start patience w commands)) ∧
      ∃ e, E.outcome (E.resume thread) (.start patience w commands) = (some (.error e), .start patience w commands) ∧
        (E.config.validate = .ok () → e = .approval (.notApproved id .timeout))
  uncharged : ∀ turns, ∃ ids, Charged (Turn.sessionTrace turns w) ids ∧ ids.Nodup ∧ id ∉ ids

/-- Nothing that is entered after a request has expired is charged to it. -/
theorem Charged.not_mem {tr : List RunMoment} {ids : List Nat} {d : Desk} {id : Nat} (h : Charged tr ids)
    (hexpired : d.Expired id) (hafter : ∀ m ∈ tr, d.Grows m.before.world.desk) : id ∉ ids := by
  induction h with
  | nil => simp
  | quiet _ _ ih => exact ih fun m hm => hafter m (List.mem_cons_of_mem _ hm)
  | unasked _ ih => exact ih fun m hm => hafter m (by simp [hm])
  | @approved thread node i c tr ids happroved _ ih =>
    have hrest : id ∉ ids := ih fun m hm => hafter m (List.mem_cons_of_mem _ hm)
    have hne : id ≠ i := by
      intro heq
      obtain ⟨r, hr, hstatus⟩ := hexpired.grows (hafter _ (List.mem_cons_self ..))
      obtain ⟨r', hr', -, -, hstatus'⟩ := happroved
      obtain rfl : r = r' := Option.some.inj (hr.symm.trans (heq ▸ hr'))
      cases hstatus.symm.trans hstatus'
    simp [hne, hrest]

namespace Engine

variable {E : Engine} {thread node : String} {c : Course} {d : Desk} {id : Nat}

/-- A run that stops at a gate has asked there. -/
theorem gate_stopsWith {s : State} {rest : List String} : E.wp (E.gate thread node s rest) (fun _ r c' =>
    ∀ stop, r = some (.ok stop) → ∀ node' request, stop = some (.interrupted node' request) →
      E.StopsWith c.world.desk c'.world.desk node' request) c := by
  unfold gate
  rw [wp_bind, wp_askReason]
  rcases c.world.desk.policy.reason? s node with _ | reason
  · rintro _ ⟨⟩ _ _ ⟨⟩
  let asked := (c.world.desk.askReason s node).2
  have hpolicy : asked.policy = c.world.desk.policy := Desk.tellAll_policy ..
  have hawaits := asked.createRequest_awaits thread node reason.message E.config.timeout?
  dsimp only
  rw [wp_bind, wp_createRequest]
  dsimp only
  cases E.config.mode with
  | pause =>
    refine wp_bind_of_ok pause_interrupts fun _ outcome c' h => ?_
    obtain ⟨hdesk, h⟩ := h
    rintro _ ⟨⟩ node' request hstop
    have houtcome : outcome = .interrupted node (asked.createRequest thread node reason.message E.config.timeout?).1 :=
      (h outcome rfl).1.trans (congrArg _ hawaits.latest)
    subst houtcome
    cases hstop
    show E.StopsWith c.world.desk c'.world.desk node _
    rw [hdesk]
    exact ⟨hawaits.node_eq, hawaits.found, rfl, by rw [← hpolicy]; rfl⟩
  | wait =>
    refine wp_mono awaitDecision_spec fun _ r c' h stop hr node' request hstop => ?_
    subst hr hstop
    obtain ⟨_, -, -, -, houtcome⟩ := h
    cases houtcome

theorem kept_acts (d : Desk) : E.Kept thread fun c => d.Acts c.world.desk where
  load _ hc := hc
  pass _ _ _ c hc := fun _ => hc.trans (E.outcome_acts _ c).1
  perform _ _ c hc := hc.trans (E.outcome_acts _ c).1

theorem drive_stopsWith (left : Nat) (frontier : List String) {approved : Option String} {visited : List String}
    (hd : d.Acts c.world.desk) : E.wp (E.drive thread left frontier approved visited) (fun _ r c' =>
      ∀ outcome, r = some (.ok outcome) → ∀ node request, outcome = .interrupted node request →
        E.StopsWith d c'.world.desk node request) c := by
  refine wp_mono (drive_ends (kept_acts d) left frontier hd) fun tr r c' h outcome hr node request hstop => ?_
  subst hstop
  cases h with
  | between _ hended =>
    obtain ⟨s, visited, houtcome⟩ := hended _ hr
    cases houtcome
  | @atGate _ _ node' s rest c₀ _ h hgate =>
    subst hr
    have hstops := (wp_iff_of_outcome hgate).1 gate_stopsWith _ rfl node request rfl
    exact { hstops with timeout := by rw [hstops.timeout, h.defaultTimeout] }

theorem invoke_stopsWith (initial : State) : E.wp (E.invoke thread initial) (fun _ r c' =>
    ∀ outcome, r = some (.ok outcome) → ∀ node request, outcome = .interrupted node request →
      E.StopsWith c.world.desk c'.world.desk node request) c := by
  rw [invoke_eq]
  have hacts : E.wp (E.seed thread initial) (fun _ _ c' => c.world.desk.Acts c'.world.desk) c := (E.outcome_acts _ c).1
  exact wp_bind_of_ok hacts fun _ _ c₁ h => drive_stopsWith _ _ h

theorem resume_stopsWith : E.wp (E.resume thread) (fun _ r c' =>
    ∀ outcome, r = some (.ok outcome) → ∀ node request, outcome = .interrupted node request →
      E.StopsWith c.world.desk c'.world.desk node request) c := by
  unfold resume
  have hacts : E.wp (E.prepare thread) (fun _ _ c' => c.world.desk.Acts c'.world.desk) c := (E.outcome_acts _ c).1
  refine wp_bind_of_ok (wp_and hacts prepare_refused) fun _ resumption c₁ h => ?_
  obtain ⟨hacts, hrefused⟩ := h
  rcases resumption with outcome | ⟨node', frontier⟩
  · -- a run that ends before any node has found its request rejected
    rintro _ ⟨⟩ _ _ rfl
    obtain ⟨_, -, -, houtcome, -⟩ := hrefused _ rfl
    cases houtcome
  · exact drive_stopsWith _ _ hacts

/-- A thread whose current request has expired is not resumed. -/
theorem prepare_expired (hsound : c.world.desk.Sound) (hcurrent : c.world.desk.policy.current.get? thread = some id)
    (hexpired : c.world.desk.Expired id) : E.wp (E.prepare thread) (fun _ r c' => c' = c ∧
      ∃ e, r = some (.error e) ∧ (E.config.validate = .ok () → e = .approval (.notApproved id .timeout))) c := by
  obtain ⟨r, hr, hstatus⟩ := hexpired
  have hfound : c.world.desk.current? thread = some r := by rw [Desk.current?, hcurrent, Option.bind_some, hr]
  refine wp_prepare (fun _ e hno => ⟨rfl, e, rfl, fun hvalid => absurd hfound (hno r hvalid)⟩) fun _ request _ hrequest => ?_
  obtain rfl : r = request := Option.some.inj (hfound.symm.trans hrequest)
  rw [wp_bind, claim, hstatus]
  refine ⟨rfl, _, rfl, fun _ => ?_⟩
  rw [hsound.numbered id r hr]

theorem resume_expired (hsound : c.world.desk.Sound) (hcurrent : c.world.desk.policy.current.get? thread = some id)
    (hexpired : c.world.desk.Expired id) : E.wp (E.resume thread) (fun tr r c' => QuietTrace tr ∧ c' = c ∧
      ∃ e, r = some (.error e) ∧ (E.config.validate = .ok () → e = .approval (.notApproved id .timeout))) c := by
  unfold resume
  rw [wp_bind]
  refine wp_mono (wp_and ((quiet_prepare thread).wp c) (prepare_expired hsound hcurrent hexpired)) fun tr r c' h => ?_
  obtain ⟨hquiet, rfl, e, rfl, he⟩ := h
  exact ⟨hquiet, rfl, e, rfl, he⟩

end Engine

namespace Turn

/-- A run that stops before a node stops with a request that it has made. -/
theorem stopsWith_of_result {t : Turn} {w : World} {node : String} {request : Request}
    (h : t.result? w = some (.ok (.interrupted node request))) :
    t.engine.StopsWith w.desk (t.next w).desk node request := by
  obtain ⟨E, patience, s⟩ := t
  cases s with
  | command c => cases h
  | together edits => cases h
  | wait thread limit commands => cases h
  | invoke thread initial commands =>
    have hstops : E.wp (E.invoke thread initial) _ (.start patience w commands) := Engine.invoke_stopsWith initial
    exact hstops _ h node request rfl
  | resume thread commands =>
    have hstops : E.wp (E.resume thread) _ (.start patience w commands) := Engine.resume_stopsWith
    exact hstops _ h node request rfl

theorem acts_of_mem_sessionTrace {turns : List Turn} {w : World} {m : RunMoment} (h : m ∈ sessionTrace turns w) :
    w.desk.Acts m.before.world.desk := by
  induction turns generalizing w with
  | nil => cases h
  | cons t rest ih =>
    obtain ⟨hnext, hmoments⟩ := t.next_acts w
    rcases List.mem_append.1 h with h | h
    · exact hmoments m h
    · exact hnext.trans (ih h)

end Turn

theorem World.lapsed_of_expired {w : World} {id : Nat} (hsound : w.desk.Sound) (hexpired : w.desk.Expired id) :
    w.Lapsed id where
  refused := hsound.refuses_of_expired hexpired
  fails E patience thread commands hcurrent := by
    have hresume : E.wp (E.resume thread) _ (.start patience w commands) :=
      Engine.resume_expired hsound hcurrent hexpired
    obtain ⟨hquiet, hsame, e, hfailed, he⟩ := hresume
    exact ⟨hquiet, e, Prod.ext hfailed hsame, he⟩
  uncharged turns := by
    obtain ⟨ids, hcharged, hnodup, -⟩ := Turn.sessionTrace_charges turns hsound
    exact ⟨ids, hcharged, hnodup, hcharged.not_mem hexpired fun m hm => (Turn.acts_of_mem_sessionTrace hm).grows⟩

/-- Let a run stop with a request that has a timeout, its own or the policy's. Whatever happens then, an approval is taken
as long as the request is open, however late it comes. But if somebody looks whether the request has expired when its
timeout has passed and it is still open, it has lapsed for good: no later approval is taken, resuming a thread with
it fails before any node, and nothing is ever charged to it. -/
theorem late_approval {graph policy : Registry} {defaultTimeout : Option Nat} {turns : List Turn} {run : Turn}
    {node : String} {request : Request} {limit : Nat} {d : Desk}
    (hrun : run.result? (Turn.after turns (.fresh graph policy defaultTimeout)) = some (.ok (.interrupted node request)))
    (hlimit : run.engine.config.timeout?.or defaultTimeout = some limit)
    (hd : (run.next (Turn.after turns (.fresh graph policy defaultTimeout))).desk.Acts d)
    (hopen : d.isDecided request.record.id = false) :
    (∀ approver comment, (d.resolve request.record.id (.approve approver comment)).1 = some (.ok ()) ∧
      ∃ r, (d.resolve request.record.id (.approve approver comment)).2.request? request.record.id = some r ∧
        r.status = .approved) ∧
    (request.record.createdAt + limit ≤ d.clock → ∀ d', d.Looks request.record.id d' → ∀ w : World, d'.Acts w.desk →
      w.Lapsed request.record.id) := by
  have hstops := Turn.stopsWith_of_result hrun
  have hsession := Turn.after_acts turns (.fresh graph policy defaultTimeout)
  have hsound : d.Sound := by
    have hnext := (run.next_acts (Turn.after turns (.fresh graph policy defaultTimeout))).1
    exact (Desk.Acts.grows (hsession.trans (hnext.trans hd))).sound (World.fresh_sound graph policy defaultTimeout)
  have htimeout : request.timeout = some limit := by
    rw [hstops.timeout, hsession.defaultTimeout]
    exact hlimit
  -- an open request is as the run has left it
  have hfound : d.request? request.record.id = some request := by
    obtain ⟨r, hr, hlater⟩ := hd.grows.kept _ _ hstops.found
    rw [Desk.isDecided_of_request? hr] at hopen
    rwa [hlater.eq_of_isPending (Request.isPending_iff.2 hopen)] at hr
  refine ⟨fun approver comment => ?_, fun hlate d' hlooks w hw => ?_⟩
  · exact Desk.resolve_of_open hfound (Request.isPending_iff.1 hstops.pending) _
  · have hdue : request.isOverdue d.clock = true := by
      simp [Request.isOverdue, hstops.pending, htimeout, hlate]
    have hexpired := (hlooks.expired hfound hdue).grows hw.grows
    exact World.lapsed_of_expired ((Desk.Acts.grows (hlooks.acts.trans hw)).sound hsound) hexpired

/-- Node `b` needs approval, and the policy has a default timeout. -/
def timedTurns : List Turn := [forkedTurn (.command (.desk (.addAlways "b")))]

def timedRun : Turn := forkedTurn (.invoke "t" .empty [])

def timedStart : World := Turn.after timedTurns (.fresh [] [] (some 5))

def timedRequest : Request := .ofParts 0 0 "t" "b" "node 'b' always requires approval" (some 5) (some 1)

/-- The desk some time after the timeout of the request has passed. -/
def lateDesk : Desk := (timedRun.next timedStart).desk.advance 7

theorem timedRun_result : timedRun.result? timedStart = some (.ok (.interrupted "b" timedRequest)) := by cbv

theorem lateDesk_acts : (timedRun.next timedStart).desk.Acts lateDesk := .of_policy rfl rfl (Nat.le_add_right ..)

theorem late_approval_timed :
    timedRun.result? timedStart = some (.ok (.interrupted "b" timedRequest)) ∧
    (timedRun.next timedStart).desk.Acts lateDesk ∧ lateDesk.isDecided 0 = false ∧
    (lateDesk.resolve 0 (.approve "operator" none)).1 = some (.ok ()) ∧
    ∀ w : World, (lateDesk.checkExpired 0).2.Acts w.desk → w.Lapsed 0 := by
  have hopen : lateDesk.isDecided 0 = false := by cbv
  have hclock : 0 + 5 ≤ lateDesk.clock := by decide +kernel
  obtain ⟨htaken, hlapsed⟩ := late_approval timedRun_result rfl lateDesk_acts hopen
  exact ⟨timedRun_result, lateDesk_acts, hopen, (htaken "operator" none).1, hlapsed hclock _ .alone⟩

/-- A thread is resumed with a request that was approved after its timeout. -/
theorem not_late_timed :
    ¬∀ (graph policy : Registry) (defaultTimeout : Option Nat) (turns : List Turn) (run : Turn) (node : String)
      (request : Request) (limit : Nat) (d : Desk) (approver : String) (w : World),
      run.result? (Turn.after turns (.fresh graph policy defaultTimeout)) = some (.ok (.interrupted node request)) →
      run.engine.config.timeout?.or defaultTimeout = some limit →
      (run.next (Turn.after turns (.fresh graph policy defaultTimeout))).desk.Acts d →
      request.record.createdAt + limit ≤ d.clock →
      (d.resolve request.record.id (.approve approver none)).2.Acts w.desk →
      w.desk.policy.current.get? request.record.thread = some request.record.id →
      ∀ (t : Turn) (s : State) (visited : List String), t.step = .resume request.record.thread [] →
        t.result? w = some (.ok (.completed s visited)) → node ∉ visited := by
  intro h
  let w : World := { timedRun.next timedStart with desk := (lateDesk.resolve 0 (.approve "operator" none)).2 }
  have hclock : 0 + 5 ≤ lateDesk.clock := by decide +kernel
  have hcurrent : w.desk.policy.current.get? "t" = some 0 := by cbv
  have hresumed : (forkedTurn (.resume "t" [])).result? w = some (.ok (.completed .empty ["b", "c"])) := by cbv
  have hnot : "b" ∉ ["b", "c"] := h [] [] (some 5) timedTurns timedRun "b" timedRequest 5 lateDesk "operator" w
    timedRun_result rfl lateDesk_acts hclock .refl hcurrent (forkedTurn (.resume "t" [])) .empty ["b", "c"] rfl hresumed
  exact hnot (List.mem_cons_self ..)

end GatedFlow
