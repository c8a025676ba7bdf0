import GatedFlow.Proofs.Run.Refusal
import Mathlib

/-! # What is reported and left when a run is refused

A wait tells how its request was decided, with one exception: a timeout that somebody else has recorded is not reported
as one, and a run that has waited takes it for a refusal (`waits_report`). A refusal that resuming finds clears the thread
away; one that a waiting run learns of leaves the request and the status as they are (`refused_leaves`). -/

namespace GatedFlow

/-- A run on a thread, with commands that may fall due in the meantime. -/
def Step.Runs (thread : String) (commands : List (Nat × Command)) (s : Step) : Prop :=
  (∃ initial, s = .invoke thread initial commands) ∨ s = .resume thread commands

namespace Engine

variable {E : Engine} {I : Course → Prop} {thread node : String} {request : Request} {c : Course}

/-- How a run on a thread ends that is refused: before any node, because the request that it was to go on with is
rejected, or at a gate at which it has waited. -/
inductive EndsRefused (E : Engine) (thread : String) (I : Course → Prop) (c : Course) (node : String) (request : Request)
    (tr : List RunMoment) (c' : Course) : Prop
  | resumed {request₀ : Request} (hcurrent : c.world.desk.current? thread = some request₀)
      (hstatus : request₀.status = .rejected) (hrequest : request = c'.world.desk.latest request₀)
      (hdesk : c'.world.desk = (c.world.desk.cancelRequest thread).2)
      (hpending : pendingIn c'.world.store.snapshots thread = none)
      (hmarked : Marked E.rules.schema c'.world.store.snapshots thread rejectedStatus)
  | waited {c₀ : Course} {d : Desk} {r₀ : Request} (h : I c₀)
      (hrefused : E.Refused thread node r₀ request tr (c₀.withDesk d) c')

theorem invoke_refused {initial : State} (hI : E.Kept thread I)
    (hsaved : ∀ store, store.snapshots = c.world.store.snapshots.insert thread (initial.remove pendingField) →
      I (c.withStore store)) :
    E.wp (E.invoke thread initial) (fun tr r c' => ∀ node request, r = some (.ok (.rejected node request)) →
      E.EndsRefused thread I c node request tr c') c := by
  rw [invoke_eq, wp_bind]
  refine wp_mono seed_spec fun tr r c₁ h => ?_
  obtain ⟨store, rfl, h⟩ := h
  rcases r with _ | (e | u)
  · rintro _ _ ⟨⟩
  · rintro _ _ ⟨⟩
  · refine wp_mono (drive_refused hI _ _ (hsaved store h)) fun tr' r c' h node request hr => ?_
    obtain ⟨c₀, d, r₀, hc₀, hrefused⟩ := h node request hr
    exact .waited hc₀ { hrefused with moment := List.mem_append_right _ hrefused.moment }

theorem resume_refused (hI : E.Kept thread I) (hready : E.wp (E.prepare thread) (fun _ r c' =>
      ∀ node frontier, r = some (.ok (.ready node frontier)) → I c') c) :
    E.wp (E.resume thread) (fun tr r c' => ∀ node request, r = some (.ok (.rejected node request)) →
      E.EndsRefused thread I c node request tr c') c := by
  unfold resume
  rw [wp_bind]
  refine wp_mono (wp_and hready (wp_and prepare_cleared prepare_refused)) fun tr r c₁ h => ?_
  obtain ⟨hready, hcleared, hended⟩ := h
  rcases r with _ | (e | (outcome | ⟨node₁, frontier⟩))
  · rintro _ _ ⟨⟩
  · rintro _ _ ⟨⟩
  · intro node request hr
    cases hr
    obtain ⟨request₀, hcurrent, hstatus, houtcome, hdesk, hmarked⟩ := hended _ rfl
    exact .resumed hcurrent hstatus (Outcome.rejected.inj houtcome).2 hdesk (hcleared _ rfl) hmarked
  · refine wp_mono (drive_refused hI _ _ (hready node₁ frontier rfl)) fun tr' r c' h node request hr => ?_
    obtain ⟨c₀, d, r₀, hc₀, hrefused⟩ := h node request hr
    exact .waited hc₀ { hrefused with moment := List.mem_append_right _ hrefused.moment }

theorem step_refused {s : Step} {patience : Nat} {commands : List (Nat × Command)} {w w' : World}
    {replies : List (Option Reply)} (hs : s.Runs thread commands) (hI : E.Kept thread I)
    (hsaved : ∀ (initial : State) (store : Store),
      store.snapshots = w.store.snapshots.insert thread (initial.remove pendingField) →
      I ((Course.start patience w commands).withStore store))
    (hready : E.wp (E.prepare thread) (fun _ r c' => ∀ node frontier, r = some (.ok (.ready node frontier)) → I c')
      (.start patience w commands))
    (hstep : E.stepWithin patience s w = (.ran (some (.ok (.rejected node request))) replies, w')) :
    ∃ c', c'.world = w' ∧
      E.EndsRefused thread I (.start patience w commands) node request (E.stepTrace patience s w) c' := by
  obtain ⟨initial, rfl⟩ | rfl := hs
  · rw [stepWithin_invoke, Prod.mk.injEq, StepReply.ran.injEq] at hstep
    obtain ⟨⟨hresult, -⟩, rfl⟩ := hstep
    have hrefused : E.wp (E.invoke thread initial) _ (.start patience w commands) :=
      invoke_refused hI (hsaved initial)
    exact ⟨_, rfl, hrefused node request hresult⟩
  · rw [stepWithin_resume, Prod.mk.injEq, StepReply.ran.injEq] at hstep
    obtain ⟨⟨hresult, -⟩, rfl⟩ := hstep
    have hrefused : E.wp (E.resume thread) _ (.start patience w commands) := resume_refused hI hready
    exact ⟨_, rfl, hrefused node request hresult⟩

theorem EndsRefused.stands {tr : List RunMoment} {c' : Course} (hc : c.world.desk.Sound)
    (h : E.EndsRefused thread I c node request tr c') : c'.world.desk.request? request.record.id = some request ∧
      (request.status = .rejected ∨ request.status = .timeout ∧ ∃ r₀ c₀, r₀.record.id = request.record.id ∧
        ⟨.await r₀ none, some (.ok .timeout), c₀⟩ ∈ tr) := by
  cases h with
  | @resumed request₀ hcurrent hstatus hrequest hdesk hpending hmarked =>
    obtain ⟨id, -, hfound⟩ := Option.bind_eq_some_iff.1 hcurrent
    obtain rfl : request₀.record.id = id := hc.numbered id request₀ hfound
    -- a request that is rejected already is the same after it was withdrawn
    obtain ⟨r, hr, hlater⟩ := (c.world.desk.cancelRequest_grows thread).kept _ _ hfound
    obtain rfl : r = request₀ := hlater.eq_of_isTerminal (by rw [hstatus]; rfl)
    rw [← hdesk] at hr
    obtain rfl : request = r := by rw [hrequest, Desk.latest, hr]; rfl
    exact ⟨hr, .inl hstatus⟩
  | @waited c₀ d r₀ _ hrefused =>
    have hgrows := (c₀.withDesk d).await_grows E.rules r₀ none
    obtain ⟨r, hr, hlater⟩ := hgrows.kept _ _ hrefused.asked.found
    rw [hrefused.answered] at hr
    obtain rfl : request = r := Option.some.inj (hrefused.found.symm.trans hr)
    have hid : request.record.id = r₀.record.id := hlater.id_eq
    have hfirst : ((c₀.withDesk d).await E.rules r₀ none).1 = some (.ok request.status) := by rw [hrefused.answered]
    obtain ⟨-, -, -, ht⟩ := World.decision?_eq_some_iff.1 (Course.await_decision hfirst)
    rw [hid]
    refine ⟨hrefused.found, ?_⟩
    have hmoment := hrefused.moment
    have hnot := hrefused.notApproved
    cases hstatus : request.status with
    | pending => rw [hstatus] at ht; cases ht
    | approved => exact absurd hstatus hnot
    | rejected => exact .inl rfl
    | timeout =>
      rw [hstatus] at hmoment
      exact .inr ⟨rfl, r₀, _, rfl, hmoment⟩

/-- A run on a thread is refused on the strength of a request that is rejected, or that has expired while a wait for it
answered so. -/
theorem refused_stands {s : Step} {patience : Nat} {commands : List (Nat × Command)} {w w' : World}
    {replies : List (Option Reply)} (hw : w.desk.Sound) (hs : s.Runs thread commands)
    (hstep : E.stepWithin patience s w = (.ran (some (.ok (.rejected node request))) replies, w')) :
    w'.desk.request? request.record.id = some request ∧
      (request.status = .rejected ∨ request.status = .timeout ∧ ∃ r₀ c₀, r₀.record.id = request.record.id ∧
        ⟨.await r₀ none, some (.ok .timeout), c₀⟩ ∈ E.stepTrace patience s w) := by
  have hkept : E.Kept thread fun _ => True := ⟨fun _ _ => trivial, fun _ _ _ _ _ => fun _ => trivial, fun _ _ _ _ => trivial⟩
  have hready : E.wp (E.prepare thread) (fun _ r _ => ∀ node frontier, r = some (.ok (.ready node frontier)) → True)
      (.start patience w commands) := fun _ _ _ => trivial
  obtain ⟨c', rfl, hended⟩ := step_refused hs hkept (fun _ _ _ => trivial) hready hstep
  exact hended.stands hw

end Engine

theorem Course.await_stands {r r₀ : Request} {c : Course} (rules : EditRules) (limit : Option Nat)
    (hr : c.world.desk.request? r.record.id = some r₀) :
    ∃ happened, c.agenda = happened ++ (c.await rules r limit).2.agenda ∧ match (c.await rules r limit).1 with
      | none => (c.await rules r limit).2.world.decision? r.record.id = none
      | some result => ∃ status,
        (∀ later, ((c.await rules r limit).2.world.after rules later).decision? r.record.id = some status) ∧
        Reports r limit ((c.world.after rules happened).decision? r.record.id = none) result status := by
  obtain ⟨happened, hagenda, hreports⟩ := Course.await_reports rules limit hr
  refine ⟨happened, hagenda, ?_⟩
  generalize c.await rules r limit = answer at hreports ⊢
  rcases answer with ⟨_ | result, c'⟩
  · exact hreports
  · obtain ⟨status, hstatus, hreports⟩ := hreports
    refine ⟨status, fun later => ?_, hreports⟩
    exact World.after_keeps (J := fun w => w.decision? r.record.id = some status)
      (fun a _ w h => World.decision?_grows h (a.command.run_grows rules w)) (fun _ _ h => h) hstatus

/-- Waiting tells how a request was decided. Among the commands of an agenda (`Course.await`), and however commands and
the timer come one after the other (`WaitEnds`), a wait that ends answers that the request is approved or rejected
exactly if it is from then on. If it has expired, the wait ends with an error where its own timer found no decision, and
with the status where somebody else let the request expire. A run that is refused is so because its request is rejected,
or because it has expired in that way. -/
theorem waits_report {r r₀ : Request} {c : Course} (rules : EditRules) (limit : Option Nat)
    (hr : c.world.desk.request? r.record.id = some r₀) :
    (∃ happened, c.agenda = happened ++ (c.await rules r limit).2.agenda ∧ match (c.await rules r limit).1 with
      | none => (c.await rules r limit).2.world.decision? r.record.id = none
      | some result => ∃ status,
        (∀ later, ((c.await rules r limit).2.world.after rules later).decision? r.record.id = some status) ∧
        Reports r limit ((c.world.after rules happened).decision? r.record.id = none) result status) ∧
    (∀ (wake : Wake) (result : Except FlowError ApprovalStatus) (w' : World),
      WaitEnds r limit c.world wake (some result) w' →
      ∃ status, w'.decision? r.record.id = some status ∧ Reports r limit (wake = .timeUp) result status) ∧
    ∀ (E : Engine) (patience : Nat) (thread node : String) (commands : List (Nat × Command)) (s : Step) (w w' : World)
      (request : Request) (replies : List (Option Reply)), w.desk.Sound → s.Runs thread commands →
      E.stepWithin patience s w = (.ran (some (.ok (.rejected node request))) replies, w') →
      w'.desk.request? request.record.id = some request ∧
        (request.status = .rejected ∨ request.status = .timeout ∧ ∃ r₀ c₀, r₀.record.id = request.record.id ∧
          ⟨.await r₀ none, some (.ok .timeout), c₀⟩ ∈ E.stepTrace patience s w) :=
  ⟨Course.await_stands rules limit hr, fun _ _ _ h => h.reports hr,
    fun _ _ _ _ _ _ _ _ _ _ hw hs hstep => Engine.refused_stands hw hs hstep⟩

/-- An engine that waits for approvals, for one node that sets nothing. -/
def waitingNode : Engine where
  graph := .ofParts [⟨"a", .assign .empty, .empty⟩] [] "a" .empty .empty
  config := { Config.standard with mode := .wait }
  rules := ⟨none, .lenient⟩
  registry := 0

/-- A world in which that node needs approval. -/
def guardedWorld : World := ((Command.desk (.addAlways "a")).run ⟨none, .lenient⟩ (World.fresh [] [] none)).2

/-- A run of that node on a thread with a status, where its request is decided while it waits. -/
def decidedStep (decision : Decision) : Step :=
  .invoke "t" (State.empty.set statusField (.string runningStatus)) [(5, .desk (.decide (.ofThread "t") decision))]

def decidedRequest (decision : Decision) : Request where
  record := {
    id := 0, thread := "t", node := "a", reason := "node 'a' always requires approval"
    timeoutMs := none
    status := decision.status
    approver := decision.approver?
    rejecter := decision.rejecter?
    comment := decision.comment?
    createdAt := 0
    resolvedAt := some 5 }
  timeout := none
  registry := some 1

theorem guardedWorld_sound : guardedWorld.desk.Sound where
  numbered id r h := by cases h
  current thread id h := by cases h

theorem decidedStep_expired : waitingNode.stepWithin patience (decidedStep .expire) guardedWorld =
    (.ran (some (.ok (.rejected "a" (decidedRequest .expire)))) [some .done],
      (waitingNode.stepWithin patience (decidedStep .expire) guardedWorld).2) := by
  have hfirst : (waitingNode.stepWithin patience (decidedStep .expire) guardedWorld).1 =
      .ran (some (.ok (.rejected "a" (decidedRequest .expire)))) [some .done] := by cbv
  exact Prod.ext hfirst rfl

/-- A course in which the request of a thread expires 5 ms after a wait for it may begin. -/
def expiringCourse : Course :=
  .start patience { guardedWorld with desk := (guardedWorld.desk.createRequest "t" "a" "check" none).2 }
    [(5, .desk (.decide (.ofThread "t") .expire))]

def checkRequest : Request := (guardedWorld.desk.createRequest "t" "a" "check" none).1

theorem waits_report_expiring :
    (∃ happened, expiringCourse.agenda = happened ++ (expiringCourse.await ⟨none, .lenient⟩ checkRequest (some 60)).2.agenda ∧
      match (expiringCourse.await ⟨none, .lenient⟩ checkRequest (some 60)).1 with
        | none => (expiringCourse.await ⟨none, .lenient⟩ checkRequest (some 60)).2.world.decision? 0 = none
        | some result => ∃ status,
          (∀ later, ((expiringCourse.await ⟨none, .lenient⟩ checkRequest (some 60)).2.world.after ⟨none, .lenient⟩ later).decision?
            0 = some status) ∧
          Reports checkRequest (some 60) ((expiringCourse.world.after ⟨none, .lenient⟩ happened).decision? 0 = none) result
            status) ∧
    (waitingNode.stepWithin patience (decidedStep .expire) guardedWorld).2.desk.request? 0 = some (decidedRequest .expire) ∧
    ((decidedRequest .expire).status = .rejected ∨ (decidedRequest .expire).status = .timeout ∧ ∃ r₀ c₀, r₀.record.id = 0 ∧
      ⟨.await r₀ none, some (.ok .timeout), c₀⟩ ∈ waitingNode.stepTrace patience (decidedStep .expire) guardedWorld) :=
  have hreport := waits_report (r := checkRequest) (c := expiringCourse) ⟨none, .lenient⟩ (some 60) rfl
  ⟨hreport.1, hreport.2.2 waitingNode patience "t" "a" _ (decidedStep .expire) guardedWorld _ (decidedRequest .expire) _
    guardedWorld_sound (.inl ⟨_, rfl⟩) decidedStep_expired⟩

/-- A wait for a request that somebody lets expire answers with a status and no error, and a run that waits for it is
refused although nobody has rejected the request. -/
theorem not_reported_expiring :
    (¬∀ (rules : EditRules) (r : Request) (limit : Option Nat) (c : Course) (result : Except FlowError ApprovalStatus),
      c.world.desk.request? r.record.id = some r → (c.await rules r limit).1 = some result →
      (c.await rules r limit).2.world.decision? r.record.id = some .timeout → ∃ ms, result = .error (r.timeoutError ms)) ∧
    ¬∀ (E : Engine) (thread node : String) (commands : List (Nat × Command)) (s : Step) (w w' : World) (request : Request)
      (replies : List (Option Reply)), w.desk.Sound → s.Runs thread commands →
      E.stepWithin patience s w = (.ran (some (.ok (.rejected node request))) replies, w') →
      request.status = .rejected := by
  constructor
  · intro h
    have hanswer : (expiringCourse.await ⟨none, .lenient⟩ checkRequest (some 60)).1 = some (.ok .timeout) := by cbv
    have hdecision : (expiringCourse.await ⟨none, .lenient⟩ checkRequest (some 60)).2.world.decision? 0 = some .timeout := by cbv
    obtain ⟨ms, herror⟩ := h ⟨none, .lenient⟩ checkRequest (some 60) expiringCourse _ rfl hanswer hdecision
    cases herror
  · intro h
    have hstatus := h waitingNode "t" "a" _ (decidedStep .expire) guardedWorld _ (decidedRequest .expire) _ guardedWorld_sound (.inl ⟨_, rfl⟩)
      decidedStep_expired
    cases hstatus

/-- A command at the approval desk that neither makes nor withdraws a request. -/
def Command.LeavesRequests : Command → Prop
  | .desk (.createRequest ..) => False
  | .desk (.cancel _) => False
  | .desk _ => True
  | _ => False

theorem Command.LeavesRequests.run {rules : EditRules} {command : Command} (h : command.LeavesRequests) (w : World) :
    (command.run rules w).2.store = w.store ∧
      (command.run rules w).2.desk.policy.current = w.desk.policy.current := by
  cases command with
  | edit c => exact h.elim
  | store c => exact h.elim
  | desk c =>
    refine ⟨rfl, ?_⟩
    have hcurrent := c.run_current w.desk
    cases c with
    | createRequest thread node reason timeout => exact h.elim
    | cancel thread => exact h.elim
    | _ => exact hcurrent

/-- What is left of a run that is refused. Nowhere does it leave a kept frontier. Where resuming finds the request
rejected, the request is withdrawn and the thread marked as rejected. A run that is refused at a gate at which it waits
changes nothing after the wait: the world stays as the commands that came during the wait have left it, so that the
thread is not marked and the request stays the current one unless one of them has withdrawn it. -/
theorem refused_leaves {E : Engine} {patience : Nat} {thread node : String} {commands : List (Nat × Command)} {s : Step}
    {w w' : World} {request : Request} {replies : List (Option Reply)}
    (hupdates : ∀ node s update, E.graph.execute node s = .ok update → update.get? pendingField = none)
    (hcommands : ∀ command ∈ commands.map Prod.snd, command.Spares E.rules thread) (hs : s.Runs thread commands)
    (hstep : E.stepWithin patience s w = (.ran (some (.ok (.rejected node request))) replies, w')) :
    pendingIn w'.store.snapshots thread = none ∧
    ((∃ r, w.desk.current? thread = some r ∧ r.status = .rejected ∧ w'.desk.policy.current.get? thread = none ∧
        Marked E.rules.schema w'.store.snapshots thread rejectedStatus) ∨
      E.config.mode = .wait ∧ ∃ r₀ c₀ happened, ⟨.await r₀ none, some (.ok request.status), c₀⟩ ∈ E.stepTrace patience s w ∧
        c₀.world.desk.Awaits thread node r₀ ∧ (∀ a ∈ happened, a.command ∈ commands.map Prod.snd) ∧
        w' = c₀.world.after E.rules happened ∧
        ((∀ a ∈ happened, a.command.LeavesRequests) →
          w'.desk.current? thread = some request ∧ w'.store = c₀.world.store)) := by
  have hkept : E.Kept thread fun c => c.Unkept thread (commands.map Prod.snd) := Engine.kept_unkept hupdates fun _ => hcommands
  have hstart : ∀ a ∈ (Course.start patience w commands).agenda, a.command ∈ commands.map Prod.snd :=
    fun a ha => Course.mem_start_agenda ha
  have hsaved : ∀ (initial : State) (store : Store),
      store.snapshots = w.store.snapshots.insert thread (initial.remove pendingField) →
      ((Course.start patience w commands).withStore store).Unkept thread (commands.map Prod.snd) := by
    refine fun initial store h => ⟨?_, hstart⟩
    show pendingIn store.snapshots thread = none
    rw [h, pendingIn_insert, State.get?_remove, if_pos rfl]
  have hready : E.wp (E.prepare thread) (fun _ r c' => ∀ node frontier, r = some (.ok (.ready node frontier)) →
      c'.Unkept thread (commands.map Prod.snd)) (.start patience w commands) := by
    refine Engine.wp_mono (Engine.wp_and Engine.prepare_cleared ((Engine.clerical_prepare thread).clerical _))
      fun _ _ _ h node frontier hr => ⟨h.1 _ hr, fun a ha => hstart a (h.2 ▸ ha)⟩
  obtain ⟨c', rfl, hended⟩ := Engine.step_refused hs hkept hsaved hready hstep
  cases hended with
  | @resumed request₀ hcurrent hstatus hrequest hdesk hpending hmarked =>
    refine ⟨hpending, .inl ⟨request₀, hcurrent, hstatus, ?_, hmarked⟩⟩
    rw [hdesk, Desk.cancelRequest_current, if_pos rfl]
  | @waited c₀ d r₀ hc₀ hrefused =>
    have hd : (c₀.withDesk d).Unkept thread (commands.map Prod.snd) := ⟨hc₀.pending, hc₀.agenda⟩
    have hleft := hd.await (r := r₀) hcommands none
    rw [hrefused.answered] at hleft
    obtain ⟨happened, hagenda, hworld⟩ := Course.await_of_ok hrefused.answered
    refine ⟨hleft.pending, .inr ⟨hrefused.mode, r₀, _, happened, hrefused.moment, hrefused.asked, fun a ha => ?_, hworld,
      fun hleaves => ?_⟩⟩
    · refine hd.agenda a ?_
      rw [hagenda]
      exact List.mem_append_left _ ha
    · obtain ⟨hstore, hcurrent⟩ : c'.world.store = c₀.world.store ∧ c'.world.desk.policy.current = d.policy.current := by
        rw [hworld]
        exact World.after_keeps (J := fun w => w.store = c₀.world.store ∧ w.desk.policy.current = d.policy.current)
          (fun a ha w h => ⟨((hleaves a ha).run w).1.trans h.1, ((hleaves a ha).run w).2.trans h.2⟩) (fun _ _ h => h)
          ⟨rfl, rfl⟩
      have hasked : d.policy.current.get? thread = some r₀.record.id := hrefused.asked.current
      refine ⟨?_, hstore⟩
      rw [Desk.current?, hcurrent, hasked]
      exact hrefused.found

theorem decidedStep_rejected : waitingNode.stepWithin patience (decidedStep (.reject "bob" none)) guardedWorld =
    (.ran (some (.ok (.rejected "a" (decidedRequest (.reject "bob" none))))) [some .done],
      (waitingNode.stepWithin patience (decidedStep (.reject "bob" none)) guardedWorld).2) := by
  have hfirst : (waitingNode.stepWithin patience (decidedStep (.reject "bob" none)) guardedWorld).1 =
      .ran (some (.ok (.rejected "a" (decidedRequest (.reject "bob" none))))) [some .done] := by cbv
  exact Prod.ext hfirst rfl

theorem waitingNode_updates (node : String) (s : State) (update : Fields)
    (h : waitingNode.graph.execute node s = .ok update) : update.get? pendingField = none := by
  unfold Graph.execute at h
  split at h
  · cases h
  · rename_i found hfound
    obtain ⟨i, -, hi⟩ := Option.bind_eq_some_iff.1 hfound
    obtain _ | ⟨_, ⟨⟩⟩ := List.mem_of_getElem? hi
    cases h
    rfl

theorem refused_leaves_rejected :
    let w' := (waitingNode.stepWithin patience (decidedStep (.reject "bob" none)) guardedWorld).2
    pendingIn w'.store.snapshots "t" = none ∧
    ((∃ r, guardedWorld.desk.current? "t" = some r ∧ r.status = .rejected ∧ w'.desk.policy.current.get? "t" = none ∧
        Marked none w'.store.snapshots "t" rejectedStatus) ∨
      waitingNode.config.mode = .wait ∧ ∃ r₀ c₀ happened,
        ⟨.await r₀ none, some (.ok .rejected), c₀⟩ ∈
          waitingNode.stepTrace patience (decidedStep (.reject "bob" none)) guardedWorld ∧
        c₀.world.desk.Awaits "t" "a" r₀ ∧
        (∀ a ∈ happened, a.command ∈ [Command.desk (.decide (.ofThread "t") (.reject "bob" none))]) ∧
        w' = c₀.world.after ⟨none, .lenient⟩ happened ∧
        ((∀ a ∈ happened, a.command.LeavesRequests) →
          w'.desk.current? "t" = some (decidedRequest (.reject "bob" none)) ∧ w'.store = c₀.world.store)) := by
  intro w'
  refine refused_leaves waitingNode_updates (fun command hcommand => ?_) (.inl ⟨_, rfl⟩) decidedStep_rejected
  obtain rfl := List.mem_singleton.1 hcommand
  exact fun w h => h

/-- After a run that waits is rejected, its request is still the current one of the thread, and the thread is still
marked as running. -/
theorem not_cleared_rejected :
    ¬∀ (E : Engine) (thread node : String) (commands : List (Nat × Command)) (s : Step) (w w' : World) (request : Request)
      (replies : List (Option Reply)), s.Runs thread commands → w.store.Reliable →
      E.stepWithin patience s w = (.ran (some (.ok (.rejected node request))) replies, w') →
      w'.desk.current? thread = none ∨ Marked E.rules.schema w'.store.snapshots thread rejectedStatus := by
  intro h
  have hclaim := h waitingNode "t" "a" _ _ guardedWorld _ _ _ (.inl ⟨_, rfl⟩) Store.reliable_empty decidedStep_rejected
  have hcurrent : (waitingNode.stepWithin patience (decidedStep (.reject "bob" none)) guardedWorld).2.desk.current? "t" =
      some (decidedRequest (.reject "bob" none)) := by cbv
  have hstatus : ((waitingNode.stepWithin patience (decidedStep (.reject "bob" none)) guardedWorld).2.store.snapshots.get?
      "t").bind State.status? = some runningStatus := by cbv
  rcases hclaim with hnone | hmarked
  · cases hnone.symm.trans hcurrent
  · obtain ⟨st, hst, hrunning⟩ := Option.bind_eq_some_iff.1 hstatus
    have hsupports : Edit.supportsStatus none st = true := by
      obtain ⟨value, hvalue, -⟩ := Option.bind_eq_some_iff.1 hrunning
      show (st.get? statusField).isSome.or false = true
      rw [hvalue]
      rfl
    have hrejected := hmarked st hst hsupports
    rw [hrunning] at hrejected
    exact absurd hrejected (by decide)

end GatedFlow
