import GatedFlow.Proofs.Approval.Lateness
import GatedFlow.Proofs.Run.Notices
import GatedFlow.Proofs.Run.Requests
import GatedFlow.Proofs.Session.Refusal
import Mathlib

/-! # The timeout that is configured

The timeout that a configuration is given goes a long way: it is kept in whole seconds, handed to the requests of a run in
milliseconds, timed by the waits for them and told in records and errors. `Engine.TimesOutAfter` says that all along
that way it is one number of milliseconds. The invariant that carries a wait is `Desk.Unripe`: the request is open and
its time has not come. Business that decides nothing keeps it (`Unripe.run`), also where somebody looks whether the
request has expired, so that the wait comes to its end (`passTime_unripe`), and a request that nobody decides lapses then
and at no other time (`Course.await_lapses`). -/

namespace GatedFlow

/-- A command that decides nothing about a request, and after which a time has not come if it had not before. -/
def Command.LeavesOpen (d : Desk) (id time : Nat) : Command → Prop
  | .desk (.decide target _) => d.numberOf target ≠ some id
  | .desk (.cancel thread) => d.policy.current.get? thread ≠ some id
  | .desk (.advance ms) => d.clock + ms < time
  | _ => True

/-- A request gets no decision from the commands of an agenda that come before a time. -/
def World.Unanswered (rules : EditRules) (id time : Nat) : List Appointment → World → Prop
  | [], _ => True
  | a :: rest, w => a.due < time → a.command.LeavesOpen (w.advanceTo a.due).desk id time ∧
      Unanswered rules id time rest (a.command.run rules (w.advanceTo a.due)).2

/-- A request with a timeout of some milliseconds is open at a desk, and they have not passed. -/
structure Desk.Unripe (d : Desk) (r : Request) (ms : Nat) : Prop where
  found : d.request? r.record.id = some r
  pending : r.status = .pending
  timeout : r.timeout = some ms
  early : d.clock < r.record.createdAt + ms

/-- How a run ends whose request got no decision, by the error that it ends with, if it is not given up: when the timeout
has passed the request expires and the error tells how long that was, and until then the request is open. -/
inductive Lapses (r : Request) (ms horizon : Nat) : Option FlowError → Course → Prop
  | expired {told : Nat} {c : Course} (hnow : c.world.desk.clock = r.record.createdAt + ms)
      (hhorizon : r.record.createdAt + ms ≤ horizon) (htold : ms < wordCount → told = ms)
      (hfound : ∃ r', r.resolve .expire (r.record.createdAt + ms) = .ok r' ∧
        c.world.desk.request? r.record.id = some r') :
      Lapses r ms horizon (some (.approvalTimeout r.record.thread r.record.node told)) c
  | givenUp {c : Course} (hhorizon : horizon < r.record.createdAt + ms) (h : c.world.desk.Unripe r ms) :
      Lapses r ms horizon none c

namespace Desk

variable {d d' : Desk} {r : Request} {ms : Nat}

theorem Unripe.isTerminal (h : d.Unripe r ms) : r.status.isTerminal = false := by
  rw [h.pending]
  rfl

theorem Unripe.not_overdue (h : d.Unripe r ms) : r.isOverdue d.clock = false := by
  have hearly := h.early
  simp only [Request.isOverdue, h.timeout, Option.any_some, Bool.and_eq_false_iff, decide_eq_false_iff_not]
  exact .inr (by omega)

theorem unripe_createRequest {thread node reason : String} {timeout : Option Nat}
    (htimeout : timeout.or d.policy.defaultTimeout = some ms) (hms : 0 < ms) :
    (d.createRequest thread node reason timeout).2.Unripe (d.createRequest thread node reason timeout).1 ms where
  found := (d.createRequest_awaits thread node reason timeout).found
  pending := rfl
  timeout := htimeout
  early := Nat.lt_add_of_pos_right hms

theorem Unripe.advanceTo {time : Nat} (h : d.Unripe r ms) (htime : time < r.record.createdAt + ms) :
    (d.advanceTo time).Unripe r ms :=
  { h with early := Nat.max_lt.2 ⟨h.early, htime⟩ }

/-- Business that decides nothing about a request leaves it open, whoever looks whether it has expired. -/
theorem Unripe.run (h : d.Unripe r ms) {c : DeskCommand}
    (hopen : (Command.desk c).LeavesOpen d r.record.id (r.record.createdAt + ms)) : (c.run d).2.Unripe r ms where
  found := by
    rcases ((Happening.business c).effect d).request? h.found with hsame | ⟨decision, r', hbrings, -, -⟩
    · exact hsame
    cases hbrings with
    | decide _ htarget => exact absurd htarget hopen
    | @checkExpired target htarget =>
      simp only [DeskCommand.run, htarget]
      exact checkExpired_of_early h.found h.not_overdue _
    | expireRequests => exact expireRequests_of_early h.found h.not_overdue
    | cancel hcurrent => exact absurd hcurrent hopen
  pending := h.pending
  timeout := h.timeout
  early := by
    rw [c.run_clock]
    cases c with
    | advance ms => exact hopen
    | _ => exact h.early

/-- Nobody who looks whether it has expired makes a request expire before its time. -/
theorem Unripe.looked (h : d.Unripe r ms) (hacts : d.Acts d') (hearly : d'.clock < r.record.createdAt + ms) :
    (∀ id, (d'.checkExpired id).2.request? r.record.id = d'.request? r.record.id) ∧
      d'.expireRequests.2.request? r.record.id = d'.request? r.record.id := by
  obtain ⟨r', hr', hlater⟩ := hacts.grows.kept _ _ h.found
  have hnot : r'.isOverdue d'.clock = false := by
    by_cases hopen : r'.isPending = true
    · obtain rfl : r' = r := hlater.eq_of_isPending hopen
      exact Unripe.not_overdue ⟨hr', h.pending, h.timeout, hearly⟩
    · rw [Request.isOverdue, Bool.eq_false_iff.2 hopen, Bool.false_and]
  rw [hr']
  exact ⟨fun id => checkExpired_of_early hr' hnot id, expireRequests_of_early hr' hnot⟩

end Desk

section wait

variable {rules : EditRules} {r : Request} {ms : Nat}

theorem Command.run_unripe {w : World} {c : Command} (h : w.desk.Unripe r ms)
    (hopen : c.LeavesOpen w.desk r.record.id (r.record.createdAt + ms)) : (c.run rules w).2.desk.Unripe r ms := by
  cases c with
  | edit c => exact h
  | store c => exact h
  | desk c => exact h.run hopen

/-- A wait whose request gets no decision comes to its end. -/
theorem passTime_unripe {agenda : List Appointment} {w : World} (horizon : Nat) (replies : List (Nat × Reply))
    (h : w.desk.Unripe r ms) (hopen : w.Unanswered rules r.record.id (r.record.createdAt + ms) agenda) :
    ∃ w' left replies', w'.desk.Unripe r ms ∧
      passTime rules r.record.id horizon (some (r.record.createdAt + ms)) agenda w replies =
        passTime.atTheEnd horizon (some (r.record.createdAt + ms)) w' left replies' := by
  have hundecided : ∀ {w : World}, w.desk.Unripe r ms → w.decision? r.record.id = none := fun {w} h => by
    simp [World.decision?, h.found, h.isTerminal]
  induction agenda generalizing w replies with
  | nil => exact ⟨w, [], replies, h, passTime_of_end (hundecided h) fun a ha => by cases ha⟩
  | cons a rest ih =>
    by_cases hdue : (a.due ≤ horizon && (some (r.record.createdAt + ms)).all fun d => a.due < d) = true
    · have htime : a.due < r.record.createdAt + ms := by simpa using (Bool.and_eq_true_iff.1 hdue).2
      obtain ⟨hcommand, hrest⟩ := hopen htime
      rw [passTime_of_due (hundecided h) hdue]
      exact ih _ (Command.run_unripe (w := w.advanceTo a.due) (h.advanceTo htime) hcommand) hrest
    · refine ⟨w, a :: rest, replies, h, passTime_of_end (hundecided h) fun b hb => ?_⟩
      obtain rfl : a = b := Option.some.inj hb
      exact Bool.eq_false_iff.2 hdue

/-- A wait that begins when its request is made ends with the error when the timeout has passed. -/
theorem Course.await_lapses {c : Course} (h : c.world.desk.Unripe r ms) (hnow : c.world.desk.clock = r.record.createdAt)
    (hopen : c.world.Unanswered rules r.record.id (r.record.createdAt + ms) c.agenda) :
    ∃ e : Option FlowError, (c.await rules r none).1 = e.map .error ∧
      Lapses r ms c.horizon e (c.await rules r none).2 := by
  obtain ⟨w, left, replies, hw, hpass⟩ := passTime_unripe c.horizon c.replies h hopen
  have hdeadline : (Option.or none r.timeout).map (c.world.desk.clock + ·) = some (r.record.createdAt + ms) := by
    rw [h.timeout, hnow]
    rfl
  have hawait := @await_of_passTime rules r none c
  rw [hdeadline] at hawait
  unfold passTime.atTheEnd at hpass
  dsimp only at hpass
  split at hpass
  · rename_i hhorizon
    have hclock : (w.advanceTo (r.record.createdAt + ms)).desk.clock = r.record.createdAt + ms :=
      Nat.max_eq_right (Nat.le_of_lt hw.early)
    have hfound : (w.advanceTo (r.record.createdAt + ms)).desk.request? r.record.id = some r := hw.found
    obtain ⟨r', hr'⟩ : ∃ r', r.resolve .expire (r.record.createdAt + ms) = .ok r' :=
      ⟨_, Request.resolve_eq_ok_iff.2 ⟨hw.isTerminal, rfl⟩⟩
    rw [hawait hpass]
    simp only [woken, h.timeout, Option.none_or, Option.getD_some]
    refine ⟨some (r.timeoutError ms), congrArg some (Desk.timeUp_of_pending hfound hw.isTerminal).1, ?_⟩
    refine .expired ?_ hhorizon Nat.mod_eq_of_lt ⟨r', hr', ?_⟩
    · show ((w.advanceTo (r.record.createdAt + ms)).desk.timeUp r ms).2.clock = _
      rw [Desk.timeUp_snd, Desk.resolve_clock, hclock]
    · show ((w.advanceTo (r.record.createdAt + ms)).desk.timeUp r ms).2.request? r.record.id = _
      rw [Desk.timeUp_snd]
      exact Desk.resolve_request?_of_ok hfound (by rw [hclock]; exact hr')
  · rename_i hhorizon
    have hhorizon := Nat.lt_of_not_le hhorizon
    rw [hawait hpass]
    exact ⟨none, rfl, .givenUp hhorizon (hw.advanceTo hhorizon)⟩

end wait

/-- A timeout of so many milliseconds is applied to a request and reported of it, where the request stands in a course
just after it was made and the run that has made it ends this way. -/
structure Engine.Grants {α : Type} (E : Engine) (ms : Nat) (r : Request) (c : Course)
    (result : Option (Except FlowError α)) (c' : Course) : Prop where
  made : c.world.desk.request? r.record.id = some r
  now : r.record.createdAt = c.world.desk.clock
  timeout : r.timeout = some ms
  recorded : ms < wordCount → ∀ d, c.world.desk.Acts d →
    ∃ r', d.request? r.record.id = some r' ∧ r'.record.timeoutMs = some ms
  early : ∀ d, c.world.desk.Acts d → d.clock < r.record.createdAt + ms →
    (∀ id, (d.checkExpired id).2.request? r.record.id = d.request? r.record.id) ∧
      d.expireRequests.2.request? r.record.id = d.request? r.record.id
  lapses : E.config.mode = .wait → c.world.Unanswered E.rules r.record.id (r.record.createdAt + ms) c.agenda →
    ∃ e : Option FlowError, result = e.map .error ∧ Lapses r ms c.horizon e c'

/-- A timeout of so many milliseconds is applied to the requests that a run makes, and reported of them. -/
def Engine.TimesOutAfter {α : Type} (E : Engine) (ms : Nat) (p : Run α) (c : Course) : Prop :=
  E.wp p (fun tr result c' => ∀ thread node reason timeout r c₀,
    ⟨.createRequest thread node reason timeout, some r, c₀⟩ ∈ tr →
      E.Grants ms r (c₀.withDesk (c₀.world.desk.createRequest thread node reason timeout).2) result c') c

namespace Engine

variable {α β : Type} {E : Engine} {ms : Nat} {r : Request} {c c₁ c' : Course} {thread node : String}

/-- A run that is stopped in its first part ends as that part does. -/
theorem Grants.stop {e : Option FlowError} (h : E.Grants (α := α) ms r c (e.map .error) c') :
    E.Grants (α := β) ms r c (e.map .error) c' :=
  { h with
    lapses := fun hmode hopen => by
      obtain ⟨e', he', hlapses⟩ := h.lapses hmode hopen
      obtain rfl : e = e' := by cases e <;> cases e' <;> cases he' <;> rfl
      exact ⟨e, rfl, hlapses⟩ }

/-- A part of a run that ends well has had its requests answered. -/
theorem Grants.goOn {a : α} {result : Option (Except FlowError β)} (h : E.Grants ms r c (some (.ok a)) c₁) :
    E.Grants ms r c result c' :=
  { h with
    lapses := fun hmode hopen => by
      obtain ⟨e, he, -⟩ := h.lapses hmode hopen
      cases e <;> cases he }

theorem Only.timesOutAfter {p : Run α} (h : E.Only RunMoment.AsksNone p) (c : Course) : E.TimesOutAfter ms p c :=
  wp_mono (h.wp c) fun _ _ _ htr thread _ _ _ _ _ hmoment => absurd rfl (htr _ hmoment thread)

theorem TimesOutAfter.bind {p : Run α} {f : α → Run β} (hp : E.TimesOutAfter ms p c)
    (hf : ∀ a c, E.TimesOutAfter ms (f a) c) : E.TimesOutAfter ms (p >>= f) c := by
  unfold TimesOutAfter
  rw [wp_bind]
  refine wp_mono hp fun tr result c₁ h => ?_
  rcases result with _ | (e | a)
  · exact fun t n m limit r c₀ hmoment => (h t n m limit r c₀ hmoment).stop (e := none)
  · exact fun t n m limit r c₀ hmoment => (h t n m limit r c₀ hmoment).stop (e := some e)
  · refine wp_mono (hf a c₁) fun tr' result c' h' t n m limit r c₀ hmoment => ?_
    rcases List.mem_append.1 hmoment with hmoment | hmoment
    · exact (h t n m limit r c₀ hmoment).goOn
    · exact h' t n m limit r c₀ hmoment

theorem composes_timesOutAfter (ms : Nat) : Composes fun p => ∀ c, E.TimesOutAfter ms p c where
  ofExcept r c := (only_ofExcept r).timesOutAfter c
  bind hp hf c := (hp c).bind hf

theorem asksNone_ofEdit (e : Edit α) : E.Only RunMoment.AsksNone (Run.ofEdit e) := only_ofEdit fun _ _ _ => id

theorem awaitDecision_lapses (h : c.world.desk.Unripe r ms) (hnow : c.world.desk.clock = r.record.createdAt)
    (hopen : c.world.Unanswered E.rules r.record.id (r.record.createdAt + ms) c.agenda) :
    E.wp (awaitDecision thread node r) (fun _ result c' =>
      ∃ e : Option FlowError, result = e.map .error ∧ Lapses r ms c.horizon e c') c := by
  obtain ⟨e, he, hlapses⟩ := Course.await_lapses h hnow hopen
  unfold awaitDecision
  rw [wp_bind, wp_await, he]
  cases e with
  | none => exact ⟨none, rfl, hlapses⟩
  | some e => exact ⟨some e, rfl, hlapses⟩

theorem grants_createRequest (htimeout : E.config.timeout? = some ms) (hms : 0 < ms) (node reason : String)
    {result : Option (Except FlowError α)}
    (hlapses : E.config.mode = .wait →
      (c.world.desk.createRequest thread node reason E.config.timeout?).2.Unripe
        (c.world.desk.createRequest thread node reason E.config.timeout?).1 ms →
      World.Unanswered E.rules c.world.desk.requests.length (c.world.desk.clock + ms) c.agenda
        (c.withDesk (c.world.desk.createRequest thread node reason E.config.timeout?).2).world →
      ∃ e : Option FlowError, result = e.map .error ∧
        Lapses (c.world.desk.createRequest thread node reason E.config.timeout?).1 ms c.horizon e c') :
    E.Grants ms (c.world.desk.createRequest thread node reason E.config.timeout?).1
      (c.withDesk (c.world.desk.createRequest thread node reason E.config.timeout?).2) result c' := by
  have hunripe : (c.world.desk.createRequest thread node reason E.config.timeout?).2.Unripe _ ms :=
    Desk.unripe_createRequest (by rw [htimeout]; rfl) hms
  exact {
    made := hunripe.found
    now := rfl
    timeout := hunripe.timeout
    recorded := fun hword d hacts => by
      obtain ⟨r', hr', hlater⟩ := hacts.grows.kept _ _ hunripe.found
      refine ⟨r', hr', hlater.timeoutMs_eq.trans ?_⟩
      show (E.config.timeout?.or c.world.desk.policy.defaultTimeout).map (· % wordCount) = some ms
      rw [htimeout]
      exact congrArg some (Nat.mod_eq_of_lt hword)
    early := fun d hacts hearly => hunripe.looked hacts hearly
    lapses := fun hmode hopen => hlapses hmode hunripe hopen }

theorem request_timesOutAfter (htimeout : E.config.timeout? = some ms) (hms : 0 < ms) (reason : String)
    {rest : List String} :
    E.TimesOutAfter ms (do
      let request ← Run.ofCall (.createRequest thread node reason E.config.timeout?)
      match E.config.mode with
      | .pause => return some (← E.pause thread node rest request)
      | .wait => awaitDecision thread node request) c := by
  unfold TimesOutAfter
  rw [wp_bind, wp_createRequest]
  dsimp only
  let request := (c.world.desk.createRequest thread node reason E.config.timeout?).1
  let c₁ := c.withDesk (c.world.desk.createRequest thread node reason E.config.timeout?).2
  -- behind the request no other is made, and a run that waits ends as its wait does
  suffices hafter : E.wp (match E.config.mode with
      | .pause => do return some (← E.pause thread node rest request)
      | .wait => awaitDecision thread node request) (fun tr result c' => (∀ m ∈ tr, RunMoment.AsksNone m) ∧
        (E.config.mode = .wait → c₁.world.desk.Unripe request ms →
          c₁.world.Unanswered E.rules request.record.id (request.record.createdAt + ms) c₁.agenda →
          ∃ e : Option FlowError, result = e.map .error ∧ Lapses request ms c.horizon e c')) c₁ by
    refine wp_mono hafter fun tr result c' h t n m limit r c₀ hmoment => ?_
    obtain ⟨hnone, hlapses⟩ := h
    rcases List.mem_append.1 hmoment with hmoment | hmoment
    · cases List.mem_singleton.1 hmoment
      exact grants_createRequest htimeout hms node reason hlapses
    · exact absurd rfl (hnone _ hmoment t)
  cases hmode : E.config.mode with
  | pause =>
    have hpause : E.Only RunMoment.AsksNone (E.pause thread node rest request) :=
      composes_only.binds.pause (asksNone_ofEdit _) (asksNone_ofEdit _) (only_ofCall fun _ _ _ => id)
    exact wp_and ((hpause.bind fun _ => only_pure _).wp c₁) fun hwait => by cases hwait
  | wait =>
    have hawait : E.Only RunMoment.AsksNone (awaitDecision thread node request) :=
      composes_only.binds.awaitDecision (only_ofTry fun _ _ _ => id) (only_ofCall fun _ _ _ => id)
        (only_ofCall fun _ _ _ => id)
    exact wp_and (hawait.wp c₁) fun _ hunripe hopen => awaitDecision_lapses hunripe rfl hopen

theorem gate_timesOutAfter (htimeout : E.config.timeout? = some ms) (hms : 0 < ms) (s : State) (rest : List String)
    (c : Course) : E.TimesOutAfter ms (E.gate thread node s rest) c := by
  have hask : E.Only RunMoment.AsksNone (Run.ofCall (.askReason s node)) := only_ofCall fun _ _ _ => id
  refine (hask.timesOutAfter c).bind fun reason? c₁ => ?_
  cases reason? with
  | none => exact (only_pure none).timesOutAfter c₁
  | some reason => exact request_timesOutAfter htimeout hms reason.message

theorem drive_timesOutAfter (htimeout : E.config.timeout? = some ms) (hms : 0 < ms) (left : Nat) (frontier : List String)
    (approved : Option String) (visited : List String) (c : Course) :
    E.TimesOutAfter ms (E.drive thread left frontier approved visited) c :=
  (composes_timesOutAfter ms).drive (fun c => (asksNone_ofEdit _).timesOutAfter c)
    (fun _ s rest c => gate_timesOutAfter htimeout hms s rest c)
    (fun _ s c => (asksNone_perform s).timesOutAfter c) left frontier approved visited c

theorem invoke_timesOutAfter (htimeout : E.config.timeout? = some ms) (hms : 0 < ms) (initial : State) (c : Course) :
    E.TimesOutAfter ms (E.invoke thread initial) c :=
  (composes_timesOutAfter ms).invoke (drive_timesOutAfter htimeout hms)
    (fun _ c => (asksNone_ofEdit _).timesOutAfter c) initial c

theorem resume_timesOutAfter (htimeout : E.config.timeout? = some ms) (hms : 0 < ms) (c : Course) :
    E.TimesOutAfter ms (E.resume thread) c := by
  have hprepare : E.Only RunMoment.AsksNone (E.prepare thread) :=
    (settles_prepare thread).mono fun _ h => h.asksNone
  exact (composes_timesOutAfter ms).resume (drive_timesOutAfter htimeout hms) (fun c => hprepare.timesOutAfter c) c

end Engine

/-- A valid configuration leaves time to decide. -/
theorem Config.pos_of_validate {config : Config} {ms : Nat} (hvalid : config.validate = .ok ())
    (htimeout : config.timeout? = some ms) : 0 < ms := by
  obtain ⟨secs, hsecs, rfl⟩ := Option.map_eq_some_iff.1 htimeout
  unfold validate at hvalid
  split at hvalid
  · cases hvalid
  split at hvalid
  · cases hvalid
  rename_i hzero
  rw [hsecs, Option.some.injEq] at hzero
  omega

/-- The timeout that is applied to the requests of runs and reported of them is the one that the configuration was given,
cut down to whole seconds, whatever the default of the policy is. -/
theorem configured_timeout {E : Engine} {base : Config} {ms : Nat} (hconfig : E.config = base.withTimeout ms)
    (hvalid : E.config.validate = .ok ()) (thread : String) (c : Course) :
    (∀ initial, E.TimesOutAfter (ms / 1000 * 1000) (E.invoke thread initial) c) ∧
      E.TimesOutAfter (ms / 1000 * 1000) (E.resume thread) c := by
  have htimeout : E.config.timeout? = some (ms / 1000 * 1000) := by rw [hconfig]; rfl
  have hms := Config.pos_of_validate hvalid htimeout
  exact ⟨fun initial => Engine.invoke_timesOutAfter htimeout hms initial c, Engine.resume_timesOutAfter htimeout hms c⟩

/-- The engine that waits, given one and a half seconds. -/
def hastyNode : Engine := { waitingNode with config := waitingNode.config.withTimeout 1500 }

theorem hastyNode_valid : hastyNode.config.validate = .ok () := by cbv

/-- A course in which somebody looks for requests that have expired, and approves the request of a thread after 1200 ms. -/
def hastyCourse : Course :=
  .start patience guardedWorld [(200, .desk (.checkExpired (.ofThread "t"))), (900, .desk .expireRequests),
    (1200, .desk (.decide (.ofThread "t") (.approve "operator" none)))]

/-- The course when the run asks for its approval. -/
def askingCourse : Course :=
  hastyCourse.withStore ((Edit.loadState "t").run ((Edit.saveState none "t" .empty).run guardedWorld.store).2).2

def hastyRequest : Request := .ofParts 0 0 "t" "a" "node 'a' always requires approval" (some 1000) (some 1)

theorem hastyCourse_agenda : hastyCourse.agenda =
    [⟨200, 0, .desk (.checkExpired (.ofThread "t"))⟩, ⟨900, 1, .desk .expireRequests⟩,
      ⟨1200, 2, .desk (.decide (.ofThread "t") (.approve "operator" none))⟩] := by cbv

set_option maxRecDepth 20000 in
theorem hastyRequest_made :
    ⟨.createRequest "t" "a" "node 'a' always requires approval" (some 1000), some hastyRequest, askingCourse⟩ ∈
      hastyNode.trace (hastyNode.invoke "t" .empty) hastyCourse :=
  List.mem_of_getElem? (i := 3) (by cbv)

theorem configured_timeout_hasty :
    hastyNode.config = waitingNode.config.withTimeout 1500 ∧ hastyNode.config.validate = .ok () ∧
    (hastyNode.outcome (hastyNode.invoke "t" .empty) hastyCourse).1 = some (.error (.approvalTimeout "t" "a" 1000)) ∧
    (hastyNode.outcome (hastyNode.invoke "t" .empty) hastyCourse).2.world.desk.clock = 1000 := by
  have htimes := (configured_timeout (E := hastyNode) rfl hastyNode_valid "t" hastyCourse).1 .empty
  have hunanswered : ∀ w : World, w.Unanswered ⟨none, .lenient⟩ 0 1000 hastyCourse.agenda := fun w => by
    rw [hastyCourse_agenda]
    exact fun _ => ⟨trivial, fun _ => ⟨trivial, fun h => absurd h (by decide)⟩⟩
  obtain ⟨e, he, hlapses⟩ := (htimes _ _ _ _ _ _ hastyRequest_made).lapses rfl (hunanswered _)
  rw [he]
  cases hlapses with
  | @expired told _ hnow _ htold _ =>
    obtain rfl := htold (by decide)
    exact ⟨rfl, hastyNode_valid, rfl, hnow⟩
  | givenUp hhorizon => exact absurd hhorizon (by decide)

set_option maxRecDepth 20000 in
/-- The run is given one and a half seconds and fails after one. -/
theorem not_timeout_hasty :
    (hastyNode.outcome (hastyNode.invoke "t" .empty) hastyCourse).1 = some (.error (.approvalTimeout "t" "a" 1000)) ∧
    (hastyNode.outcome (hastyNode.invoke "t" .empty) hastyCourse).2.world.desk.clock = 1000 ∧
    ¬∀ (E : Engine) (base : Config) (ms : Nat) (thread : String) (initial : State) (c : Course),
      E.config = base.withTimeout ms → E.config.validate = .ok () → E.TimesOutAfter ms (E.invoke thread initial) c := by
  refine ⟨by cbv, by cbv, fun h => ?_⟩
  have htimes := h hastyNode waitingNode.config 1500 "t" .empty hastyCourse rfl hastyNode_valid
  have htimeout := (htimes _ _ _ _ _ _ hastyRequest_made).timeout
  exact absurd htimeout (by decide)

end GatedFlow
