import GatedFlow.Proofs.Approval.Earlier
import GatedFlow.Proofs.Run.Notices
import GatedFlow.Proofs.Run.Requests

/-! # Runs and earlier requests

A run decides no request that was there before it: what it withdraws is decided already or is a request of its own.
Whether earlier requests are left as they are is thus up to the commands that come while it waits
(`sparing_invoke`, `sparing_resume`). -/

namespace GatedFlow

variable {old : Nat}

/-- The numbers of the requests that a command may decide. -/
def Command.decides (c : Command) (w : World) : List Nat :=
  match c with
  | desk c => c.decides w.desk
  | _ => []

theorem Command.spares (c : Command) (rules : EditRules) {w : World} (hw : old ≤ w.desk.requests.length)
    (h : ∀ id ∈ c.decides w, old ≤ id) : w.desk.Spares old (c.run rules w).2.desk := by
  cases c with
  | edit e => exact .refl _
  | store s => exact .refl _
  | desk c => exact c.spares hw h

/-- The numbers of the requests that commands may decide that each come when they are due. -/
def World.agendaDecides (rules : EditRules) : List Appointment → World → List Nat
  | [], _ => []
  | a :: rest, w => a.command.decides (w.advanceTo a.due) ++
      agendaDecides rules rest (a.command.run rules (w.advanceTo a.due)).2

theorem World.after_spares (rules : EditRules) {agenda : List Appointment} {w : World} (hw : old ≤ w.desk.requests.length)
    (h : ∀ id ∈ agendaDecides rules agenda w, old ≤ id) : w.desk.Spares old (w.after rules agenda).desk := by
  induction agenda generalizing w with
  | nil => exact .refl _
  | cons a rest ih =>
    obtain ⟨hfirst, hrest⟩ := List.forall_mem_append.1 h
    have hcommand : w.desk.Spares old (a.command.run rules (w.advanceTo a.due)).2.desk :=
      (w.desk.spares_advanceTo a.due).trans (a.command.spares rules (w := w.advanceTo a.due) hw hfirst)
    exact hcommand.trans (ih (Nat.le_trans hw hcommand.made) hrest)

theorem Course.await_spares (rules : EditRules) {r : Request} {limit : Option Nat} {c : Course}
    (hc : old ≤ c.world.desk.requests.length) (hr : old ≤ r.record.id)
    (h : ∀ id ∈ World.agendaDecides rules (c.happened rules r limit) c.world, old ≤ id) :
    c.world.desk.Spares old (c.await rules r limit).2.world.desk := by
  obtain ⟨happened, wake, hagenda, hends, -⟩ := c.await_ends rules r limit
  rw [happened_eq hagenda] at h
  exact hends.keeps (J := fun w => c.world.desk.Spares old w.desk) (fun w time hw => hw.trans (w.desk.spares_advanceTo time))
    (fun w hw => hw.trans (w.desk.spares_resolve hr .expire)) (World.after_spares rules hc h)

/-- The numbers of the requests that may be decided by commands while a call of a run is answered. -/
def RunCall.decides {α : Type} (rules : EditRules) (call : RunCall α) (c : Course) : List Nat :=
  match call with
  | await r limit => World.agendaDecides rules (c.happened rules r limit) c.world
  | _ => []

/-- A moment at which a run neither waits nor withdraws a request. -/
def RunMoment.Harmless : RunMoment → Prop
  | ⟨.await .., _, _⟩ => False
  | ⟨.cancelRequest _, _, _⟩ => False
  | _ => True

theorem RunMoment.Harmless.spares {m : RunMoment} (h : m.Harmless) (rules : EditRules) (registry : Nat)
    (hm : old ≤ m.before.world.desk.requests.length) :
    m.before.world.desk.Spares old (m.call.answer rules registry m.before).2.world.desk := by
  obtain ⟨call, answer, c⟩ := m
  cases call with
  | await r limit => exact h.elim
  | cancelRequest thread => exact h.elim
  | askReason s node => exact c.world.desk.spares_tellAll _ _
  | createRequest thread node reason timeout => exact c.world.desk.spares_createRequest hm thread node reason timeout
  | tell events => exact c.world.desk.spares_tellAll registry events
  | _ => exact .refl _

namespace Engine

variable {α β : Type} {E : Engine} {c : Course} {thread node : String} {request : Request}

def momentDecides (E : Engine) (m : RunMoment) : List Nat := m.call.decides E.rules m.before

/-- What commands decide at some moments is later. -/
def DecidesLater (E : Engine) (old : Nat) (tr : List RunMoment) : Prop := ∀ id ∈ tr.flatMap E.momentDecides, old ≤ id

theorem decidesLater_append {tr tr' : List RunMoment} :
    E.DecidesLater old (tr ++ tr') ↔ E.DecidesLater old tr ∧ E.DecidesLater old tr' := by
  unfold DecidesLater
  rw [List.flatMap_append, List.forall_mem_append]

/-- A run that spares the earlier requests from a course on, if the commands do. -/
def SparesFrom (E : Engine) (old : Nat) (p : Run α) (c : Course) : Prop :=
  E.wp p (fun tr _ c' => E.DecidesLater old tr → c.world.desk.Spares old c'.world.desk) c

/-- A run that spares the earlier requests, if the commands do. -/
def Sparing (E : Engine) (old : Nat) (p : Run α) : Prop :=
  ∀ c : Course, old ≤ c.world.desk.requests.length → E.SparesFrom old p c

theorem SparesFrom.bind {p : Run α} {f : α → Run β} (h : E.SparesFrom old p c) (hc : old ≤ c.world.desk.requests.length)
    (hf : ∀ a, E.Sparing old (f a)) : E.SparesFrom old (p >>= f) c := by
  unfold SparesFrom
  rw [wp_bind]
  refine wp_mono h fun tr r c₁ htr => ?_
  rcases r with _ | (e | a)
  · exact htr
  · exact htr
  · -- unless the first part leaves the earlier requests, nothing is claimed of the whole
    by_cases hlater : E.DecidesLater old tr
    · have hspares := htr hlater
      exact wp_mono (hf a c₁ (Nat.le_trans hc hspares.made)) fun tr' _ _ htr' hall =>
        hspares.trans (htr' (decidesLater_append.1 hall).2)
    · exact fun hall => (hlater (decidesLater_append.1 hall).1).elim

theorem Sparing.bind {p : Run α} {f : α → Run β} (h : E.Sparing old p) (hf : ∀ a, E.Sparing old (f a)) :
    E.Sparing old (p >>= f) :=
  fun c hc => (h c hc).bind hc hf

theorem Only.sparing {p : Run α} (h : E.Only RunMoment.Harmless p) : E.Sparing old p := by
  intro c hc
  have hrelated := h.related (R := fun c c' => old ≤ c.world.desk.requests.length →
      c.world.desk.Spares old c'.world.desk) (fun _ _ => .refl _)
    (fun h h' hc => (h hc).trans (h' (Nat.le_trans hc (h hc).made))) (fun m hm hc => hm.spares E.rules E.registry hc) c
  exact wp_mono hrelated fun _ _ _ h _ => h hc

theorem composes_sparing : Composes (E.Sparing old) := ⟨fun r => (only_ofExcept r).sparing, Sparing.bind⟩

theorem sparing_ofEdit (e : Edit α) : E.Sparing old (Run.ofEdit e) :=
  have hedit : E.Only RunMoment.Harmless (Run.ofEdit e) := only_ofEdit fun _ _ => trivial
  hedit.sparing

theorem sparing_pause (rest : List String) : E.Sparing old (E.pause thread node rest request) :=
  have hlatest : E.Only RunMoment.Harmless (Run.ofCall (.latest request)) := only_ofCall fun _ _ => trivial
  composes_sparing.binds.pause (sparing_ofEdit _) (sparing_ofEdit _) hlatest.sparing

/-- A run that waits for its own request has no other to withdraw when it goes on. -/
theorem awaitDecision_spares (hc : old ≤ c.world.desk.requests.length) (hr : old ≤ request.record.id)
    (hcurrent : ∀ id, c.world.desk.policy.current.get? thread = some id → old ≤ id) :
    E.SparesFrom old (awaitDecision thread node request) c := by
  unfold SparesFrom awaitDecision
  rw [wp_bind, wp_await]
  have hspares : E.DecidesLater old [⟨.await request none, (c.await E.rules request none).1, c⟩] →
      c.world.desk.Spares old (c.await E.rules request none).2.world.desk := fun hlater =>
    c.await_spares E.rules hc hr fun id hid => hlater id (List.mem_flatMap.2 ⟨_, List.mem_singleton_self _, hid⟩)
  rcases hawait : c.await E.rules request none with ⟨_ | (e | status), c₁⟩
  all_goals rw [hawait] at hspares
  · exact hspares
  · exact hspares
  dsimp only
  split
  · rw [wp_bind, wp_cancelRequest]
    intro hlater
    have hspares := hspares (decidesLater_append.1 hlater).1
    refine hspares.trans (c₁.world.desk.spares_cancelRequest fun id _ hid _ => .inl ?_)
    exact (hspares.current thread id hid).elim (fun h => h) (hcurrent id)
  · rw [wp_bind, wp_latest]
    exact fun hlater => hspares (decidesLater_append.1 hlater).1

theorem sparing_gate (s : State) (rest : List String) : E.Sparing old (E.gate thread node s rest) := by
  intro c hc
  refine wp_gate (fun _ _ d hpolicy hrequests _ => .of_eq hrequests (congrArg Policy.current hpolicy))
    (fun _ tr d request hasked => ?_) fun _ tr d request hasked => ?_
  -- the request that has just been made is a later one, and it is the current one of the thread
  all_goals
    have hrequest : c.world.desk.Spares old d := .of_append hc hasked.requests fun t id hid => by
      rw [hasked.others, Record.get?_insert] at hid
      split at hid
      · exact .inl (hasked.id_eq ▸ Nat.le_of_eq (Option.some.inj hid))
      · exact .inr hid
    have hd : old ≤ (c.withDesk d).world.desk.requests.length := Nat.le_trans hc hrequest.made
  · exact wp_mono (sparing_pause rest (c.withDesk d) hd) fun _ _ _ h hlater =>
      hrequest.trans (h (decidesLater_append.1 hlater).2)
  · have hnew : old ≤ request.record.id := hasked.id_eq ▸ hc
    refine wp_mono (awaitDecision_spares hd hnew fun id hid => ?_) fun _ _ _ h hlater =>
      hrequest.trans (h (decidesLater_append.1 hlater).2)
    rw [Course.withDesk_desk, hasked.current, Option.some.injEq] at hid
    exact hid ▸ hnew

theorem sparing_perform (s : State) : E.Sparing old (E.perform thread node s) :=
  have hperform : E.Only RunMoment.Harmless (E.perform thread node s) :=
    only_perform (fun _ _ _ => trivial) (fun _ _ _ _ => trivial) (fun _ _ _ _ => trivial) (fun _ _ _ => trivial) s
  hperform.sparing

theorem sparing_drive (left : Nat) (frontier : List String) (approved : Option String) (visited : List String) :
    E.Sparing old (E.drive thread left frontier approved visited) :=
  composes_sparing.drive (sparing_ofEdit _) (fun _ s rest => sparing_gate s rest) (fun _ s => sparing_perform s)
    left frontier approved visited

theorem sparing_invoke (initial : State) : E.Sparing old (E.invoke thread initial) :=
  composes_sparing.invoke sparing_drive (fun _ => sparing_ofEdit _) initial

theorem claim_decided : E.wp (E.claim thread request) (fun _ r _ => ∀ kept?, r = some (.ok kept?) →
    request.status.isTerminal = true) c := by
  unfold claim
  split
  · rename_i hstatus
    exact fun _ _ => hstatus ▸ rfl
  · rename_i hstatus
    exact fun _ _ => hstatus ▸ rfl
  · rintro _ ⟨⟩

/-- Withdrawing the decided request of a thread spares all requests. -/
theorem settle_spares (kept? : Option (List String)) (hcurrent : c.world.desk.current? thread = some request)
    (ht : request.status.isTerminal = true) : E.SparesFrom old (E.settle thread request kept?) c := by
  have hcancel : c.world.desk.Spares old (c.world.desk.cancelRequest thread).2 := by
    refine c.world.desk.spares_cancelRequest fun id r hid hr => .inr ?_
    rw [Desk.current?, hid, Option.bind_some, hr, Option.some.injEq] at hcurrent
    exact hcurrent ▸ ht
  unfold SparesFrom
  cases kept? with
  | some kept =>
    rw [settle, wp_bind, wp_ofEdit]
    rcases ((Edit.setStatus E.rules.schema thread runningStatus).run c.world.store).1 with e | b
    · exact fun _ => .refl _
    · exact fun _ => hcancel
  | none =>
    rw [settle, wp_bind, wp_ofEdit]
    rcases ((Edit.setStatus E.rules.schema thread rejectedStatus).run c.world.store).1 with e | b
    · exact fun _ => .refl _
    · exact fun _ => hcancel

theorem sparing_prepare : E.Sparing old (E.prepare thread) := by
  refine (only_ofExcept _).sparing.bind fun _ => ?_
  intro c hc
  unfold SparesFrom
  rw [wp_bind, wp_currentRequest]
  rcases hcurrent : c.world.desk.current? thread with _ | request
  · exact fun _ => .refl _
  dsimp only
  rw [wp_bind]
  -- a claim only makes edits, and it fails on an open request: the one that is withdrawn after it is decided
  refine wp_mono (wp_and claim_decided ((edits_claim thread request).edits c)) fun tr r c₁ h => ?_
  obtain ⟨hdecided, hdesk, -⟩ := h
  rcases r with _ | (e | kept?)
  · exact fun _ => hdesk ▸ .refl _
  · exact fun _ => hdesk ▸ .refl _
  · have hsettle : E.SparesFrom old (E.settle thread request kept?) c₁ :=
      settle_spares kept? (hdesk ▸ hcurrent) (hdecided kept? rfl)
    unfold SparesFrom at hsettle
    rw [hdesk] at hsettle
    exact wp_mono hsettle fun _ _ _ h hlater =>
      h (decidesLater_append.1 (decidesLater_append.1 hlater).2).2

theorem sparing_resume : E.Sparing old (E.resume thread) := composes_sparing.resume sparing_drive sparing_prepare

/-- A wait spares the earlier requests if it is for a later one. -/
theorem wait_spares {limit : Option Nat} (hc : old ≤ c.world.desk.requests.length)
    (hcurrent : ∀ r, c.world.desk.current? thread = some r → old ≤ r.record.id) :
    E.SparesFrom old (Run.wait thread limit) c := by
  unfold SparesFrom Run.wait
  rw [wp_bind, wp_currentRequest]
  rcases hrequest : c.world.desk.current? thread with _ | request
  · exact fun _ => .refl _
  dsimp only
  rw [wp_await]
  exact fun hlater => c.await_spares E.rules hc (hcurrent request hrequest) fun id hid =>
    (decidesLater_append.1 hlater).2 id (List.mem_flatMap.2 ⟨_, List.mem_singleton_self _, hid⟩)

end Engine
end GatedFlow
