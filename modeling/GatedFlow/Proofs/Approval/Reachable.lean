import GatedFlow.Proofs.Approval.Acts

/-! # Which open requests the policy knows

Of the requests that the policy has made for a thread it knows the newest only: the current request is the newest, and
as long as the newest is open it is current (`Desk.Tracked`). Every act keeps that. So an open request is reached through
its thread and listed as open exactly if it was not replaced (`Desk.Tracked.reaches_iff`). -/

namespace GatedFlow

namespace Request

variable {r r' : Request}

theorem isPending_iff : r.isPending = true ↔ r.status.isTerminal = false := by
  rw [isPending]
  cases r.status <;> decide

theorem Later.registry_eq (h : r.Later r') : r'.registry = r.registry := by
  rcases h with rfl | ⟨d, now, h⟩
  · rfl
  · rw [(resolve_eq_ok_iff.1 h).2]

theorem Later.eq_of_isPending (h : r.Later r') (hopen : r'.isPending = true) : r' = r := by
  rcases h with h | ⟨d, now, h⟩
  · exact h
  · exact absurd (isTerminal_of_resolve h) (by rw [isPending_iff.1 hopen]; exact Bool.false_ne_true)

end Request

namespace Desk

/-- The policy finds a request through its thread and lists it as open. -/
def Reaches (d : Desk) (r : Request) : Prop := d.current? r.record.thread = some r ∧ r ∈ d.pendingRequests

/-- The policy has made another request for the thread of one since. A request that is made apart from the policy has
no registry. -/
def Replaced (d : Desk) (r : Request) : Prop :=
  ∃ q ∈ d.requests, q.registry.isSome = true ∧ q.record.thread = r.record.thread ∧ r.record.id < q.record.id

/-- The current request of a thread is the newest that the policy has made for it, and the newest is the current one as
long as it is open. -/
structure Tracked (d : Desk) : Prop where
  sound : d.Sound
  newest : ∀ {thread id}, d.policy.current.get? thread = some id →
    ∀ q ∈ d.requests, q.registry.isSome = true → q.record.thread = thread → q.record.id ≤ id
  held : ∀ r ∈ d.requests, r.registry.isSome = true → r.isPending = true → ¬d.Replaced r →
    d.policy.current.get? r.record.thread = some r.record.id

variable {d d' : Desk} {r : Request} {id : Nat}

theorem Sound.request?_of_mem (h : d.Sound) (hr : r ∈ d.requests) : d.request? r.record.id = some r := by
  obtain ⟨i, hi⟩ := List.mem_iff_getElem?.1 hr
  rwa [h.numbered i r hi]

theorem Sound.id_lt (h : d.Sound) (hr : r ∈ d.requests) : r.record.id < d.requests.length :=
  request?_lt (h.request?_of_mem hr)

theorem Tracked.reaches_iff (h : d.Tracked) (hr : r ∈ d.requests) (hmade : r.registry.isSome = true)
    (hopen : r.isPending = true) : d.Reaches r ↔ ¬d.Replaced r := by
  constructor
  · rintro ⟨hcurrent, -⟩ ⟨q, hq, hq_made, hthread, hlater⟩
    obtain ⟨id, hid, hfound⟩ := Option.bind_eq_some_iff.1 hcurrent
    obtain rfl := h.sound.numbered id r hfound
    exact Nat.not_le.2 hlater (h.newest hid q hq hq_made hthread)
  · intro hlast
    have hid := h.held r hr hmade hopen hlast
    refine ⟨?_, List.mem_filter.2 ⟨List.mem_filter.2 ⟨hr, by simp [hid]⟩, hopen⟩⟩
    rw [current?, hid]
    exact h.sound.request?_of_mem hr

/-! ## What acts keep -/

theorem Tracked.aside (h : d.Tracked) (hrequests : d'.requests = d.requests)
    (hcurrent : d'.policy.current = d.policy.current) : d'.Tracked where
  sound := (Grows.of_eq hrequests hcurrent).sound h.sound
  newest hid q hq := h.newest (hcurrent ▸ hid) q (hrequests ▸ hq)
  held r hr hmade hopen hlast := by
    rw [hcurrent]
    refine h.held r (hrequests ▸ hr) hmade hopen fun hreplaced => hlast ?_
    rwa [Replaced, hrequests]

/-- Requests are as they were or decided, and of those that are open every thread keeps the one that it had. -/
theorem Tracked.grow (h : d.Tracked) (hgrows : d.Grows d') (hlength : d'.requests.length = d.requests.length)
    (hcurrent : ∀ thread id, d'.policy.current.get? thread = some id → d.policy.current.get? thread = some id)
    (hheld : ∀ r ∈ d'.requests, r.isPending = true → d.policy.current.get? r.record.thread = some r.record.id →
      d'.policy.current.get? r.record.thread = some r.record.id) : d'.Tracked := by
  have hforth : ∀ q ∈ d.requests, ∃ q' ∈ d'.requests, q.Later q' := by
    intro q hq
    obtain ⟨i, hi⟩ := List.mem_iff_getElem?.1 hq
    obtain ⟨q', hq', hlater⟩ := hgrows.kept i q hi
    exact ⟨q', List.mem_of_getElem? hq', hlater⟩
  have hback : ∀ q' ∈ d'.requests, ∃ q ∈ d.requests, q.Later q' := by
    intro q' hq'
    obtain ⟨i, hi⟩ := List.mem_iff_getElem?.1 hq'
    have hlt : i < d.requests.length := hlength ▸ request?_lt hi
    obtain ⟨q'', hq'', hlater⟩ := hgrows.kept i _ (List.getElem?_eq_getElem hlt)
    obtain rfl : q'' = q' := Option.some.inj (hq''.symm.trans hi)
    exact ⟨_, List.getElem_mem hlt, hlater⟩
  refine ⟨hgrows.sound h.sound, ?_, ?_⟩
  · intro thread id hid q' hq' hmade hthread
    obtain ⟨q, hq, hlater⟩ := hback q' hq'
    rw [hlater.id_eq]
    exact h.newest (hcurrent thread id hid) q hq (hlater.registry_eq ▸ hmade) (hlater.thread_eq ▸ hthread)
  · intro r hr hmade hopen hlast
    obtain ⟨q, hq, hlater⟩ := hback r hr
    obtain rfl := hlater.eq_of_isPending hopen
    refine hheld r hr hopen (h.held r hq hmade hopen ?_)
    rintro ⟨p, hp, hp_made, hthread, hid⟩
    obtain ⟨p', hp', hlater'⟩ := hforth p hp
    exact hlast ⟨p', hp', hlater'.registry_eq ▸ hp_made, hlater'.thread_eq ▸ hthread, hlater'.id_eq ▸ hid⟩

theorem length_resolve (d : Desk) (id : Nat) (decision : Decision) :
    (d.resolve id decision).2.requests.length = d.requests.length := by
  rcases resolve_cases d id decision with h | ⟨_, _, -, -, h, -⟩
  · rw [h]
  · rw [h, List.length_set]

theorem not_isPending_of_resolve {decision : Decision} (hr : (d.resolve id decision).2.request? id = some r) :
    r.isPending = false := by
  refine Bool.eq_false_iff.2 fun hopen => ?_
  cases hr₀ : d.request? id with
  | none =>
    simp only [resolve, hr₀] at hr
    cases hr
  | some r₀ =>
    cases hdecide : r₀.resolve decision d.clock with
    | ok r₁ =>
      obtain rfl := Option.some.inj ((resolve_request?_of_ok hr₀ hdecide).symm.trans hr)
      exact absurd (Request.isTerminal_of_resolve hdecide) (by rw [Request.isPending_iff.1 hopen]; exact Bool.false_ne_true)
    | error e =>
      -- what refuses a decision is decided already
      simp only [resolve, hr₀, hdecide] at hr
      obtain rfl := Option.some.inj hr
      simp [Request.resolve, Request.isPending_iff.1 hopen] at hdecide

theorem Tracked.add (h : d.Tracked) (thread node reason : String) (timeout : Option Nat) :
    (d.addRequest thread node reason timeout none).2.Tracked where
  sound := (d.addRequest_grows thread node reason timeout none).sound h.sound
  newest hid q hq hmade := by
    rcases List.mem_append.1 hq with hq | hq
    · exact h.newest hid q hq hmade
    · obtain rfl := List.mem_singleton.1 hq
      cases hmade
  held r hr hmade hopen hlast := by
    rcases List.mem_append.1 hr with hr | hr
    · refine h.held r hr hmade hopen ?_
      rintro ⟨q, hq, hreplaces⟩
      exact hlast ⟨q, List.mem_append_left _ hq, hreplaces⟩
    · obtain rfl := List.mem_singleton.1 hr
      cases hmade

theorem Tracked.create (h : d.Tracked) (thread node reason : String) (timeout : Option Nat) :
    (d.createRequest thread node reason timeout).2.Tracked where
  sound := (d.createRequest_grows thread node reason timeout).sound h.sound
  newest {t id} hid q hq hmade hthread := by
    rw [createRequest_current] at hid
    rcases List.mem_append.1 hq with hq | hq
    · split at hid
      · cases hid
        exact Nat.le_of_lt (h.sound.id_lt hq)
      · exact h.newest hid q hq hmade hthread
    · obtain rfl := List.mem_singleton.1 hq
      have hthread : thread = t := hthread
      rw [if_pos hthread] at hid
      cases hid
      exact Nat.le_refl _
  held r hr hmade hopen hlast := by
    rw [createRequest_current]
    rcases List.mem_append.1 hr with hr | hr
    · split
      · -- the request is replaced by the new one
        rename_i hthread
        exact absurd ⟨_, List.mem_append_right _ (List.mem_singleton_self _), rfl, hthread, h.sound.id_lt hr⟩ hlast
      · refine h.held r hr hmade hopen ?_
        rintro ⟨q, hq, hreplaces⟩
        exact hlast ⟨q, List.mem_append_left _ hq, hreplaces⟩
    · obtain rfl := List.mem_singleton.1 hr
      exact if_pos rfl

theorem Tracked.cancel (h : d.Tracked) (thread : String) : (d.cancelRequest thread).2.Tracked := by
  cases hid : d.policy.current.get? thread with
  | none => rwa [cancelRequest_of_none hid]
  | some id =>
    have hlength : (d.cancelRequest thread).2.requests.length = d.requests.length := by
      rw [cancelRequest_of_some hid, length_resolve]
      rfl
    refine h.grow (d.cancelRequest_grows thread) hlength (fun t i hi => ?_) fun r hr hopen hi => ?_
    · rw [cancelRequest_current] at hi
      split at hi
      · cases hi
      · exact hi
    · rw [cancelRequest_current]
      split
      · -- the thread's open request has been rejected
        rename_i hthread
        obtain rfl : id = r.record.id := Option.some.inj (hid.symm.trans (hthread ▸ hi))
        have hr := ((d.cancelRequest_grows thread).sound h.sound).request?_of_mem hr
        rw [cancelRequest_of_some hid] at hr
        rw [not_isPending_of_resolve hr] at hopen
        cases hopen
      · exact hi

theorem Tracked.act (h : d.Tracked) (hact : Act d d') : d'.Tracked := by
  cases hact with
  | aside hrequests hcurrent => exact h.aside hrequests hcurrent
  | add thread node reason timeout => exact h.add thread node reason timeout
  | create thread node reason timeout => exact h.create thread node reason timeout
  | resolve id decision =>
    refine h.grow (d.resolve_grows id decision) (d.length_resolve id decision) (fun t i hi => ?_) fun r _ _ hi => ?_
    · rwa [resolve_policy] at hi
    · rwa [resolve_policy]
  | cancel thread => exact h.cancel thread

theorem Tracked.acts (h : d.Tracked) (hacts : d.Acts d') : d'.Tracked := hacts.keeps Tracked.act h

end Desk
end GatedFlow
