import GatedFlow.Proofs.Approval.Decided
import GatedFlow.Proofs.Approval.Lateness

/-! # Expiring what is due

A registered request is due (`Desk.Due`) when it is open and its own timeout has passed. To expire requests is to look
at the registered ones in some order, to ask each that is open whether it has expired, and to count those that have
(`Desk.sweep`). Asking changes the request that is asked about, and one that has expired before would answer yes again;
still the outcome does not depend on the order, since a look at one request leaves the others as they are
(`Desk.sweep_eq`). `Desk.ExpiresDue` says what the outcome is. -/

namespace GatedFlow

namespace Request

variable {r : Request} {now : Nat}

/-- A request that expires at a time. -/
def timedOut (r : Request) (now : Nat) : Request :=
  { r with record := { r.record with status := .timeout, resolvedAt := some now } }

theorem resolve_expire (h : r.status.isTerminal = false) (now : Nat) : r.resolve .expire now = .ok (r.timedOut now) :=
  resolve_eq_ok_iff.2 ⟨h, rfl⟩

theorem isOverdue_iff : r.isOverdue now = true ↔
    r.status = .pending ∧ ∃ limit, r.timeout = some limit ∧ r.record.createdAt + limit ≤ now := by
  rw [isOverdue, isPending, Bool.and_eq_true, beq_iff_eq, Option.any_eq_true]
  simp only [decide_eq_true_eq]

theorem isTerminal_of_isOverdue (h : r.isOverdue now = true) : r.status.isTerminal = false := by
  rw [(isOverdue_iff.1 h).1]
  rfl

end Request

namespace Desk

/-- A request is registered and open, and it was made at least as long ago as its timeout. -/
structure Due (d : Desk) (r : Request) : Prop where
  registered : d.policy.current.get? r.record.thread = some r.record.id
  pending : r.status = .pending
  elapsed : ∃ limit, r.timeout = some limit ∧ r.record.createdAt + limit ≤ d.clock

theorem due_iff {d : Desk} {r : Request} :
    d.Due r ↔ d.policy.current.get? r.record.thread = some r.record.id ∧ r.isOverdue d.clock = true := by
  rw [Request.isOverdue_iff]
  exact ⟨fun h => ⟨h.registered, h.pending, h.elapsed⟩, fun h => ⟨h.1, h.2.1, h.2.2⟩⟩

instance (d : Desk) (r : Request) : Decidable (d.Due r) := decidable_of_iff _ due_iff.symm

/-- Looks at requests one after the other. Each that is open is asked whether it has expired, and those that have are
counted. -/
def sweep : List Nat → Desk → Nat × Desk
  | [], d => (0, d)
  | id :: ids, d =>
    if (d.request? id).any Request.isPending then
      let (expired, d) := d.checkExpired id
      let (count, d) := sweep ids d
      (if expired = some true then count + 1 else count, d)
    else sweep ids d

/-- What it is that requests expire: just the due ones do, at this time, and are counted; all else stays as it is; the
observers of each are told once, in some order; whoever waits for one of them goes on with the status that it has now;
and to do it again does nothing. -/
structure ExpiresDue (d : Desk) (count : Nat) (d' : Desk) : Prop where
  requests : d'.requests = d.requests.map fun r => if d.Due r then r.timedOut d.clock else r
  policy : d'.policy = d.policy
  registries : d'.registries = d.registries
  clock : d'.clock = d.clock
  counted : count = (d.requests.filter (d.Due ·)).length
  told : ∃ news, d'.log = d.log ++ news ∧
    news.Perm ((d.requests.filter (d.Due ·)).flatMap fun r => (r.timedOut d.clock).announcement d.registries)
  woken : ∀ r ∈ d.requests, d.Due r → ∀ rules horizon deadline agenda store replies,
    passTime rules r.record.id horizon deadline agenda ⟨store, d'⟩ replies =
      (.decided .timeout, ⟨store, d'⟩, agenda, replies)
  again : d'.expireRequests = (0, d')

variable {d d' : Desk} {id : Nat} {ids : List Nat} {r : Request}

/-! ## One look -/

theorem resolve_of_isOverdue (hr : d.request? id = some r) (hdue : r.isOverdue d.clock = true) :
    (d.resolve id .expire).2 = { d with
      requests := d.requests.set id (r.timedOut d.clock)
      log := d.log ++ (r.timedOut d.clock).announcement d.registries } := by
  rw [resolve_eq_of_ok hr (Request.resolve_expire (Request.isTerminal_of_isOverdue hdue) d.clock)]

theorem request?_resolve_of_isOverdue (hr : d.request? id = some r) (hdue : r.isOverdue d.clock = true) :
    (d.resolve id .expire).2.request? id = some (r.timedOut d.clock) :=
  resolve_request?_of_ok hr (Request.resolve_expire (Request.isTerminal_of_isOverdue hdue) d.clock)

theorem Sound.resolve (h : d.Sound) (id : Nat) (decision : Decision) : (d.resolve id decision).2.Sound :=
  (d.resolve_grows id decision).sound h

/-- What is asked about one request changes nothing about whether another is overdue. -/
theorem isOverdue_resolve {i : Nat} (hi : i ≠ id) (decision : Decision) :
    (d.resolve id decision).2.isOverdue i = d.isOverdue i := by
  rw [isOverdue, isOverdue, resolve_request?_of_ne hi, resolve_clock]

theorem Sound.checkExpired_of_isOverdue (h : d.Sound) (hr : d.request? id = some r) (hdue : r.isOverdue d.clock = true) :
    d.checkExpired id = (some true, (d.resolve id .expire).2) := by
  obtain rfl : r.record.id = id := h.numbered id r hr
  have hlatest : (d.resolve r.record.id .expire).2.latest r = r.timedOut d.clock := by
    rw [latest, request?_resolve_of_isOverdue hr hdue, Option.getD_some]
  simp only [checkExpired, hr, if_pos hdue, hlatest]
  rfl

theorem Sound.checkExpired_of_open (h : d.Sound) (hr : d.request? id = some r) (hopen : r.isPending = true)
    (hearly : r.isOverdue d.clock = false) : d.checkExpired id = (some false, d) := by
  obtain rfl : r.record.id = id := h.numbered id r hr
  have hlatest : d.latest r = r := by rw [latest, hr, Option.getD_some]
  have hstatus : (r.status == .timeout) = false := by
    rw [eq_of_beq hopen]
    rfl
  simp only [checkExpired, hr, hearly, Bool.false_eq_true, if_false, hlatest, hstatus]

/-- Looking at a request changes and counts it if it is overdue, and else does nothing. In particular a request that has
expired before is not counted, although it would say that it has. -/
theorem Sound.sweep_cons (h : d.Sound) (id : Nat) (ids : List Nat) :
    sweep (id :: ids) d = if d.isOverdue id then
      ((sweep ids (d.resolve id .expire).2).1 + 1, (sweep ids (d.resolve id .expire).2).2) else sweep ids d := by
  cases hr : d.request? id with
  | none => simp [sweep, isOverdue, hr]
  | some r =>
    cases hdue : r.isOverdue d.clock with
    | true =>
      have hopen : r.isPending = true := (Bool.and_eq_true_iff.1 hdue).1
      simp [sweep, isOverdue, hr, hdue, hopen, h.checkExpired_of_isOverdue hr hdue]
    | false =>
      cases hopen : r.isPending with
      | true => simp [sweep, isOverdue, hr, hdue, hopen, h.checkExpired_of_open hr hopen hdue]
      | false => simp [sweep, isOverdue, hr, hdue, hopen]

/-! ## All looks -/

theorem expireAll_cons (id : Nat) (ids : List Nat) (d : Desk) :
    expireAll (id :: ids) d = expireAll ids (d.resolve id .expire).2 := rfl

/-- In whatever order requests are looked at, those are counted and expire that were overdue in the beginning. -/
theorem Sound.sweep_eq (h : d.Sound) (hnodup : ids.Nodup) :
    sweep ids d = ((ids.filter d.isOverdue).length, expireAll (ids.filter d.isOverdue) d) := by
  induction ids generalizing d with
  | nil => rfl
  | cons id ids ih =>
    obtain ⟨hid, hnodup⟩ := List.nodup_cons.1 hnodup
    have hrest : ids.filter (d.resolve id .expire).2.isOverdue = ids.filter d.isOverdue :=
      List.filter_congr fun i hi => isOverdue_resolve (ne_of_mem_of_not_mem hi hid) .expire
    rw [h.sweep_cons, List.filter_cons]
    split
    · rw [ih (h.resolve id .expire) hnodup, hrest, List.length_cons, expireAll_cons]
    · exact ih h hnodup

theorem expireAll_policy (ids : List Nat) (d : Desk) : (expireAll ids d).policy = d.policy := by
  induction ids generalizing d with
  | nil => rfl
  | cons id ids ih => rw [expireAll_cons, ih, resolve_policy]

theorem expireAll_clock (ids : List Nat) (d : Desk) : (expireAll ids d).clock = d.clock := by
  induction ids generalizing d with
  | nil => rfl
  | cons id ids ih => rw [expireAll_cons, ih, resolve_clock]

theorem expireAll_registries (ids : List Nat) (d : Desk) : (expireAll ids d).registries = d.registries := by
  induction ids generalizing d with
  | nil => rfl
  | cons id ids ih => rw [expireAll_cons, ih, resolve_registries]

/-- What the observers of a request are told when it expires. -/
def expiryNews (d : Desk) (id : Nat) : List Delivery :=
  (d.request? id).elim [] fun r => (r.timedOut d.clock).announcement d.registries

/-- Requests that are overdue, each named once. -/
structure Overdue (d : Desk) (ids : List Nat) : Prop where
  nodup : ids.Nodup
  overdue : ∀ id ∈ ids, d.isOverdue id = true

/-- The first of them expires and the others are overdue still. -/
theorem Overdue.uncons (h : d.Overdue (id :: ids)) : id ∉ ids ∧ (d.resolve id .expire).2.Overdue ids ∧
    ∃ r, d.request? id = some r ∧ r.isOverdue d.clock = true := by
  obtain ⟨hid, hnodup⟩ := List.nodup_cons.1 h.nodup
  refine ⟨hid, ⟨hnodup, fun i hi => ?_⟩, isOverdue_eq_true_iff.1 (h.overdue id List.mem_cons_self)⟩
  rw [isOverdue_resolve (ne_of_mem_of_not_mem hi hid)]
  exact h.overdue i (List.mem_cons_of_mem _ hi)

/-- Each of them has expired in the end, and the other requests are as they were. -/
theorem Overdue.request? (h : d.Overdue ids) (i : Nat) :
    (expireAll ids d).request? i = (d.request? i).map fun r => if i ∈ ids then r.timedOut d.clock else r := by
  induction ids generalizing d with
  | nil => simp [expireAll]
  | cons id ids ih =>
    obtain ⟨hid, hrest, r, hr, hdue⟩ := h.uncons
    rw [expireAll_cons, ih hrest, resolve_clock]
    by_cases hi : i = id
    · subst hi
      rw [request?_resolve_of_isOverdue hr hdue, hr]
      simp [hid]
    · rw [resolve_request?_of_ne hi]
      simp [hi]

theorem Overdue.log (h : d.Overdue ids) : (expireAll ids d).log = d.log ++ ids.flatMap d.expiryNews := by
  induction ids generalizing d with
  | nil => simp [expireAll]
  | cons id ids ih =>
    obtain ⟨hid, hrest, r, hr, hdue⟩ := h.uncons
    have hnews : ids.flatMap (d.resolve id .expire).2.expiryNews = ids.flatMap d.expiryNews := by
      refine congrArg List.flatten (List.map_congr_left fun i hi => ?_)
      rw [expiryNews, resolve_request?_of_ne (ne_of_mem_of_not_mem hi hid), resolve_clock, resolve_registries]
      rfl
    have hlog : (d.resolve id .expire).2.log = d.log ++ d.expiryNews id := by
      rw [resolve_of_isOverdue hr hdue, expiryNews, hr]
      rfl
    rw [expireAll_cons, ih hrest, hnews, hlog, List.flatMap_cons, List.append_assoc]

/-! ## The registered requests -/

theorem Sound.nodup_currentIds (h : d.Sound) : d.currentIds.Nodup := by
  refine List.pairwise_map.2 (d.policy.current.sorted.imp_of_mem ?_)
  intro e e' he he' hlt heq
  -- a request is registered for its own thread only
  obtain ⟨r, hr, hthread⟩ := h.current e.1 e.2 ((KeySorted.findEntry_eq_some_iff d.policy.current.sorted).2 he)
  obtain ⟨r', hr', hthread'⟩ := h.current e'.1 e'.2 ((KeySorted.findEntry_eq_some_iff d.policy.current.sorted).2 he')
  rw [← heq, hr, Option.some.injEq] at hr'
  rw [← hthread, ← hthread', hr'] at hlt
  exact String.lt_irrefl _ hlt

/-- The registered requests that are overdue are the due ones. -/
theorem Sound.due_iff (h : d.Sound) (hr : d.request? id = some r) :
    d.Due r ↔ id ∈ d.currentIds ∧ d.isOverdue id = true := by
  obtain rfl : r.record.id = id := h.numbered id r hr
  rw [Desk.due_iff, isOverdue, hr, Option.any_some, mem_currentIds]
  refine and_congr_left fun _ => ⟨fun hcurrent => ⟨_, hcurrent⟩, ?_⟩
  rintro ⟨thread, hcurrent⟩
  obtain ⟨q, hq, rfl⟩ := h.current thread _ hcurrent
  obtain rfl : r = q := Option.some.inj (hr.symm.trans hq)
  exact hcurrent

/-- To expire requests is to look at the registered ones, thread by thread. -/
theorem Sound.expireRequests_eq_sweep (h : d.Sound) : d.expireRequests = sweep d.currentIds d := by
  rw [h.sweep_eq h.nodup_currentIds, expireRequests_eq, due_eq]

theorem Sound.nodup_ids (h : d.Sound) : (d.requests.map (·.record.id)).Nodup := by
  have hrange : d.requests.map (·.record.id) = List.range d.requests.length := by
    refine List.ext_getElem (by simp) fun i hi _ => ?_
    rw [List.length_map] at hi
    rw [List.getElem_map, List.getElem_range]
    exact h.numbered i _ (List.getElem?_eq_getElem hi)
  rw [hrange]
  exact List.nodup_range

/-- However the registered requests are ordered, those that are overdue are the due ones. -/
theorem Sound.due_perm (h : d.Sound) (horder : ids.Perm d.currentIds) :
    (ids.filter d.isOverdue).Perm ((d.requests.filter (d.Due ·)).map (·.record.id)) := by
  have hnodup : ids.Nodup := horder.nodup_iff.2 h.nodup_currentIds
  refine (List.perm_ext_iff_of_nodup (hnodup.filter _) (h.nodup_ids.sublist (List.filter_sublist.map _))).2 fun id => ?_
  simp only [List.mem_filter, List.mem_map, horder.mem_iff, decide_eq_true_eq]
  constructor
  · rintro ⟨hcurrent, hoverdue⟩
    obtain ⟨r, hr, -⟩ := isOverdue_eq_true_iff.1 hoverdue
    exact ⟨r, ⟨List.mem_of_getElem? hr, (h.due_iff hr).2 ⟨hcurrent, hoverdue⟩⟩, h.numbered id r hr⟩
  · rintro ⟨r, ⟨hr, hdue⟩, rfl⟩
    exact (h.due_iff (h.request?_of_mem hr)).1 hdue

theorem Sound.overdue (h : d.Sound) (horder : ids.Perm d.currentIds) : d.Overdue (ids.filter d.isOverdue) where
  nodup := (horder.nodup_iff.2 h.nodup_currentIds).filter _
  overdue _ hid := (List.mem_filter.1 hid).2

/-! ## What expiring does -/

theorem Sound.request?_of_due (h : d.Sound) (horder : ids.Perm d.currentIds) (i : Nat) :
    (expireAll (ids.filter d.isOverdue) d).request? i =
      (d.request? i).map fun r => if d.Due r then r.timedOut d.clock else r := by
  rw [(h.overdue horder).request?]
  refine Option.map_congr fun r hr => ?_
  have hdue : i ∈ ids.filter d.isOverdue ↔ d.Due r := by rw [h.due_iff hr, List.mem_filter, horder.mem_iff]
  simp only [hdue]

/-- What has expired is not overdue any more, so that there is nothing to do a second time. -/
theorem Sound.expireRequests_again (h : d.Sound) (horder : ids.Perm d.currentIds) :
    (expireAll (ids.filter d.isOverdue) d).expireRequests = (0, expireAll (ids.filter d.isOverdue) d) := by
  have hnone : (expireAll (ids.filter d.isOverdue) d).due = [] := by
    rw [due_eq, currentIds, expireAll_policy, List.filter_eq_nil_iff]
    intro id hid
    rw [Bool.not_eq_true, isOverdue, h.request?_of_due horder, expireAll_clock]
    cases hr : d.request? id with
    | none => rfl
    | some r =>
      rw [Option.map_some, Option.any_some]
      by_cases hdue : d.Due r
      · rw [if_pos hdue]
        rfl
      · rw [if_neg hdue]
        refine Bool.eq_false_iff.2 fun hoverdue => hdue ((h.due_iff hr).2 ⟨hid, ?_⟩)
        rwa [isOverdue, hr, Option.any_some]
  rw [expireRequests_eq, hnone]
  rfl

theorem Sound.expiresDue (h : d.Sound) (horder : ids.Perm d.currentIds) :
    d.ExpiresDue (sweep ids d).1 (sweep ids d).2 := by
  rw [h.sweep_eq (horder.nodup_iff.2 h.nodup_currentIds)]
  have hperm := h.due_perm horder
  refine ⟨?requests, expireAll_policy .., expireAll_registries .., expireAll_clock .., ?counted, ?told, ?woken,
    h.expireRequests_again horder⟩
  case requests =>
    refine List.ext_getElem? fun i => ?_
    rw [List.getElem?_map]
    exact h.request?_of_due horder i
  case counted => rw [hperm.length_eq, List.length_map]
  case told =>
    refine ⟨_, (h.overdue horder).log, ?_⟩
    have hnews : (d.requests.filter (d.Due ·)).flatMap (fun r => (r.timedOut d.clock).announcement d.registries) =
        ((d.requests.filter (d.Due ·)).map (·.record.id)).flatMap d.expiryNews := by
      rw [List.flatMap_map]
      refine congrArg List.flatten (List.map_congr_left fun r hr => ?_)
      rw [expiryNews, h.request?_of_mem (List.mem_filter.1 hr).1]
      rfl
    rw [hnews]
    exact hperm.flatMap_right _
  case woken =>
    intro r hr hdue rules horizon deadline agenda store replies
    refine passTime_of_decided (World.decision?_eq_some_iff.2 ⟨r.timedOut d.clock, ?_, rfl, rfl⟩)
    rw [h.request?_of_due horder, h.request?_of_mem hr, Option.map_some, if_pos hdue]

end Desk

/-- A wait to which it happens next that all requests are checked, before its time is up or it is given up. -/
structure Course.ChecksNext (c : Course) (r : Request) (limit : Option Nat) (time place : Nat) (rest : List Appointment) :
    Prop where
  agenda : c.agenda = ⟨time, place, .desk .expireRequests⟩ :: rest
  horizon : time ≤ c.horizon
  inTime : ∀ ms, limit.or r.timeout = some ms → time < c.world.desk.clock + ms

/-- Whoever waits for a request that expires when all are checked goes on at once, with the status that it has now. -/
theorem Course.ChecksNext.await {c : Course} {r : Request} {limit : Option Nat} {time place : Nat} {rest : List Appointment}
    {d : Desk} (h : c.ChecksNext r limit time place rest) (hd : c.world.desk.advanceTo time = d) (hsound : d.Sound)
    (hr : r ∈ d.requests) (hdue : d.Due r) (rules : EditRules) :
    c.await rules r limit = (some (.ok .timeout), { c with
      world := { c.world with desk := d.expireRequests.2 }
      agenda := rest
      replies := c.replies ++ [(place, .count d.expireRequests.1)] }) := by
  subst hd
  have hopen : c.world.decision? r.record.id = none := by
    have hrequest : c.world.desk.request? r.record.id = some r := hsound.request?_of_mem hr
    rw [World.decision?, hrequest, Option.bind_some, hdue.pending]
    rfl
  have hnext : (decide (time ≤ c.horizon) &&
      ((limit.or r.timeout).map (c.world.desk.clock + ·)).all fun deadline => time < deadline) = true := by
    rw [Bool.and_eq_true, decide_eq_true_eq]
    refine ⟨h.horizon, ?_⟩
    cases hlimit : limit.or r.timeout with
    | none => rfl
    | some ms => exact decide_eq_true (h.inTime ms hlimit)
  have hpass : passTime rules r.record.id c.horizon ((limit.or r.timeout).map (c.world.desk.clock + ·)) c.agenda c.world
      c.replies = (.decided .timeout, { c.world with desk := (c.world.desk.advanceTo time).expireRequests.2 }, rest,
        c.replies ++ [(place, .count (c.world.desk.advanceTo time).expireRequests.1)]) := by
    rw [h.agenda, passTime_of_due hopen hnext]
    have hexpires := hsound.expiresDue (.refl _)
    rw [← hsound.expireRequests_eq_sweep] at hexpires
    exact hexpires.woken r hr hdue rules _ _ rest c.world.store _
  exact await_of_passTime hpass

namespace Desk

end Desk

namespace Happening

end Happening

end GatedFlow
