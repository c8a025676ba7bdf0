import GatedFlow.Proofs.Approval.Reachable

/-! # Requests past their timeout

That the timeout of a request has passed changes nothing by itself: a decision about an open request is taken however
late it comes (`resolve_of_open`). The request expires where somebody looks (`Desk.Looks`): it is asked whether it has
expired, or all current requests are, or a wait for it is over. Once it has expired every decision is refused
(`Sound.refuses_of_expired`). Before its timeout has passed it expires neither where it is asked nor where all are
(`checkExpired_of_early`, `expireRequests_of_early`). -/

namespace GatedFlow

namespace Desk

def Expired (d : Desk) (id : Nat) : Prop := ∃ r, d.request? id = some r ∧ r.status = .timeout

/-- Somebody looks whether a request has expired; what the desk is then. -/
inductive Looks (d : Desk) (id : Nat) : Desk → Prop
  | alone : Looks d id (d.checkExpired id).2
  | together {thread : String} (hcurrent : d.policy.current.get? thread = some id) : Looks d id d.expireRequests.2
  | waiter {r : Request} (hr : r.record.id = id) (limit : Nat) : Looks d id (d.timeUp r limit).2

/-- The numbers of the registered requests, by thread. -/
def currentIds (d : Desk) : List Nat := d.policy.current.entries.map Prod.snd

/-- Whether there is a request that is open although its timeout has passed. -/
def isOverdue (d : Desk) (id : Nat) : Bool := (d.request? id).any (·.isOverdue d.clock)

variable {d d' : Desk} {id : Nat} {r r' : Request}

theorem Expired.grows (h : d.Expired id) (hgrows : d.Grows d') : d'.Expired id := by
  obtain ⟨r, hr, hstatus⟩ := h
  obtain ⟨r', hr', hlater⟩ := hgrows.kept id r hr
  rw [hlater.eq_of_isTerminal (by rw [hstatus]; rfl)] at hr'
  exact ⟨r, hr', hstatus⟩

theorem Sound.refuses_of_expired (h : d.Sound) (hexpired : d.Expired id) (decision : Decision) :
    d.resolve id decision = (some (.error (.alreadyResolved id .timeout)), d) := by
  obtain ⟨r, hr, hstatus⟩ := hexpired
  rw [resolve_eq_of_isTerminal hr (by rw [hstatus]; rfl), h.numbered id r hr, hstatus]

/-- A decision about an open request is taken at any time. -/
theorem resolve_of_open (hr : d.request? id = some r) (hopen : r.status.isTerminal = false) (decision : Decision) :
    (d.resolve id decision).1 = some (.ok ()) ∧
      ∃ r', (d.resolve id decision).2.request? id = some r' ∧ r'.status = decision.status := by
  obtain ⟨r', hdecided⟩ : ∃ r', r.resolve decision d.clock = .ok r' := ⟨_, Request.resolve_eq_ok_iff.2 ⟨hopen, rfl⟩⟩
  refine ⟨by rw [resolve_eq_of_ok hr hdecided], r', resolve_request?_of_ok hr hdecided, ?_⟩
  rw [(Request.resolve_eq_ok_iff.1 hdecided).2]
  rfl

theorem expired_resolve (hr : d.request? id = some r) (hopen : r.status.isTerminal = false) :
    (d.resolve id .expire).2.Expired id := (resolve_of_open hr hopen .expire).2

theorem expireAll_grows (ids : List Nat) (d : Desk) : d.Grows (expireAll ids d) := by
  induction ids generalizing d with
  | nil => exact .refl d
  | cons id ids ih => exact (d.resolve_grows id .expire).trans (ih _)

theorem expired_expireAll {ids : List Nat} (hid : id ∈ ids) (hr : d.request? id = some r)
    (hopen : r.status.isTerminal = false) : (expireAll ids d).Expired id := by
  induction ids generalizing d with
  | nil => cases hid
  | cons i ids ih =>
    by_cases hi : id = i
    · subst hi
      exact (expired_resolve hr hopen).grows (expireAll_grows ids _)
    · exact ih ((List.mem_cons.1 hid).resolve_left hi) ((resolve_request?_of_ne hi .expire).trans hr)

theorem isOverdue_eq_true_iff : d.isOverdue id = true ↔ ∃ r, d.request? id = some r ∧ r.isOverdue d.clock = true :=
  Option.any_eq_true ..

theorem mem_currentIds : id ∈ d.currentIds ↔ ∃ thread, d.policy.current.get? thread = some id := by
  simp only [currentIds, List.mem_map, Prod.exists, exists_eq_right, Record.get?,
    KeySorted.findEntry_eq_some_iff d.policy.current.sorted]

/-- The requests that expire together are the registered ones that are overdue. -/
theorem due_eq (d : Desk) : d.due = d.currentIds.filter d.isOverdue := by
  unfold due currentIds
  induction d.policy.current.entries with
  | nil => rfl
  | cons e entries ih =>
    have hfirst : ((d.request? e.2).bind fun r => if r.isOverdue d.clock then some e.2 else none) =
        if d.isOverdue e.2 then some e.2 else none := by
      rw [isOverdue]
      cases d.request? e.2 <;> rfl
    rw [List.filterMap_cons, hfirst, List.map_cons, List.filter_cons, ih]
    cases d.isOverdue e.2 <;> rfl

theorem mem_due_iff : id ∈ d.due ↔ (∃ thread, d.policy.current.get? thread = some id) ∧
    ∃ r, d.request? id = some r ∧ r.isOverdue d.clock = true := by
  rw [due_eq, List.mem_filter, mem_currentIds, isOverdue_eq_true_iff]

/-- A request that is overdue expires if somebody looks. -/
theorem Looks.expired (h : Looks d id d') (hr : d.request? id = some r) (hdue : r.isOverdue d.clock = true) :
    d'.Expired id := by
  have hopen : r.status.isTerminal = false := Request.isPending_iff.1 (Bool.and_eq_true_iff.1 hdue).1
  cases h with
  | alone =>
    simp only [checkExpired, hr, if_pos hdue]
    exact expired_resolve hr hopen
  | together hcurrent => exact expired_expireAll (mem_due_iff.2 ⟨⟨_, hcurrent⟩, r, hr, hdue⟩) hr hopen
  | @waiter q hq limit =>
    subst hq
    rw [timeUp_snd]
    exact expired_resolve hr hopen

theorem Looks.acts (h : Looks d id d') : d.Acts d' := by
  cases h with
  | alone => exact d.checkExpired_acts id
  | together => exact d.expireRequests_acts
  | @waiter r hr limit => exact (timeUp_snd d r limit).symm ▸ .single (.resolve _ _)

/-- A request that is not overdue is left as it is when one is asked whether it has expired, be it this one or another. -/
theorem checkExpired_of_early (hr : d.request? id = some r) (hearly : r.isOverdue d.clock = false) (i : Nat) :
    (d.checkExpired i).2.request? id = some r := by
  unfold checkExpired
  split
  · exact hr
  rename_i q hq
  dsimp only
  split
  · rename_i hdue
    have hne : id ≠ i := by
      rintro rfl
      obtain rfl : r = q := Option.some.inj (hr.symm.trans hq)
      exact Bool.false_ne_true (hearly.symm.trans hdue)
    rw [resolve_request?_of_ne hne]
    exact hr
  · exact hr

theorem not_mem_due (hr : d.request? id = some r) (hearly : r.isOverdue d.clock = false) : id ∉ d.due := by
  intro hmem
  obtain ⟨-, q, hq, hdue⟩ := mem_due_iff.1 hmem
  obtain rfl : r = q := Option.some.inj (hr.symm.trans hq)
  exact Bool.false_ne_true (hearly.symm.trans hdue)

theorem expireAll_of_not_mem {ids : List Nat} (h : id ∉ ids) : (expireAll ids d).request? id = d.request? id := by
  induction ids generalizing d with
  | nil => rfl
  | cons i ids ih =>
    rw [List.mem_cons, not_or] at h
    exact (ih h.2).trans (resolve_request?_of_ne h.1 .expire)

/-- A request that is not overdue is left as it is when all current requests are checked. -/
theorem expireRequests_of_early (hr : d.request? id = some r) (hearly : r.isOverdue d.clock = false) :
    d.expireRequests.2.request? id = some r :=
  (expireAll_of_not_mem (not_mem_due hr hearly)).trans hr

end Desk
end GatedFlow
