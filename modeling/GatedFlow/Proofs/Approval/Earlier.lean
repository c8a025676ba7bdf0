import GatedFlow.Proofs.Approval.Connected

/-! # Earlier requests

`DeskCommand.decides` lists the requests that business at the desk may decide. What decides later requests only leaves
the earlier ones as they are, and none of them becomes the current one of a thread (`Desk.Spares`). -/

namespace GatedFlow

namespace Desk

/-- The requests with the first numbers are as they were, and none of them is the current one of a thread that was not. -/
structure Spares (old : Nat) (d d' : Desk) : Prop where
  made : d.requests.length ≤ d'.requests.length
  leaves : d.Leaves old d'
  current : ∀ thread id, d'.policy.current.get? thread = some id →
    old ≤ id ∨ d.policy.current.get? thread = some id

variable {old : Nat} {d d' d'' : Desk}

namespace Spares

theorem trans (h : d.Spares old d') (h' : d'.Spares old d'') : d.Spares old d'' where
  made := Nat.le_trans h.made h'.made
  leaves id hid := (h'.leaves id hid).trans (h.leaves id hid)
  current thread id hid := (h'.current thread id hid).elim .inl (h.current thread id)

theorem of_eq (hrequests : d'.requests = d.requests) (hcurrent : d'.policy.current = d.policy.current) :
    d.Spares old d' where
  made := Nat.le_of_eq (congrArg List.length hrequests.symm)
  leaves id _ := by rw [request?, request?, hrequests]
  current thread id hid := .inr (hcurrent ▸ hid)

theorem refl (d : Desk) : d.Spares old d := .of_eq rfl rfl

theorem of_append {made : List Request} (hd : old ≤ d.requests.length) (hrequests : d'.requests = d.requests ++ made)
    (hcurrent : ∀ thread id, d'.policy.current.get? thread = some id →
      d.requests.length ≤ id ∨ d.policy.current.get? thread = some id) : d.Spares old d' where
  made := by
    rw [hrequests, List.length_append]
    exact Nat.le_add_right ..
  leaves id hid := by
    rw [request?, request?, hrequests, List.getElem?_append_left (Nat.lt_of_lt_of_le hid hd)]
  current thread id hid := (hcurrent thread id hid).imp_left (Nat.le_trans hd)

end Spares

variable (d)

theorem spares_tellAll (registry : Nat) (events : List Event) : d.Spares old (d.tellAll registry events) :=
  .of_eq (tellAll_requests registry events) (congrArg Policy.current (tellAll_policy registry events))

theorem spares_advanceTo (time : Nat) : d.Spares old (d.advanceTo time) := .of_eq rfl rfl

theorem spares_addRequest (hd : old ≤ d.requests.length) (thread node reason : String) (timeout registry : Option Nat) :
    d.Spares old (d.addRequest thread node reason timeout registry).2 :=
  .of_append hd rfl fun _ _ => .inr

theorem spares_createRequest (hd : old ≤ d.requests.length) (thread node reason : String) (timeout : Option Nat) :
    d.Spares old (d.createRequest thread node reason timeout).2 := by
  refine .of_append hd rfl fun t id hid => ?_
  rw [createRequest_current] at hid
  split at hid
  · exact .inl (Nat.le_of_eq (Option.some.inj hid))
  · exact .inr hid

theorem spares_resolve {id : Nat} (h : old ≤ id) (decision : Decision) : d.Spares old (d.resolve id decision).2 where
  made := (d.resolve_grows id decision).length_le
  leaves _ hi := resolve_request?_of_ne (Nat.ne_of_lt (Nat.lt_of_lt_of_le hi h)) decision
  current _ _ hi := .inr (resolve_policy d id decision ▸ hi)

theorem spares_withdrawn (thread : String) : d.Spares old (d.withdrawn thread) where
  made := Nat.le_refl _
  leaves _ _ := rfl
  current t id hid := by
    rw [withdrawn, Record.get?_erase] at hid
    split at hid
    · cases hid
    · exact .inr hid

/-- Withdrawing a request that is decided changes no request. -/
theorem spares_cancelRequest {thread : String} (h : ∀ id r, d.policy.current.get? thread = some id →
    d.request? id = some r → old ≤ id ∨ r.status.isTerminal = true) : d.Spares old (d.cancelRequest thread).2 := by
  cases hid : d.policy.current.get? thread with
  | none =>
    have hsame : (d.cancelRequest thread).2 = d := by simp only [cancelRequest, hid]
    rw [hsame]
    exact .refl d
  | some id =>
    rw [cancelRequest_of_current hid]
    cases hr : d.request? id with
    | none => exact d.spares_withdrawn thread
    | some r =>
      dsimp only
      split
      · rename_i hpending
        -- an open request is rejected, so it must be a later one
        refine (d.spares_withdrawn thread).trans (spares_resolve _ ((h id r hid hr).resolve_right fun ht => ?_) _)
        rw [Request.isPending, beq_iff_eq] at hpending
        rw [hpending] at ht
        cases ht
      · exact d.spares_withdrawn thread

theorem spares_checkExpired {id : Nat} (h : old ≤ id) : d.Spares old (d.checkExpired id).2 := by
  unfold checkExpired
  split
  · exact .refl d
  · dsimp only
    split
    · exact d.spares_resolve h .expire
    · exact .refl d

theorem spares_expireAll {ids : List Nat} (h : ∀ id ∈ ids, old ≤ id) : d.Spares old (expireAll ids d) := by
  unfold expireAll
  induction ids generalizing d with
  | nil => exact .refl d
  | cons id ids ih =>
    obtain ⟨hid, hids⟩ := List.forall_mem_cons.1 h
    exact (d.spares_resolve hid .expire).trans (ih _ hids)

end Desk

/-- The numbers of the requests that business at the desk may decide. -/
def DeskCommand.decides (c : DeskCommand) (d : Desk) : List Nat :=
  match c with
  | decide target _ => (d.numberOf target).toList
  | checkExpired target => (d.numberOf target).toList
  | cancel thread => (d.policy.current.get? thread).toList
  | expireRequests => d.due
  | _ => []

theorem DeskCommand.spares (c : DeskCommand) {d : Desk} {old : Nat} (hd : old ≤ d.requests.length)
    (h : ∀ id ∈ c.decides d, old ≤ id) : d.Spares old (c.run d).2 := by
  cases c with
  | askReason s node => exact d.spares_tellAll _ _
  | createRequest thread node reason timeout => exact d.spares_createRequest hd thread node reason timeout
  | addRequest thread node reason timeout => exact d.spares_addRequest hd thread node reason timeout none
  | cancel thread => exact d.spares_cancelRequest fun id r hid _ => .inl (h id (Option.mem_toList.2 hid))
  | decide target decision =>
    rw [decide_snd]
    cases hid : d.numberOf target with
    | none => exact .refl d
    | some id => exact d.spares_resolve (h id (Option.mem_toList.2 hid)) decision
  | checkExpired target =>
    dsimp only [run]
    cases hid : d.numberOf target with
    | none => exact .refl d
    | some id => exact d.spares_checkExpired (h id (Option.mem_toList.2 hid))
  | expireRequests => exact d.spares_expireAll h
  | addAlways node => exact .of_eq rfl (DeskCommand.run_current (.addAlways node) d)
  | _ => exact .of_eq rfl rfl

end GatedFlow
