import GatedFlow.Proofs.Approval.Notices
import Mathlib.Logic.Relation

/-! # The acts that a desk is changed by

Whatever is done at the approval desk is made of a few kinds of acts (`Desk.Act`): a request is added or becomes the
current one of its thread, is decided, or is withdrawn; else requests, the threads' current ones and the default timeout
stay as they are, and time does not run back. `Desk.Acts` is a sequence of acts. What every act keeps is kept by
commands, runs and whole sessions. -/

namespace GatedFlow

namespace Desk

/-- One change of a desk. -/
inductive Act : Desk → Desk → Prop
  | aside {d d' : Desk} (hrequests : d'.requests = d.requests) (hcurrent : d'.policy.current = d.policy.current)
      (hdefault : d'.policy.defaultTimeout = d.policy.defaultTimeout) (hclock : d.clock ≤ d'.clock) : Act d d'
  | add {d : Desk} (thread node reason : String) (timeout : Option Nat) :
      Act d (d.addRequest thread node reason timeout none).2
  | create {d : Desk} (thread node reason : String) (timeout : Option Nat) :
      Act d (d.createRequest thread node reason timeout).2
  | resolve {d : Desk} (id : Nat) (decision : Decision) : Act d (d.resolve id decision).2
  | cancel {d : Desk} (thread : String) : Act d (d.cancelRequest thread).2

/-- One change after the other. -/
abbrev Acts : Desk → Desk → Prop := Relation.ReflTransGen Act

variable {d d' : Desk}

namespace Acts

theorem aside (hrequests : d'.requests = d.requests) (hcurrent : d'.policy.current = d.policy.current)
    (hdefault : d'.policy.defaultTimeout = d.policy.defaultTimeout) (hclock : d.clock ≤ d'.clock) : d.Acts d' :=
  .single (.aside hrequests hcurrent hdefault hclock)

theorem of_policy (hrequests : d'.requests = d.requests) (hpolicy : d'.policy = d.policy) (hclock : d.clock ≤ d'.clock) :
    d.Acts d' :=
  .aside hrequests (by rw [hpolicy]) (by rw [hpolicy]) hclock

/-- What holds of a desk and is kept by each act holds after acts. -/
theorem keeps {I : Desk → Prop} (hact : ∀ {d d'}, I d → Act d d' → I d') (h : d.Acts d') (hd : I d) : I d' := by
  induction h with
  | refl => exact hd
  | tail _ hlast ih => exact hact ih hlast

end Acts

@[simp] theorem tellAll_clock (registry : Nat) (events : List Event) : (d.tellAll registry events).clock = d.clock := by
  unfold tellAll
  induction events generalizing d with
  | nil => rfl
  | cons e events ih => rw [List.foldl_cons, ih, tell_clock]

theorem tellAll_acts (d : Desk) (registry : Nat) (events : List Event) : d.Acts (d.tellAll registry events) :=
  .of_policy (tellAll_requests ..) (tellAll_policy ..) (Nat.le_of_eq (tellAll_clock ..).symm)

theorem advanceTo_acts (d : Desk) (time : Nat) : d.Acts (d.advanceTo time) := .of_policy rfl rfl (Nat.le_max_left ..)

theorem checkExpired_acts (d : Desk) (id : Nat) : d.Acts (d.checkExpired id).2 := by
  unfold checkExpired
  split
  · exact .refl
  · dsimp only
    split
    · exact .single (.resolve id .expire)
    · exact .refl

theorem expireRequests_acts (d : Desk) : d.Acts d.expireRequests.2 := by
  unfold expireRequests
  generalize d.policy.current.entries.filterMap _ = due
  show d.Acts (due.foldl (fun d id => (d.resolve id .expire).2) d)
  induction due generalizing d with
  | nil => exact .refl
  | cons id due ih => exact .head (.resolve id .expire) (ih _)

theorem cancelRequest_of_none {thread : String} (h : d.policy.current.get? thread = none) :
    (d.cancelRequest thread).2 = d := by
  simp only [cancelRequest, h]

/-- To withdraw a request is to take it from its thread and to reject it, which does nothing if it is decided. -/
theorem cancelRequest_of_some {thread : String} {id : Nat} (h : d.policy.current.get? thread = some id) :
    (d.cancelRequest thread).2 = ((d.withdrawn thread).resolve id .cancel).2 := by
  rw [cancelRequest_of_current h]
  have hfound : (d.withdrawn thread).request? id = d.request? id := rfl
  cases hr : d.request? id with
  | none => simp only [resolve, hfound, hr]
  | some r =>
    by_cases hpending : r.isPending = true
    · simp only [if_pos hpending]
    · have hdecided : r.status.isTerminal = true := by
        rw [Request.isPending] at hpending
        cases hs : r.status <;> simp_all [ApprovalStatus.isTerminal]
      rw [resolve_eq_of_isTerminal (hfound.trans hr) hdecided]
      simp only [if_neg hpending]

theorem cancelRequest_same (d : Desk) (thread : String) : (d.cancelRequest thread).2.clock = d.clock ∧
    (d.cancelRequest thread).2.policy.defaultTimeout = d.policy.defaultTimeout := by
  cases h : d.policy.current.get? thread with
  | none => rw [cancelRequest_of_none h]; exact ⟨rfl, rfl⟩
  | some id =>
    rw [cancelRequest_of_some h, resolve_clock, resolve_policy]
    exact ⟨rfl, rfl⟩

namespace Act

theorem grows (h : Act d d') : d.Grows d' := by
  cases h with
  | aside hrequests hcurrent => exact .of_eq hrequests hcurrent
  | add thread node reason timeout => exact d.addRequest_grows thread node reason timeout none
  | create thread node reason timeout => exact d.createRequest_grows thread node reason timeout
  | resolve id decision => exact d.resolve_grows id decision
  | cancel thread => exact d.cancelRequest_grows thread

theorem defaultTimeout (h : Act d d') : d'.policy.defaultTimeout = d.policy.defaultTimeout := by
  cases h with
  | aside _ _ hdefault => exact hdefault
  | add => rfl
  | create => rfl
  | resolve id decision => rw [resolve_policy]
  | cancel thread => exact (d.cancelRequest_same thread).2

end Act

namespace Acts

theorem grows (h : d.Acts d') : d.Grows d' := by
  induction h with
  | refl => exact .refl _
  | tail _ hlast ih => exact ih.trans hlast.grows

theorem defaultTimeout (h : d.Acts d') : d'.policy.defaultTimeout = d.policy.defaultTimeout :=
  h.keeps (fun hd hact => hact.defaultTimeout.trans hd) rfl

end Acts

end Desk

theorem DeskCommand.run_acts (c : DeskCommand) (d : Desk) : d.Acts (c.run d).2 := by
  cases c with
  | addCondition name c => exact .aside rfl rfl rfl (Nat.le_refl _)
  | removeCondition name => exact .aside rfl rfl rfl (Nat.le_refl _)
  | addAlways node =>
    have hsame : (d.policy.addAlways node).current = d.policy.current ∧
        (d.policy.addAlways node).defaultTimeout = d.policy.defaultTimeout := by
      unfold Policy.addAlways
      split <;> exact ⟨rfl, rfl⟩
    exact .aside rfl hsame.1 hsame.2 (Nat.le_refl _)
  | removeAlways node => exact .aside rfl rfl rfl (Nat.le_refl _)
  | defaultTimeout => exact .refl
  | askReason s node => exact d.tellAll_acts _ _
  | createRequest thread node reason timeout => exact .single (.create thread node reason timeout)
  | addRequest thread node reason timeout => exact .single (.add thread node reason timeout)
  | lookUp target => exact .refl
  | cancel thread => exact .single (.cancel thread)
  | decide target decision =>
    rw [decide_snd]
    split
    · exact .refl
    · exact .single (.resolve _ decision)
  | checkExpired target =>
    simp only [run]
    split
    · exact .refl
    · exact d.checkExpired_acts _
  | pendingRequests => exact .refl
  | expireRequests => exact d.expireRequests_acts
  | advance ms => exact .of_policy rfl rfl (Nat.le_add_right ..)

theorem Desk.checkExpired_clock (d : Desk) (id : Nat) : (d.checkExpired id).2.clock = d.clock := by
  unfold checkExpired
  split
  · rfl
  · dsimp only
    split
    · exact resolve_clock ..
    · rfl

theorem Desk.expireRequests_clock (d : Desk) : d.expireRequests.2.clock = d.clock := by
  unfold expireRequests
  generalize d.policy.current.entries.filterMap _ = due
  show (due.foldl (fun d id => (d.resolve id .expire).2) d).clock = d.clock
  induction due generalizing d with
  | nil => rfl
  | cons id due ih => exact (ih _).trans (resolve_clock ..)

/-- Business at the desk takes no time, unless it is to let time pass. -/
theorem DeskCommand.run_clock (c : DeskCommand) (d : Desk) :
    (c.run d).2.clock = match c with
      | .advance ms => d.clock + ms
      | _ => d.clock := by
  cases c with
  | askReason s node => exact Desk.tellAll_clock ..
  | cancel thread => exact (d.cancelRequest_same thread).1
  | decide target decision =>
    dsimp only
    rw [decide_snd]
    split
    · rfl
    · exact Desk.resolve_clock ..
  | checkExpired target =>
    dsimp only [run]
    split
    · rfl
    · exact d.checkExpired_clock _
  | expireRequests => exact d.expireRequests_clock
  | _ => rfl

end GatedFlow
