import GatedFlow.Proofs.Approval.Business
import GatedFlow.Proofs.Observer.View

/-! # What observers are told at the desk

`DeskCommand.notices` lists what business at the desk tells the observers. In a view of the desk every command does the
same and answers the same, and the observers of the view record what is heard of the notices
(`View.run_desk`). -/

namespace GatedFlow

/-- The notice of the decision that a request has come to. -/
def Request.resolution (r : Request) : List Notice :=
  r.registry.toList.map fun registry => ⟨registry, .approvalResolved r.record.thread r.record.node r.status⟩

namespace Desk

def askNotices (d : Desk) (s : State) (node : String) : List Notice :=
  (d.policy.failures s node).map (Notice.mk d.policy.registry)

def createNotices (d : Desk) (thread node reason : String) : List Notice :=
  [⟨d.policy.registry, .interruptRaised thread node reason⟩]

def resolveNotices (d : Desk) (id : Nat) (decision : Decision) : List Notice :=
  match d.request? id with
  | none => []
  | some r =>
    match r.resolve decision d.clock with
    | .error _ => []
    | .ok r => r.resolution

/-- The desk after a thread's current request has ceased to be that. -/
def withdrawn (d : Desk) (thread : String) : Desk :=
  { d with policy := { d.policy with current := d.policy.current.erase thread } }

theorem cancelRequest_of_current {d : Desk} {thread : String} {id : Nat} (h : d.policy.current.get? thread = some id) :
    d.cancelRequest thread = match d.request? id with
      | none => (none, d.withdrawn thread)
      | some r =>
        let d' := if r.isPending then ((d.withdrawn thread).resolve id .cancel).2 else d.withdrawn thread
        (some (d'.latest r), d') := by
  unfold cancelRequest
  rw [h]
  rfl

/-- What is told of a decision does not depend on the time. -/
theorem resolveNotices_of_request {d : Desk} {id : Nat} {r : Request} (hr : d.request? id = some r) (decision : Decision) :
    d.resolveNotices id decision = if r.status.isTerminal then [] else
      r.registry.toList.map fun registry =>
        ⟨registry, .approvalResolved r.record.thread r.record.node decision.status⟩ := by
  simp only [resolveNotices, hr, Request.resolve]
  cases r.status.isTerminal <;> rfl

theorem resolveNotices_advanceTo (d : Desk) (time id : Nat) (decision : Decision) :
    (d.advanceTo time).resolveNotices id decision = d.resolveNotices id decision := by
  have hsame : (d.advanceTo time).request? id = d.request? id := rfl
  cases hr : d.request? id with
  | none => simp only [resolveNotices, hsame, hr]
  | some r => rw [resolveNotices_of_request hr, resolveNotices_of_request (hsame.trans hr)]

def cancelNotices (d : Desk) (thread : String) : List Notice :=
  match d.policy.current.get? thread with
  | none => []
  | some id => if (d.request? id).any Request.isPending then d.resolveNotices id .cancel else []

def expiryNotices (d : Desk) (id : Nat) : List Notice :=
  if (d.request? id).any (·.isOverdue d.clock) then d.resolveNotices id .expire else []

/-- The registered requests that are overdue, thread by thread. -/
def due (d : Desk) : List Nat :=
  d.policy.current.entries.filterMap fun e =>
    (d.request? e.2).bind fun r => if r.isOverdue d.clock then some e.2 else none

def expireAll (ids : List Nat) (d : Desk) : Desk := ids.foldl (fun d id => (d.resolve id .expire).2) d

theorem expireRequests_eq (d : Desk) : d.expireRequests = (d.due.length, expireAll d.due d) := rfl

def expireAllNotices : List Nat → Desk → List Notice
  | [], _ => []
  | id :: ids, d => d.resolveNotices id .expire ++ expireAllNotices ids (d.resolve id .expire).2

end Desk

/-- What business at the desk tells the observers. -/
def DeskCommand.notices (c : DeskCommand) (d : Desk) : List Notice :=
  match c with
  | askReason s node => d.askNotices s node
  | createRequest thread node reason _ => d.createNotices thread node reason
  | cancel thread => d.cancelNotices thread
  | decide target decision => (d.numberOf target).toList.flatMap fun id => d.resolveNotices id decision
  | checkExpired target => (d.numberOf target).toList.flatMap d.expiryNotices
  | expireRequests => Desk.expireAllNotices d.due d
  | _ => []

theorem Desk.tellAll_eq (d : Desk) (registry : Nat) (events : List Event) :
    d.tellAll registry events = { d with log := d.log ++ events.flatMap (registryAt d.registries registry).deliver } := by
  unfold tellAll
  induction events generalizing d with
  | nil => simp
  | cons e events ih =>
    rw [List.foldl_cons, ih]
    simp only [tell, List.flatMap_cons, List.append_assoc]
    rfl

namespace View

variable (v : View) (d : Desk) (log : List Delivery)

/-- A desk in a view, with what its observers have recorded. -/
def desk (d : Desk) (log : List Delivery) : Desk :=
  { d with policy := d.policy.replace v.predicate, registries := v.registries, log }

@[simp] theorem desk_tellAll (registry : Nat) (events : List Event) : v.desk (d.tellAll registry events) log = v.desk d log := by
  rw [Desk.tellAll_eq]
  rfl

theorem tellAll_desk (registry : Nat) (events : List Event) : (v.desk d log).tellAll registry (events.filter v.hears) =
    v.desk d (log ++ v.told (events.map (Notice.mk registry))) := by
  rw [Desk.tellAll_eq, told_map]
  rfl

theorem askReason_desk (s : State) (node : String) : (v.desk d log).askReason s node =
    ((d.askReason s node).1, v.desk (d.askReason s node).2 (log ++ v.told (d.askNotices s node))) := by
  have hreason : (v.desk d log).policy.reason? s node = d.policy.reason? s node := d.policy.reason?_replace v.answers s node
  have hfailures : (v.desk d log).policy.failures s node = (d.policy.failures s node).filter v.hears :=
    v.failures_policy d.policy s node
  unfold Desk.askReason Desk.askNotices
  rw [hreason, hfailures, desk_tellAll]
  exact congrArg _ (v.tellAll_desk d log d.policy.registry _)

theorem createRequest_desk (thread node reason : String) (timeout : Option Nat) :
    (v.desk d log).createRequest thread node reason timeout = ((d.createRequest thread node reason timeout).1,
      v.desk (d.createRequest thread node reason timeout).2 (log ++ v.told (d.createNotices thread node reason))) := by
  have hheard : v.hears (.interruptRaised thread node reason) = true := v.hears_of_not_isFailure _ rfl
  have htold : v.told (d.createNotices thread node reason) =
      (registryAt v.registries d.policy.registry).deliver (.interruptRaised thread node reason) := by
    simp only [Desk.createNotices, told, List.filter_cons, hheard, if_true, List.filter_nil, recorded, List.flatMap_cons,
      List.flatMap_nil, List.append_nil]
  rw [htold]
  rfl

theorem resolve_desk (id : Nat) (decision : Decision) : (v.desk d log).resolve id decision =
    ((d.resolve id decision).1, v.desk (d.resolve id decision).2 (log ++ v.told (d.resolveNotices id decision))) := by
  have hsame : (v.desk d log).request? id = d.request? id := rfl
  cases hr : d.request? id with
  | none => simp only [Desk.resolve, Desk.resolveNotices, hsame, hr, told_nil, List.append_nil]
  | some r =>
    cases h : r.resolve decision d.clock with
    | error e =>
      have h' : r.resolve decision (v.desk d log).clock = .error e := h
      simp only [Desk.resolve, Desk.resolveNotices, hsame, hr, h, h', told_nil, List.append_nil]
    | ok r' =>
      rw [Desk.resolve_eq_of_ok hr h, Desk.resolve_eq_of_ok (hsame.trans hr) h]
      -- a decision is no failure of a predicate, so it is heard in every view
      have hannounced : r'.announcement v.registries = v.told (d.resolveNotices id decision) := by
        simp only [Desk.resolveNotices, hr, h, Request.resolution, Request.announcement]
        cases r'.registry with
        | none => rfl
        | some registry =>
          have hheard : v.hears (.approvalResolved r'.record.thread r'.record.node r'.status) = true :=
            v.hears_of_not_isFailure _ rfl
          simp only [told, Option.toList_some, List.map_cons, List.map_nil, List.filter_cons, hheard, if_true,
            List.filter_nil, recorded, List.flatMap_cons, List.flatMap_nil, List.append_nil]
          rfl
      rw [← hannounced]
      rfl

/-- When a wait's time is up, the observers are told what they are told of the expiry. -/
theorem timeUp_desk (r : Request) (limit : Nat) : (v.desk d log).timeUp r limit =
    ((d.timeUp r limit).1,
      v.desk (d.timeUp r limit).2 (log ++ v.told (d.resolveNotices r.record.id .expire))) := by
  unfold Desk.timeUp
  rw [resolve_desk]
  rcases d.resolve r.record.id .expire with ⟨_ | (e | _), d'⟩
  · rfl
  · cases e <;> rfl
  · rfl

theorem cancelRequest_desk (thread : String) : (v.desk d log).cancelRequest thread =
    ((d.cancelRequest thread).1, v.desk (d.cancelRequest thread).2 (log ++ v.told (d.cancelNotices thread))) := by
  cases hid : d.policy.current.get? thread with
  | none =>
    have hid' : (v.desk d log).policy.current.get? thread = none := hid
    simp only [Desk.cancelRequest, Desk.cancelNotices, hid, hid', told_nil, List.append_nil]
  | some id =>
    have hid' : (v.desk d log).policy.current.get? thread = some id := hid
    -- withdrawing a request changes none, so it tells the same before and after
    have hnotices : d.cancelNotices thread =
        if (d.request? id).any Request.isPending then (d.withdrawn thread).resolveNotices id .cancel else [] := by
      simp only [Desk.cancelNotices, hid]
      rfl
    have hresolve := v.resolve_desk (d.withdrawn thread) log id .cancel
    have hsame : (v.desk d log).request? id = d.request? id := rfl
    have hwithdrawn : (v.desk d log).withdrawn thread = v.desk (d.withdrawn thread) log := rfl
    rw [Desk.cancelRequest_of_current hid, Desk.cancelRequest_of_current hid', hnotices, hsame, hwithdrawn]
    cases d.request? id with
    | none => simp only [Option.any_none, Bool.false_eq_true, if_false, told_nil, List.append_nil]
    | some r =>
      cases hp : r.isPending with
      | false =>
        simp only [Option.any_some, hp, Bool.false_eq_true, if_false, told_nil, List.append_nil]
        rfl
      | true =>
        simp only [Option.any_some, hp, if_true, hresolve]
        rfl

theorem checkExpired_desk (id : Nat) : (v.desk d log).checkExpired id =
    ((d.checkExpired id).1, v.desk (d.checkExpired id).2 (log ++ v.told (d.expiryNotices id))) := by
  have hsame : (v.desk d log).request? id = d.request? id := rfl
  cases hr : d.request? id with
  | none =>
    simp only [Desk.checkExpired, Desk.expiryNotices, hsame, hr, Option.any_none, Bool.false_eq_true, if_false, told_nil,
      List.append_nil]
  | some r =>
    have hclock : r.isOverdue (v.desk d log).clock = r.isOverdue d.clock := rfl
    simp only [Desk.checkExpired, Desk.expiryNotices, hsame, hr, hclock, Option.any_some, resolve_desk]
    split
    · rfl
    · rw [told_nil, List.append_nil]
      rfl

theorem expireAll_desk (ids : List Nat) : Desk.expireAll ids (v.desk d log) =
    v.desk (Desk.expireAll ids d) (log ++ v.told (Desk.expireAllNotices ids d)) := by
  unfold Desk.expireAll
  induction ids generalizing d log with
  | nil => simp only [List.foldl_nil, Desk.expireAllNotices, told_nil, List.append_nil]
  | cons id ids ih =>
    simp only [List.foldl_cons, resolve_desk, ih, Desk.expireAllNotices, told_append, List.append_assoc]

theorem expireRequests_desk : (v.desk d log).expireRequests =
    (d.expireRequests.1, v.desk d.expireRequests.2 (log ++ v.told (Desk.expireAllNotices d.due d))) := by
  rw [Desk.expireRequests_eq, Desk.expireRequests_eq, ← expireAll_desk]
  rfl

theorem addCondition_desk (name : String) (c : Condition) :
    (d.policy.replace v.predicate).addCondition name (c.replace v.predicate) =
      (d.policy.addCondition name c).replace v.predicate := by
  have hplace : ∀ l : List (String × Condition), Policy.placeCondition name (c.replace v.predicate)
      (l.map fun e => (e.1, e.2.replace v.predicate)) =
        (Policy.placeCondition name c l).map fun e => (e.1, e.2.replace v.predicate) := by
    intro l
    induction l with
    | nil => rfl
    | cons e l ih =>
      simp only [List.map_cons, Policy.placeCondition]
      split
      · rfl
      · rw [ih, List.map_cons]
  exact congrArg (fun conditions => { d.policy with conditions }) (hplace d.policy.conditions)

theorem removeCondition_desk (name : String) :
    (d.policy.replace v.predicate).removeCondition name = (d.policy.removeCondition name).replace v.predicate :=
  congrArg (fun conditions => { d.policy with conditions }) (List.filter_map ..)

theorem conditionNames_desk (p : Policy) : (p.replace v.predicate).conditionNames = p.conditionNames := by
  simp only [Policy.conditionNames, Policy.replace, List.map_map]
  rfl

theorem addAlways_desk (p : Policy) (node : String) :
    (p.replace v.predicate).addAlways node = (p.addAlways node).replace v.predicate := by
  unfold Policy.addAlways
  show (if node ∈ p.always then _ else _) = _
  split <;> rfl

theorem run_desk (c : DeskCommand) : (c.replace v.predicate).run (v.desk d log) =
    ((c.run d).1, v.desk (c.run d).2 (log ++ v.told (c.notices d))) := by
  have hpolicy : (v.desk d log).policy = d.policy.replace v.predicate := rfl
  have hnumber : ∀ target, (v.desk d log).numberOf target = d.numberOf target := fun target => by cases target <;> rfl
  cases c with
  | askReason s node => simp only [DeskCommand.replace, DeskCommand.run, DeskCommand.notices, askReason_desk]
  | createRequest thread node reason timeout =>
    simp only [DeskCommand.replace, DeskCommand.run, DeskCommand.notices, createRequest_desk]
  | cancel thread => simp only [DeskCommand.replace, DeskCommand.run, DeskCommand.notices, cancelRequest_desk]
  | decide target decision =>
    simp only [DeskCommand.replace, DeskCommand.run, DeskCommand.notices, hnumber]
    cases d.numberOf target with
    | none => simp only [Option.toList_none, List.flatMap_nil, told_nil, List.append_nil]
    | some id =>
      simp only [Option.toList_some, List.flatMap_cons, List.flatMap_nil, List.append_nil, resolve_desk]
      rcases d.resolve id decision with ⟨_ | (_ | _), d'⟩ <;> rfl
  | checkExpired target =>
    simp only [DeskCommand.replace, DeskCommand.run, DeskCommand.notices, hnumber]
    cases d.numberOf target with
    | none => simp only [Option.toList_none, List.flatMap_nil, told_nil, List.append_nil]
    | some id => simp only [Option.toList_some, List.flatMap_cons, List.flatMap_nil, List.append_nil, checkExpired_desk]
  | expireRequests => simp only [DeskCommand.replace, DeskCommand.run, DeskCommand.notices, expireRequests_desk]
  | addCondition name c =>
    simp only [DeskCommand.replace, DeskCommand.run, DeskCommand.notices, told_nil, List.append_nil, hpolicy,
      addCondition_desk, conditionNames_desk]
    rfl
  | removeCondition name =>
    simp only [DeskCommand.replace, DeskCommand.run, DeskCommand.notices, told_nil, List.append_nil, hpolicy,
      removeCondition_desk, conditionNames_desk]
    rfl
  | addAlways node =>
    simp only [DeskCommand.replace, DeskCommand.run, DeskCommand.notices, told_nil, List.append_nil, hpolicy,
      addAlways_desk]
    rfl
  | _ =>
    simp only [DeskCommand.replace, DeskCommand.run, DeskCommand.notices, told_nil, List.append_nil]
    rfl

end View
end GatedFlow
