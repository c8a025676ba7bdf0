import GatedFlow.Proofs.Session.Waits

/-! # What can happen to the requests of a desk

`Happening` is business at the desk or the timer of a wait. Whatever happens is made of quiet parts, in which requests are
made and observers hear of other things than decisions, and of decisions about single requests, each at the time by the
desk's clock (`Happening.effect`). What happens to one request is read off that (`Desk.Effect.request?`). -/

namespace GatedFlow

/-- Something that happens at the desk. -/
inductive Happening where
  | business (c : DeskCommand)
  | timeUp (r : Request) (limit : Nat)

namespace Happening

def run : Happening → Desk → Desk
  | business c, d => (c.run d).2
  | timeUp r limit, d => (d.timeUp r limit).2

/-- The decision that something that happens would have a request come to. -/
inductive Brings (d : Desk) (id : Nat) : Happening → Decision → Prop
  | decide {target : RequestTarget} (decision : Decision) (h : d.numberOf target = some id) :
      Brings d id (.business (.decide target decision)) decision
  | checkExpired {target : RequestTarget} (h : d.numberOf target = some id) :
      Brings d id (.business (.checkExpired target)) .expire
  | expireRequests : Brings d id (.business .expireRequests) .expire
  | cancel {thread : String} (h : d.policy.current.get? thread = some id) :
      Brings d id (.business (.cancel thread)) .cancel
  | timeUp {r : Request} (limit : Nat) (h : r.record.id = id) : Brings d id (.timeUp r limit) .expire

/-- The desk after things that happened one after the other. -/
def runAll (happened : List Happening) (d : Desk) : Desk := happened.foldl (fun d h => h.run d) d

end Happening

/-- Whether an event says that a request is decided. -/
def Event.isResolution : Event → Bool
  | approvalResolved .. => true
  | _ => false

/-- What the observers of a request are told of its decision. -/
def Request.announcement (r : Request) (registries : List Registry) : List Delivery :=
  match r.registry with
  | some registry =>
    ((registries[registry]?).getD []).deliver (.approvalResolved r.record.thread r.record.node r.status)
  | none => []

/-- What an observer records of an event, if anything, is the event. -/
theorem Observer.eq_of_receive {o : Observer} {e : Event} {x : Delivery} (h : x ∈ (o.receive e).getD []) :
    x = ⟨o.name, e⟩ := by
  unfold receive at h
  split at h
  · exact List.mem_singleton.1 h
  · cases h
  · cases h
  · split at h
    · cases h
    · exact List.mem_singleton.1 h

theorem Registry.event_of_mem_deliver {registry : Registry} {e : Event} {x : Delivery} (h : x ∈ registry.deliver e) :
    x.event = e := by
  obtain ⟨o, -, hx⟩ := List.mem_flatMap.1 h
  rw [Observer.eq_of_receive hx]

theorem Request.isResolution_of_mem_announcement {r : Request} {registries : List Registry} {x : Delivery}
    (h : x ∈ r.announcement registries) : x.event.isResolution = true := by
  unfold announcement at h
  split at h
  · rw [Registry.event_of_mem_deliver h]
    rfl
  · cases h

namespace Desk

/-- Requests may have been made and time may have passed, but none was decided. -/
structure Quiet (d d' : Desk) : Prop where
  requests : ∃ made, d'.requests = d.requests ++ made ∧ ∀ r ∈ made, r.status = .pending
  log : ∃ news, d'.log = d.log ++ news ∧ ∀ x ∈ news, x.event.isResolution = false
  registries : d'.registries = d.registries

/-- Made of quiet parts and of decisions at one time that `B` allows. -/
inductive Effect (B : Nat → Decision → Prop) (now : Nat) : Desk → Desk → Prop
  | quiet {d d' : Desk} (h : d.Quiet d') : Effect B now d d'
  | resolve {d : Desk} {id : Nat} {decision : Decision} (hnow : d.clock = now) (h : B id decision) :
      Effect B now d (d.resolve id decision).2
  | trans {d d' d'' : Desk} (h : Effect B now d d') (h' : Effect B now d' d'') : Effect B now d d''

variable {d d' : Desk} {id : Nat} {r r' : Request} {B : Nat → Decision → Prop} {now : Nat} {decision : Decision}

theorem Quiet.of_eq (hrequests : d'.requests = d.requests) (hlog : d'.log = d.log)
    (hregistries : d'.registries = d.registries) : d.Quiet d' where
  requests := ⟨[], by rw [hrequests, List.append_nil], by simp⟩
  log := ⟨[], by rw [hlog, List.append_nil], by simp⟩
  registries := hregistries

theorem quiet_withPolicy (d : Desk) (policy : Policy) : d.Quiet { d with policy } := .of_eq rfl rfl rfl

theorem quiet_tell (d : Desk) (registry : Nat) {e : Event} (he : e.isResolution = false) : d.Quiet (d.tell registry e) where
  requests := ⟨[], (List.append_nil _).symm, by simp⟩
  log := ⟨_, rfl, fun x hx => by rw [Registry.event_of_mem_deliver hx, he]⟩
  registries := rfl

theorem effect_tellAll (d : Desk) (registry : Nat) {events : List Event} (h : ∀ e ∈ events, e.isResolution = false) :
    Effect B now d (d.tellAll registry events) := by
  unfold tellAll
  induction events generalizing d with
  | nil => exact .quiet (.of_eq rfl rfl rfl)
  | cons e events ih =>
    obtain ⟨he, hevents⟩ := List.forall_mem_cons.1 h
    exact .trans (.quiet (d.quiet_tell registry he)) (ih _ hevents)

theorem quiet_addRequest (d : Desk) (thread node reason : String) (timeout registry : Option Nat) :
    d.Quiet (d.addRequest thread node reason timeout registry).2 where
  requests := ⟨_, rfl, fun r hr => by rw [List.mem_singleton.1 hr]; rfl⟩
  log := ⟨[], (List.append_nil _).symm, by simp⟩
  registries := rfl

theorem effect_createRequest (d : Desk) (thread node reason : String) (timeout : Option Nat) :
    Effect B now d (d.createRequest thread node reason timeout).2 := by
  unfold createRequest
  refine .trans (.quiet (d.quiet_addRequest thread node reason (timeout.or d.policy.defaultTimeout) d.policy.registry)) ?_
  exact .trans (.quiet (quiet_withPolicy _ _)) (.quiet (quiet_tell _ _ rfl))

/-- A decision that is taken changes its request, tells its observers, and leaves all else as it is. -/
theorem resolve_eq_of_ok (hr : d.request? id = some r) (h : r.resolve decision d.clock = .ok r') :
    d.resolve id decision =
      (some (.ok ()), { d with requests := d.requests.set id r', log := d.log ++ r'.announcement d.registries }) := by
  simp only [resolve, hr, h, Request.announcement]
  cases r'.registry with
  | some registry => rfl
  | none => rw [List.append_nil]

theorem resolve_eq_of_isTerminal (hr : d.request? id = some r) (h : r.status.isTerminal = true) (decision : Decision) :
    d.resolve id decision = (some (.error (.alreadyResolved r.record.id r.status)), d) := by
  simp only [resolve, hr, Request.resolve, if_pos h]

theorem resolve_request?_of_ok (hr : d.request? id = some r) (h : r.resolve decision d.clock = .ok r') :
    (d.resolve id decision).2.request? id = some r' := by
  rw [resolve_eq_of_ok hr h]
  exact List.getElem?_set_self (request?_lt hr)

theorem resolve_request?_of_ne {i : Nat} (hi : i ≠ id) (decision : Decision) :
    (d.resolve id decision).2.request? i = d.request? i := by
  cases hr : d.request? id with
  | none => simp only [resolve, hr]
  | some r =>
    cases h : r.resolve decision d.clock with
    | error e => simp only [resolve, hr, h]
    | ok r' =>
      rw [resolve_eq_of_ok hr h]
      exact List.getElem?_set_ne (Ne.symm hi)

theorem resolve_clock (d : Desk) (id : Nat) (decision : Decision) : (d.resolve id decision).2.clock = d.clock := by
  cases hr : d.request? id with
  | none => simp only [resolve, hr]
  | some r =>
    cases h : r.resolve decision d.clock with
    | error e => simp only [resolve, hr, h]
    | ok r' => rw [resolve_eq_of_ok hr h]

theorem resolve_registries (d : Desk) (id : Nat) (decision : Decision) :
    (d.resolve id decision).2.registries = d.registries := by
  cases hr : d.request? id with
  | none => simp only [resolve, hr]
  | some r =>
    cases h : r.resolve decision d.clock with
    | error e => simp only [resolve, hr, h]
    | ok r' => rw [resolve_eq_of_ok hr h]

theorem effect_cancelRequest (d : Desk) (thread : String)
    (hB : ∀ id, d.policy.current.get? thread = some id → B id .cancel) : Effect B d.clock d (d.cancelRequest thread).2 := by
  unfold cancelRequest
  split
  · exact .quiet (.of_eq rfl rfl rfl)
  · rename_i id hid
    dsimp only
    split
    · exact .quiet (.of_eq rfl rfl rfl)
    · dsimp only
      split
      · exact .trans (.quiet (d.quiet_withPolicy _)) (.resolve rfl (hB id hid))
      · exact .quiet (.of_eq rfl rfl rfl)

theorem effect_checkExpired (d : Desk) (hB : B id .expire) : Effect B d.clock d (d.checkExpired id).2 := by
  unfold checkExpired
  split
  · exact .quiet (.of_eq rfl rfl rfl)
  · dsimp only
    split
    · exact .resolve rfl hB
    · exact .quiet (.of_eq rfl rfl rfl)

theorem effect_expireRequests (d : Desk) (hB : ∀ id, B id .expire) : Effect B d.clock d d.expireRequests.2 := by
  unfold expireRequests
  generalize d.policy.current.entries.filterMap _ = due
  suffices ∀ now, d.clock = now → Effect B now d (due.foldl (fun d id => (d.resolve id .expire).2) d) from this _ rfl
  intro now hnow
  induction due generalizing d with
  | nil => exact .quiet (.of_eq rfl rfl rfl)
  | cons id due ih => exact .trans (.resolve hnow (hB id)) (ih _ ((d.resolve_clock id .expire).trans hnow))

theorem request?_of_append {made : List Request} (h : d'.requests = d.requests ++ made) (hr : d.request? id = some r) :
    d'.request? id = some r := by
  rw [request?, h, List.getElem?_append_left (request?_lt hr)]
  exact hr

/-- A request is left as it is or decided once. -/
theorem Effect.request? (h : Effect B now d d') (hr : d.request? id = some r) :
    d'.request? id = some r ∨ ∃ decision r', B id decision ∧ r.resolve decision now = .ok r' ∧ d'.request? id = some r' := by
  induction h generalizing r with
  | quiet h =>
    obtain ⟨made, hmade, -⟩ := h.requests
    exact .inl (request?_of_append hmade hr)
  | @resolve d i decision hnow hB =>
    by_cases hi : id = i
    · subst hi
      cases h : r.resolve decision d.clock with
      | error e => exact .inl (by simp only [Desk.resolve, hr, h])
      | ok r' => exact .inr ⟨decision, r', hB, hnow ▸ h, resolve_request?_of_ok hr h⟩
    · exact .inl ((resolve_request?_of_ne hi decision).trans hr)
  | trans _ _ ih ih' =>
    rcases ih hr with hr' | ⟨decision, r', hB, hdecide, hr'⟩
    · exact ih' hr'
    · -- what was decided in the first part is not decided again
      rcases ih' hr' with hr'' | ⟨_, r'', -, hagain, -⟩
      · exact .inr ⟨decision, r', hB, hdecide, hr''⟩
      · have hopen := (Request.resolve_eq_ok_iff.1 hagain).1
        rw [Request.isTerminal_of_resolve hdecide] at hopen
        cases hopen

end Desk

theorem Policy.isResolution_of_mem_failures {p : Policy} {s : State} {node : String} {e : Event} (h : e ∈ p.failures s node) :
    e.isResolution = false := by
  unfold failures at h
  split at h
  · cases h
  · obtain ⟨condition, -, hcondition⟩ := List.mem_filterMap.1 h
    obtain ⟨error, -, rfl⟩ := Option.map_eq_some_iff.1 hcondition
    rfl

namespace Happening

theorem effect (h : Happening) (d : Desk) : Desk.Effect (fun id => h.Brings d id) d.clock d (h.run d) := by
  cases h with
  | timeUp r limit =>
    rw [run, Desk.timeUp_snd]
    exact .resolve rfl (.timeUp limit rfl)
  | business c =>
    cases c with
    | addCondition name c => exact .quiet (.of_eq rfl rfl rfl)
    | removeCondition name => exact .quiet (.of_eq rfl rfl rfl)
    | addAlways node => exact .quiet (.of_eq rfl rfl rfl)
    | removeAlways node => exact .quiet (.of_eq rfl rfl rfl)
    | defaultTimeout => exact .quiet (.of_eq rfl rfl rfl)
    | askReason s node => exact d.effect_tellAll _ fun e he => Policy.isResolution_of_mem_failures he
    | createRequest thread node reason timeout => exact d.effect_createRequest thread node reason timeout
    | addRequest thread node reason timeout => exact .quiet (d.quiet_addRequest thread node reason timeout none)
    | lookUp target => exact .quiet (.of_eq rfl rfl rfl)
    | cancel thread => exact d.effect_cancelRequest thread fun id hid => .cancel hid
    | decide target decision =>
      rw [run, DeskCommand.decide_snd]
      split
      · exact .quiet (.of_eq rfl rfl rfl)
      · exact .resolve rfl (.decide decision ‹_›)
    | checkExpired target =>
      dsimp only [run, DeskCommand.run]
      split
      · exact .quiet (.of_eq rfl rfl rfl)
      · exact d.effect_checkExpired (.checkExpired ‹_›)
    | pendingRequests => exact .quiet (.of_eq rfl rfl rfl)
    | expireRequests => exact d.effect_expireRequests fun id => .expireRequests
    | advance ms => exact .quiet (.of_eq rfl rfl rfl)

end Happening
end GatedFlow
