import GatedFlow.Session.Command

/-! # What business at the approval desk leaves behind

Whatever is done at the desk, a request is decided at most once and never changes after that (`Request.Later`), a
request that is no longer anybody's current one never becomes current again (`Desk.Spent`), and the numbers that the
policy keeps stay those of requests of the right thread (`Desk.Sound`). `Desk.Grows` collects the three, and
`DeskCommand.run_grows` says that every command keeps them. -/

namespace GatedFlow

/-- How a request may stand later: as it does, or decided once. -/
def Request.Later (r r' : Request) : Prop := r' = r ∨ ∃ decision now, r.resolve decision now = .ok r'

namespace Request

variable {r r' r'' : Request}

theorem resolve_eq_ok_iff {d : Decision} {now : Nat} :
    r.resolve d now = .ok r' ↔ r.status.isTerminal = false ∧ r' = { r with record := { r.record with
      status := d.status
      approver := d.approver?.or r.record.approver
      rejecter := d.rejecter?.or r.record.rejecter
      comment := d.comment?.or r.record.comment
      resolvedAt := some now } } := by
  unfold resolve
  cases h : r.status.isTerminal <;> simp [eq_comm]

theorem Later.refl (r : Request) : r.Later r := .inl rfl

theorem Later.of_resolve {d : Decision} {now : Nat} (h : r.resolve d now = .ok r') : r.Later r' := .inr ⟨d, now, h⟩

theorem Later.eq_of_isTerminal (h : r.Later r') (ht : r.status.isTerminal = true) : r' = r := by
  rcases h with h | ⟨d, now, h⟩
  · exact h
  · rw [(resolve_eq_ok_iff.1 h).1] at ht; cases ht

theorem isTerminal_of_resolve {d : Decision} {now : Nat} (h : r.resolve d now = .ok r') :
    r'.status.isTerminal = true := by
  rw [(resolve_eq_ok_iff.1 h).2]
  cases d <;> rfl

theorem Later.trans (h : r.Later r') (h' : r'.Later r'') : r.Later r'' := by
  rcases h with rfl | ⟨d, now, h⟩
  · exact h'
  · rw [h'.eq_of_isTerminal (isTerminal_of_resolve h)]; exact .of_resolve h

theorem Later.id_eq (h : r.Later r') : r'.record.id = r.record.id := by
  rcases h with rfl | ⟨d, now, h⟩
  · rfl
  · rw [(resolve_eq_ok_iff.1 h).2]

theorem Later.thread_eq (h : r.Later r') : r'.record.thread = r.record.thread := by
  rcases h with rfl | ⟨d, now, h⟩
  · rfl
  · rw [(resolve_eq_ok_iff.1 h).2]

theorem Later.node_eq (h : r.Later r') : r'.record.node = r.record.node := by
  rcases h with rfl | ⟨d, now, h⟩
  · rfl
  · rw [(resolve_eq_ok_iff.1 h).2]

theorem Later.timeoutMs_eq (h : r.Later r') : r'.record.timeoutMs = r.record.timeoutMs := by
  rcases h with rfl | ⟨d, now, h⟩
  · rfl
  · rw [(resolve_eq_ok_iff.1 h).2]

end Request

namespace Desk

/-- A request that was made and is not the current one of any thread. -/
def Spent (d : Desk) (id : Nat) : Prop :=
  id < d.requests.length ∧ ∀ thread, d.policy.current.get? thread ≠ some id

/-- Requests carry their numbers, and the current request of a thread is one of that thread. -/
structure Sound (d : Desk) : Prop where
  numbered : ∀ id r, d.request? id = some r → r.record.id = id
  current : ∀ thread id, d.policy.current.get? thread = some id →
    ∃ r, d.request? id = some r ∧ r.record.thread = thread

/-- What a desk keeps of an earlier one. -/
structure Grows (d d' : Desk) : Prop where
  kept : ∀ id r, d.request? id = some r → ∃ r', d'.request? id = some r' ∧ r.Later r'
  spent : ∀ id, d.Spent id → d'.Spent id
  sound : d.Sound → d'.Sound

variable {d d' d'' : Desk}

theorem request?_lt {id : Nat} {r : Request} (h : d.request? id = some r) : id < d.requests.length := by
  simp only [request?] at h
  exact (List.getElem?_eq_some_iff.1 h).1

namespace Grows

theorem refl (d : Desk) : d.Grows d :=
  ⟨fun _ r h => ⟨r, h, .refl r⟩, fun _ h => h, fun h => h⟩

theorem trans (h : d.Grows d') (h' : d'.Grows d'') : d.Grows d'' := by
  refine ⟨fun id r hr => ?_, fun id hs => h'.spent id (h.spent id hs), fun hs => h'.sound (h.sound hs)⟩
  obtain ⟨r', hr', hl⟩ := h.kept id r hr
  obtain ⟨r'', hr'', hl'⟩ := h'.kept id r' hr'
  exact ⟨r'', hr'', hl.trans hl'⟩

theorem length_le (h : d.Grows d') : d.requests.length ≤ d'.requests.length := by
  refine Nat.le_of_not_lt fun hlt => ?_
  obtain ⟨r', hr', -⟩ := h.kept d'.requests.length _ (List.getElem?_eq_getElem hlt)
  exact Nat.lt_irrefl _ (request?_lt hr')

theorem of_eq (hr : d'.requests = d.requests) (hc : d'.policy.current = d.policy.current) : d.Grows d' := by
  have hrequest : ∀ id, d'.request? id = d.request? id := fun id => by rw [request?, request?, hr]
  refine ⟨fun id r h => ⟨r, (hrequest id).trans h, .refl r⟩, fun id h => ?_, fun h => ⟨?_, ?_⟩⟩
  · rw [Spent, hr, hc]; exact h
  · intro id r hid
    exact h.numbered id r ((hrequest id).symm.trans hid)
  · intro t id ht
    rw [hrequest]; exact h.current t id (hc ▸ ht)

end Grows

@[simp] theorem tell_requests (registry : Nat) (e : Event) : (d.tell registry e).requests = d.requests := rfl

@[simp] theorem tell_policy (registry : Nat) (e : Event) : (d.tell registry e).policy = d.policy := rfl

@[simp] theorem tell_clock (registry : Nat) (e : Event) : (d.tell registry e).clock = d.clock := rfl

@[simp] theorem tellAll_requests (registry : Nat) (events : List Event) :
    (d.tellAll registry events).requests = d.requests := by
  unfold tellAll
  induction events generalizing d with
  | nil => rfl
  | cons e events ih => rw [List.foldl_cons, ih, tell_requests]

@[simp] theorem tellAll_policy (registry : Nat) (events : List Event) :
    (d.tellAll registry events).policy = d.policy := by
  unfold tellAll
  induction events generalizing d with
  | nil => rfl
  | cons e events ih => rw [List.foldl_cons, ih, tell_policy]

theorem tellAll_grows (d : Desk) (registry : Nat) (events : List Event) : d.Grows (d.tellAll registry events) :=
  .of_eq (tellAll_requests registry events) (by rw [tellAll_policy])

theorem askReason_grows (d : Desk) (s : State) (node : String) : d.Grows (d.askReason s node).2 :=
  tellAll_grows d _ _

theorem advance_grows (d : Desk) (ms : Nat) : d.Grows (d.advance ms) := .of_eq rfl rfl

theorem advanceTo_grows (d : Desk) (time : Nat) : d.Grows (d.advanceTo time) := .of_eq rfl rfl

theorem Grows.of_append {r : Request} (hid : r.record.id = d.requests.length) (hr : d'.requests = d.requests ++ [r])
    (hc : ∀ t, d'.policy.current.get? t = d.policy.current.get? t ∨
      d'.policy.current.get? t = some d.requests.length ∧ r.record.thread = t) : d.Grows d' := by
  have hold : ∀ id q, d.request? id = some q → d'.request? id = some q := fun id q hq => by
    rw [request?, hr, List.getElem?_append_left (request?_lt hq)]; exact hq
  have hnew : d'.request? d.requests.length = some r := by simp [request?, hr]
  refine ⟨fun id q hq => ⟨q, hold id q hq, .refl q⟩, fun id h => ⟨?_, ?_⟩, fun h => ⟨?_, ?_⟩⟩
  · rw [hr, List.length_append]; exact Nat.lt_add_right _ h.1
  · intro t ht
    rcases hc t with heq | ⟨heq, -⟩
    · exact h.2 t (heq ▸ ht)
    · have hlt := h.1
      rw [heq, Option.some.injEq] at ht; omega
  · intro id q hq
    by_cases hlt : id < d.requests.length
    · exact h.numbered id q (by rwa [request?, hr, List.getElem?_append_left hlt] at hq)
    · have hle := request?_lt hq
      rw [hr, List.length_append, List.length_singleton] at hle
      obtain rfl : id = d.requests.length := by omega
      rw [hnew, Option.some.injEq] at hq
      rw [← hq]; exact hid
  · intro t id ht
    rcases hc t with heq | ⟨heq, hthread⟩
    · obtain ⟨q, hq, hqt⟩ := h.current t id (heq ▸ ht)
      exact ⟨q, hold id q hq, hqt⟩
    · rw [heq, Option.some.injEq] at ht
      exact ⟨r, ht ▸ hnew, hthread⟩

theorem addRequest_grows (d : Desk) (thread node reason : String) (timeout registry : Option Nat) :
    d.Grows (d.addRequest thread node reason timeout registry).2 :=
  .of_append rfl rfl fun _ => .inl rfl

theorem createRequest_current (d : Desk) (thread node reason : String) (timeout : Option Nat) (t : String) :
    (d.createRequest thread node reason timeout).2.policy.current.get? t =
      if thread = t then some d.requests.length else d.policy.current.get? t := by
  simp only [createRequest, tell_policy, Record.get?_insert]
  rfl

theorem createRequest_grows (d : Desk) (thread node reason : String) (timeout : Option Nat) :
    d.Grows (d.createRequest thread node reason timeout).2 := by
  refine .of_append (r := (d.createRequest thread node reason timeout).1) rfl rfl fun t => ?_
  rw [createRequest_current]
  split
  · exact .inr ⟨rfl, ‹_›⟩
  · exact .inl rfl

theorem resolve_of_ok {id : Nat} {decision : Decision} {r r' : Request} (hr : d.request? id = some r)
    (h : r.resolve decision d.clock = .ok r') : (d.resolve id decision).2.requests = d.requests.set id r' ∧
      (d.resolve id decision).2.policy = d.policy := by
  unfold resolve
  rw [hr]
  dsimp only
  rw [h]
  dsimp only
  split <;> exact ⟨rfl, rfl⟩

/-- A decision changes one request, and only one that was open. -/
theorem resolve_cases (d : Desk) (id : Nat) (decision : Decision) :
    (d.resolve id decision).2 = d ∨ ∃ r r', d.request? id = some r ∧ r.resolve decision d.clock = .ok r' ∧
      (d.resolve id decision).2.requests = d.requests.set id r' ∧ (d.resolve id decision).2.policy = d.policy := by
  cases hr : d.request? id with
  | none => simp [resolve, hr]
  | some r =>
    cases h : r.resolve decision d.clock with
    | error e => simp [resolve, hr, h]
    | ok r' => exact .inr ⟨r, r', rfl, h, resolve_of_ok hr h⟩

theorem resolve_grows (d : Desk) (id : Nat) (decision : Decision) : d.Grows (d.resolve id decision).2 := by
  rcases resolve_cases d id decision with h | ⟨r, r', hr, hr', hrequests, hpolicy⟩
  · rw [h]; exact .refl d
  have hl : r.Later r' := .of_resolve hr'
  have hget : ∀ i, (d.resolve id decision).2.request? i = if i = id then some r' else d.request? i := by
    intro i
    rw [request?, hrequests, List.getElem?_set]
    by_cases hi : id = i
    · subst hi; simp [request?_lt hr]
    · simp [hi, Ne.symm hi, request?]
  refine ⟨fun i q hq => ?_, fun i h => ?_, fun h => ⟨fun i q hq => ?_, fun t i ht => ?_⟩⟩
  · rw [hget]; split
    · subst i; rw [hr, Option.some.injEq] at hq; exact ⟨r', rfl, hq ▸ hl⟩
    · exact ⟨q, hq, .refl q⟩
  · rw [Spent, hrequests, hpolicy, List.length_set]; exact h
  · rw [hget] at hq; split at hq
    · subst i; rw [Option.some.injEq] at hq
      rw [← hq, hl.id_eq]; exact h.numbered id r hr
    · exact h.numbered i q hq
  · rw [hpolicy] at ht
    obtain ⟨q, hq, hqt⟩ := h.current t i ht
    rw [hget]; split
    · subst i; rw [hr, Option.some.injEq] at hq
      exact ⟨r', rfl, by rw [hl.thread_eq, hq]; exact hqt⟩
    · exact ⟨q, hq, hqt⟩

theorem Grows.of_erase (thread : String) :
    d.Grows { d with policy := { d.policy with current := d.policy.current.erase thread } } := by
  have hsub : ∀ t id, (d.policy.current.erase thread).get? t = some id → d.policy.current.get? t = some id := by
    intro t id h
    rw [Record.get?_erase] at h
    split at h
    · cases h
    · exact h
  exact ⟨fun id r h => ⟨r, h, .refl r⟩, fun id h => ⟨h.1, fun t ht => h.2 t (hsub t id ht)⟩,
    fun h => ⟨h.numbered, fun t id ht => h.current t id (hsub t id ht)⟩⟩

theorem cancelRequest_grows (d : Desk) (thread : String) : d.Grows (d.cancelRequest thread).2 := by
  unfold cancelRequest
  split
  · exact .refl d
  · dsimp only
    split
    · exact .of_erase thread
    · dsimp only; split
      · exact (Grows.of_erase thread).trans (resolve_grows ..)
      · exact .of_erase thread

theorem resolve_policy (d : Desk) (id : Nat) (decision : Decision) : (d.resolve id decision).2.policy = d.policy := by
  rcases resolve_cases d id decision with h | ⟨-, -, -, -, -, h⟩
  · rw [h]
  · exact h

/-- A thread whose request was withdrawn has none; the other threads keep theirs. -/
theorem cancelRequest_current (d : Desk) (thread t : String) :
    (d.cancelRequest thread).2.policy.current.get? t = if thread = t then none else d.policy.current.get? t := by
  unfold cancelRequest
  split
  · rename_i h
    split
    · subst t; exact h
    · rfl
  · dsimp only
    split
    · exact Record.get?_erase ..
    · dsimp only; split
      · rw [resolve_policy]; exact Record.get?_erase ..
      · exact Record.get?_erase ..

/-- A request for a thread is spent once the thread's current request is withdrawn, whether it was that one or not. -/
theorem Sound.spent_cancelRequest {id : Nat} {r : Request} (h : d.Sound) (hr : d.request? id = some r) :
    (d.cancelRequest r.record.thread).2.Spent id := by
  refine ⟨Nat.lt_of_lt_of_le (request?_lt hr) (d.cancelRequest_grows _).length_le, fun t ht => ?_⟩
  rw [cancelRequest_current] at ht
  split at ht
  · cases ht
  · rename_i hne
    obtain ⟨q, hq, hqt⟩ := h.current t id ht
    rw [hr, Option.some.injEq] at hq
    exact hne (hq ▸ hqt)

theorem checkExpired_grows (d : Desk) (id : Nat) : d.Grows (d.checkExpired id).2 := by
  unfold checkExpired
  split
  · exact .refl d
  · dsimp only; split
    · exact resolve_grows ..
    · exact .refl d

theorem expireRequests_grows (d : Desk) : d.Grows d.expireRequests.2 := by
  unfold expireRequests
  generalize d.policy.current.entries.filterMap _ = due
  show d.Grows (due.foldl (fun d id => (d.resolve id .expire).2) d)
  induction due generalizing d with
  | nil => exact .refl d
  | cons id due ih => exact (resolve_grows d id .expire).trans (ih _)

end Desk

theorem DeskCommand.decide_snd (d : Desk) (target : RequestTarget) (decision : Decision) :
    ((decide target decision).run d).2 = match d.numberOf target with
      | none => d
      | some id => (d.resolve id decision).2 := by
  simp only [run]
  cases d.numberOf target with
  | none => rfl
  | some id =>
    dsimp only
    split <;> rename_i heq <;> rw [heq]

/-- Business at the desk decides requests at most once and brings none back. -/
theorem DeskCommand.run_grows (c : DeskCommand) (d : Desk) : d.Grows (c.run d).2 := by
  cases c with
  | addCondition name c => exact .of_eq rfl rfl
  | removeCondition name => exact .of_eq rfl rfl
  | addAlways node =>
    refine .of_eq rfl ?_
    show (d.policy.addAlways node).current = _
    unfold Policy.addAlways; split <;> rfl
  | removeAlways node => exact .of_eq rfl rfl
  | defaultTimeout => exact .refl d
  | askReason s node => exact d.askReason_grows s node
  | createRequest thread node reason timeout => exact d.createRequest_grows thread node reason timeout
  | addRequest thread node reason timeout => exact d.addRequest_grows thread node reason timeout none
  | lookUp target => exact .refl d
  | cancel thread => exact d.cancelRequest_grows thread
  | decide target decision =>
    rw [decide_snd]
    split
    · exact .refl d
    · exact d.resolve_grows _ decision
  | checkExpired target =>
    simp only [run]
    split
    · exact .refl d
    · exact d.checkExpired_grows _
  | pendingRequests => exact .refl d
  | expireRequests => exact d.expireRequests_grows
  | advance ms => exact d.advance_grows ms

theorem Desk.expireRequests_policy (d : Desk) : d.expireRequests.2.policy = d.policy := by
  unfold expireRequests
  generalize d.policy.current.entries.filterMap _ = due
  show (due.foldl (fun d id => (d.resolve id .expire).2) d).policy = d.policy
  induction due generalizing d with
  | nil => rfl
  | cons id due ih => exact (ih _).trans (resolve_policy ..)

/-- Only making and withdrawing a request changes which requests are current. -/
theorem DeskCommand.run_current (c : DeskCommand) (d : Desk) : match c with
    | .createRequest thread .. => ∀ t, (c.run d).2.policy.current.get? t =
        if thread = t then some d.requests.length else d.policy.current.get? t
    | .cancel thread => ∀ t, (c.run d).2.policy.current.get? t = if thread = t then none else d.policy.current.get? t
    | _ => (c.run d).2.policy.current = d.policy.current := by
  cases c with
  | addCondition name c => rfl
  | removeCondition name => rfl
  | addAlways node =>
    show (d.policy.addAlways node).current = _
    unfold Policy.addAlways
    split <;> rfl
  | removeAlways node => rfl
  | defaultTimeout => rfl
  | askReason s node => exact congrArg Policy.current (Desk.tellAll_policy ..)
  | createRequest thread node reason timeout => exact d.createRequest_current thread node reason timeout
  | addRequest thread node reason timeout => rfl
  | lookUp target => rfl
  | cancel thread => exact d.cancelRequest_current thread
  | decide target decision =>
    dsimp only
    rw [decide_snd]
    split
    · rfl
    · exact congrArg Policy.current (Desk.resolve_policy ..)
  | checkExpired target =>
    dsimp only [run]
    split
    · rfl
    · unfold Desk.checkExpired
      split
      · rfl
      · dsimp only
        split
        · exact congrArg Policy.current (Desk.resolve_policy ..)
        · rfl
  | pendingRequests => rfl
  | expireRequests => exact congrArg Policy.current d.expireRequests_policy
  | advance ms => rfl

end GatedFlow
