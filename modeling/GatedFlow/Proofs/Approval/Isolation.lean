import GatedFlow.Proofs.Approval.Growth

/-! # Business for one thread

Business at the desk that is for one thread (`DeskCommand.IsFor`) changes nothing but that thread's requests and which of
them is its current one (`DeskCommand.run_onlyFor`). Requests are also meant by their numbers, so that it takes a sound desk
to say whose business something is. -/

namespace GatedFlow

namespace Desk

/-- The request of a number, if there is one, is one of a thread. -/
def IsOf (d : Desk) (thread : String) (id : Nat) : Prop := ∀ r, d.request? id = some r → r.record.thread = thread

/-- Whose request is meant: one of a thread. -/
def Means (d : Desk) (thread : String) : RequestTarget → Prop
  | .number id => d.IsOf thread id
  | .ofThread t => t = thread

/-- Apart from the requests of one thread and its current one, a desk keeps its requests and the current ones. -/
structure OnlyFor (thread : String) (d d' : Desk) : Prop where
  grows : d.Grows d'
  current : ∀ t, t ≠ thread → d'.policy.current.get? t = d.policy.current.get? t
  foreign : ∀ id r, d'.request? id = some r → r.record.thread ≠ thread → d.request? id = some r

variable {d d' d'' : Desk} {thread : String}

namespace OnlyFor

theorem trans (h : d.OnlyFor thread d') (h' : d'.OnlyFor thread d'') : d.OnlyFor thread d'' where
  grows := h.grows.trans h'.grows
  current t ht := (h'.current t ht).trans (h.current t ht)
  foreign id r hr ht := h.foreign id r (h'.foreign id r hr ht) ht

theorem of_eq (hr : d'.requests = d.requests) (hc : d'.policy.current = d.policy.current) : d.OnlyFor thread d' where
  grows := .of_eq hr hc
  current t _ := by rw [hc]
  foreign id r h _ := by rwa [request?, hr] at h

theorem refl (d : Desk) : d.OnlyFor thread d := .of_eq rfl rfl

theorem isOf {id : Nat} (h : d.OnlyFor thread d') (hid : d.IsOf thread id) : d'.IsOf thread id := by
  intro r hr
  exact Decidable.byContradiction fun hne => hne (hid r (h.foreign id r hr hne))

theorem means {target : RequestTarget} (h : d.OnlyFor thread d') (ht : d.Means thread target) : d'.Means thread target := by
  cases target with
  | number id => exact h.isOf ht
  | ofThread t => exact ht

/-- Another thread has the request that it had, and it stands as it stood. -/
theorem current?_eq {other : String} (h : d.OnlyFor thread d') (hd : d.Sound) (hother : other ≠ thread) :
    d'.current? other = d.current? other := by
  unfold current?
  rw [h.current other hother]
  cases hid : d.policy.current.get? other with
  | none => rfl
  | some id =>
    obtain ⟨r, hr, rfl⟩ := hd.current other id hid
    obtain ⟨r', hr', hlater⟩ := h.grows.kept id r hr
    have hsame : d.request? id = some r' := h.foreign id r' hr' (by rwa [hlater.thread_eq])
    exact hr'.trans hsame.symm

/-- A new request of the thread. -/
theorem of_append {r : Request} (hid : r.record.id = d.requests.length) (hthread : r.record.thread = thread)
    (hr : d'.requests = d.requests ++ [r]) (hc : d'.policy.current = d.policy.current ∨
      d'.policy.current = d.policy.current.insert thread d.requests.length) : d.OnlyFor thread d' where
  grows := by
    refine .of_append hid hr fun t => ?_
    rcases hc with hc | hc <;> rw [hc]
    · exact .inl rfl
    · rw [Record.get?_insert]
      split
      · rename_i ht
        exact .inr ⟨rfl, hthread.trans ht⟩
      · exact .inl rfl
  current t ht := by
    rcases hc with hc | hc <;> rw [hc]
    rw [Record.get?_insert, if_neg (Ne.symm ht)]
  foreign id q hq hne := by
    rw [request?, hr] at hq
    rcases Nat.lt_or_ge id d.requests.length with hlt | hge
    · rwa [List.getElem?_append_left hlt] at hq
    · rw [List.getElem?_append_right hge] at hq
      have hmem := List.mem_of_getElem? hq
      rw [List.mem_singleton.1 hmem] at hne
      exact absurd hthread hne

end OnlyFor

theorem addRequest_onlyFor (d : Desk) (thread node reason : String) (timeout registry : Option Nat) :
    d.OnlyFor thread (d.addRequest thread node reason timeout registry).2 :=
  .of_append (r := (d.addRequest thread node reason timeout registry).1) rfl rfl rfl (.inl rfl)

theorem createRequest_onlyFor (d : Desk) (thread node reason : String) (timeout : Option Nat) :
    d.OnlyFor thread (d.createRequest thread node reason timeout).2 :=
  .of_append (r := (d.createRequest thread node reason timeout).1) rfl rfl rfl (.inr rfl)

theorem resolve_onlyFor {id : Nat} (hid : d.IsOf thread id) (decision : Decision) :
    d.OnlyFor thread (d.resolve id decision).2 := by
  rcases d.resolve_cases id decision with h | ⟨r, r', hr, hr', hrequests, hpolicy⟩
  · rw [h]
    exact .refl d
  refine ⟨d.resolve_grows id decision, fun t _ => by rw [hpolicy], fun id' q hq hne => ?_⟩
  rw [request?, hrequests, List.getElem?_set] at hq
  split at hq
  · rw [if_pos (request?_lt hr)] at hq
    cases hq
    rw [(Request.Later.of_resolve hr').thread_eq, hid r hr] at hne
    exact absurd rfl hne
  · exact hq

theorem checkExpired_onlyFor {id : Nat} (hid : d.IsOf thread id) : d.OnlyFor thread (d.checkExpired id).2 := by
  unfold checkExpired
  split
  · exact .refl d
  · dsimp only
    split
    · exact resolve_onlyFor hid .expire
    · exact .refl d

theorem Sound.isOf_current {id : Nat} (hd : d.Sound) (h : d.policy.current.get? thread = some id) : d.IsOf thread id := by
  obtain ⟨r, hr, hthread⟩ := hd.current thread id h
  intro q hq
  rw [hr, Option.some.injEq] at hq
  rw [← hq, hthread]

theorem cancelRequest_onlyFor (hd : d.Sound) (thread : String) : d.OnlyFor thread (d.cancelRequest thread).2 := by
  let withdrawn : Desk := { d with policy := { d.policy with current := d.policy.current.erase thread } }
  have herase : d.OnlyFor thread withdrawn :=
    ⟨.of_erase thread, fun t ht => (Record.get?_erase ..).trans (if_neg (Ne.symm ht)), fun _ _ h _ => h⟩
  unfold cancelRequest
  split
  · exact .refl d
  · rename_i id hid
    dsimp only
    split
    · exact herase
    · dsimp only
      split
      · exact herase.trans (resolve_onlyFor (d := withdrawn) (hd.isOf_current hid) .cancel)
      · exact herase

end Desk

namespace DeskCommand

/-- Business that is for a thread, or for none. -/
def IsFor (thread : String) (d : Desk) : DeskCommand → Prop
  | createRequest t .. => t = thread
  | addRequest t .. => t = thread
  | cancel t => t = thread
  | decide target _ => d.Means thread target
  | checkExpired target => d.Means thread target
  | expireRequests => False
  | _ => True

variable {d d' : Desk} {thread : String} {c : DeskCommand}

/-- Such business does not make what it means another thread's. -/
theorem IsFor.later (h : c.IsFor thread d) (hd : d.OnlyFor thread d') : c.IsFor thread d' := by
  cases c with
  | decide target decision => exact hd.means h
  | checkExpired target => exact hd.means h
  | _ => exact h

theorem isOf_of_means {target : RequestTarget} {id : Nat} (hd : d.Sound) (h : d.Means thread target)
    (hid : d.numberOf target = some id) : d.IsOf thread id := by
  cases target with
  | number id' => cases hid; exact h
  | ofThread t => cases h; exact hd.isOf_current hid

theorem run_onlyFor (h : c.IsFor thread d) (hd : d.Sound) : d.OnlyFor thread (c.run d).2 := by
  cases c with
  | addCondition name c => exact .of_eq rfl rfl
  | removeCondition name => exact .of_eq rfl rfl
  | addAlways node => exact .of_eq rfl (run_current (.addAlways node) d)
  | removeAlways node => exact .of_eq rfl rfl
  | defaultTimeout => exact .refl d
  | askReason s node => exact .of_eq (Desk.tellAll_requests ..) (run_current (.askReason s node) d)
  | createRequest t node reason timeout => cases h; exact d.createRequest_onlyFor ..
  | addRequest t node reason timeout => cases h; exact d.addRequest_onlyFor ..
  | lookUp target => exact .refl d
  | cancel t => cases h; exact Desk.cancelRequest_onlyFor hd _
  | decide target decision =>
    rw [decide_snd]
    split
    · exact .refl d
    · rename_i hid
      exact Desk.resolve_onlyFor (isOf_of_means hd h hid) decision
  | checkExpired target =>
    simp only [run]
    split
    · exact .refl d
    · rename_i hid
      exact Desk.checkExpired_onlyFor (isOf_of_means hd h hid)
  | pendingRequests => exact .refl d
  | expireRequests => exact h.elim
  | advance ms => exact .of_eq rfl rfl

end DeskCommand
end GatedFlow
