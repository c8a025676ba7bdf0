import GatedFlow.Proofs.Approval.Notices

/-! # Desks connected to one registry

Once the policy reports to a registry, so do all requests that are made from then on (`Desk.Connected`). As long as no
earlier request is decided, whatever is told at the desk is told to that registry. `Desk.Tells` says so of business that
takes one desk to another; it composes, since a request that is decided stays as it is. -/

namespace GatedFlow

theorem Request.Later.antisymm {r r' : Request} (h : r.Later r') (h' : r'.Later r) : r' = r := by
  rcases h with h | ⟨decision, now, h⟩
  · exact h
  · exact (h'.eq_of_isTerminal (isTerminal_of_resolve h)).symm

namespace Desk

/-- The requests with the first numbers are as they were. -/
def Leaves (old : Nat) (d d' : Desk) : Prop := ∀ id < old, d'.request? id = d.request? id

/-- The policy reports to a registry, and so do all requests but the first ones. -/
structure Connected (registry old : Nat) (d : Desk) : Prop where
  policy : d.policy.registry = registry
  made : old ≤ d.requests.length
  requests : ∀ id r k, old ≤ id → d.request? id = some r → r.registry = some k → k = registry

/-- Business that tells notices. If it starts on a connected desk and leaves the old requests alone, the desk is
connected after it and all notices are to the one registry. -/
structure Tells (registry old : Nat) (d : Desk) (notices : List Notice) (d' : Desk) : Prop where
  grows : d.Grows d'
  connected : d.Connected registry old → d.Leaves old d' → d'.Connected registry old
  all : d.Connected registry old → d.Leaves old d' → ∀ n ∈ notices, n.registry = registry

variable {registry old : Nat} {d d' d'' : Desk} {notices more : List Notice}

/-- If old requests are in the end as they were, they have been so all along. -/
theorem Grows.leaves (h : d.Grows d') (h' : d'.Grows d'') (hold : old ≤ d.requests.length) (hleaves : d.Leaves old d'') :
    d.Leaves old d' ∧ d'.Leaves old d'' := by
  -- a request that changes is decided from then on, so it could not be in the end what it was before
  have hfirst : d.Leaves old d' := by
    intro id hid
    have hr := List.getElem?_eq_getElem (Nat.lt_of_lt_of_le hid hold)
    obtain ⟨r', hr', hlater⟩ := h.kept id _ hr
    obtain ⟨r'', hr'', hlater'⟩ := h'.kept id r' hr'
    rw [hleaves id hid, request?, hr, Option.some.injEq] at hr''
    subst hr''
    rw [hr', hlater.antisymm hlater']
    exact hr.symm
  exact ⟨hfirst, fun id hid => (hleaves id hid).trans (hfirst id hid).symm⟩

namespace Tells

theorem refl (d : Desk) : Tells registry old d [] d := ⟨.refl d, fun h _ => h, fun _ _ _ hn => by cases hn⟩

theorem trans (h : Tells registry old d notices d') (h' : Tells registry old d' more d'') :
    Tells registry old d (notices ++ more) d'' := by
  refine ⟨h.grows.trans h'.grows, fun hd hleaves => ?_, fun hd hleaves n hn => ?_⟩
  all_goals obtain ⟨hfirst, hrest⟩ := h.grows.leaves h'.grows hd.made hleaves
  · exact h'.connected (h.connected hd hfirst) hrest
  · exact (List.mem_append.1 hn).elim (h.all hd hfirst n) (h'.all (h.connected hd hfirst) hrest n)

/-- Business that leaves the requests and tells only what the policy tells. -/
theorem of_eq (hrequests : d'.requests = d.requests) (hcurrent : d.Grows d')
    (hregistry : d'.policy.registry = d.policy.registry)
    (hall : d.Connected registry old → ∀ n ∈ notices, n.registry = registry) : Tells registry old d notices d' := by
  refine ⟨hcurrent, fun hd _ => ⟨hregistry.trans hd.policy, hrequests ▸ hd.made, fun id r k hid hr => ?_⟩,
    fun hd _ => hall hd⟩
  exact hd.requests id r k hid (by rwa [request?, hrequests] at hr)

end Tells

theorem Connected.of_append {r : Request} (h : d.Connected registry old) (hpolicy : d'.policy.registry = d.policy.registry)
    (hrequests : d'.requests = d.requests ++ [r]) (hr : ∀ k, r.registry = some k → k = registry) :
    d'.Connected registry old := by
  refine ⟨hpolicy.trans h.policy, ?_, fun id q k hid hq hk => ?_⟩
  · rw [hrequests, List.length_append]
    exact Nat.le_add_right_of_le h.made
  · rw [request?, hrequests, List.getElem?_append] at hq
    split at hq
    · exact h.requests id q k hid hq hk
    · exact hr k (List.mem_singleton.1 (List.mem_of_getElem? hq) ▸ hk)

variable (d)

theorem tells_tellAll (events : List Event) :
    Tells registry old d (events.map (Notice.mk registry)) (d.tellAll registry events) := by
  refine .of_eq (tellAll_requests registry events) (d.tellAll_grows registry events) (by rw [tellAll_policy]) fun _ n hn => ?_
  obtain ⟨e, -, rfl⟩ := List.mem_map.1 hn
  rfl

theorem tells_askReason (s : State) (node : String) :
    Tells registry old d (d.askNotices s node) (d.askReason s node).2 := by
  refine .of_eq (tellAll_requests _ _) (d.askReason_grows s node) (congrArg Policy.registry (tellAll_policy _ _))
    fun hd n hn => ?_
  obtain ⟨e, -, rfl⟩ := List.mem_map.1 hn
  exact hd.policy

theorem tells_addRequest (thread node reason : String) (timeout : Option Nat) :
    Tells registry old d [] (d.addRequest thread node reason timeout none).2 :=
  ⟨d.addRequest_grows thread node reason timeout none, fun hd _ => hd.of_append rfl rfl nofun,
    fun _ _ n hn => by cases hn⟩

theorem tells_createRequest (thread node reason : String) (timeout : Option Nat) :
    Tells registry old d (d.createNotices thread node reason) (d.createRequest thread node reason timeout).2 := by
  refine ⟨d.createRequest_grows thread node reason timeout, fun hd _ => hd.of_append rfl rfl fun k hk => ?_,
    fun hd _ n hn => ?_⟩
  · exact (Option.some.inj hk).symm.trans hd.policy
  · rw [List.mem_singleton.1 hn]
    exact hd.policy

/-- A decision is told to the registry of its request; a request that changes is none of the old ones. -/
theorem tells_resolve (id : Nat) (decision : Decision) :
    Tells registry old d (d.resolveNotices id decision) (d.resolve id decision).2 := by
  cases hr : d.request? id with
  | none =>
    have hsame : (d.resolve id decision).2 = d := by simp only [resolve, hr]
    rw [hsame, resolveNotices, hr]
    exact .refl d
  | some r =>
    rw [resolveNotices_of_request hr]
    cases ht : r.status.isTerminal with
    | true =>
      rw [resolve_eq_of_isTerminal hr ht, if_pos rfl]
      exact .refl d
    | false =>
      obtain ⟨r', hr'⟩ : ∃ r', r.resolve decision d.clock = .ok r' := ⟨_, Request.resolve_eq_ok_iff.2 ⟨ht, rfl⟩⟩
      have hregistry : r'.registry = r.registry := by rw [(Request.resolve_eq_ok_iff.1 hr').2]
      have hnew : d.Leaves old (d.resolve id decision).2 → old ≤ id := fun hleaves => by
        refine Nat.le_of_not_lt fun hid => ?_
        have hsame := hleaves id hid
        rw [resolve_request?_of_ok hr hr', hr, Option.some.injEq] at hsame
        have hterminal := Request.isTerminal_of_resolve hr'
        rw [hsame, ht] at hterminal
        cases hterminal
      refine ⟨d.resolve_grows id decision, fun hd hleaves => ?_, fun hd hleaves n hn => ?_⟩
      · refine ⟨(congrArg Policy.registry (resolve_policy ..)).trans hd.policy, ?_, fun i q k hi hq hk => ?_⟩
        · rw [(resolve_of_ok hr hr').1, List.length_set]
          exact hd.made
        · by_cases heq : i = id
          · subst heq
            rw [resolve_request?_of_ok hr hr', Option.some.injEq] at hq
            exact hd.requests i r k hi hr (hregistry ▸ hq ▸ hk)
          · exact hd.requests i q k hi ((resolve_request?_of_ne heq decision).symm.trans hq) hk
      · obtain ⟨k, hk, rfl⟩ := List.mem_map.1 hn
        exact hd.requests id r k (hnew hleaves) hr (Option.mem_toList.1 hk)

theorem tells_withdrawn (thread : String) : Tells registry old d [] (d.withdrawn thread) :=
  .of_eq rfl (.of_erase thread) rfl fun _ _ hn => by cases hn

theorem tells_cancelRequest (thread : String) :
    Tells registry old d (d.cancelNotices thread) (d.cancelRequest thread).2 := by
  unfold cancelNotices
  cases hid : d.policy.current.get? thread with
  | none =>
    have hsame : (d.cancelRequest thread).2 = d := by simp only [cancelRequest, hid]
    rw [hsame]
    exact .refl d
  | some id =>
    rw [cancelRequest_of_current hid]
    dsimp only
    cases d.request? id with
    | none => exact d.tells_withdrawn thread
    | some r =>
      dsimp only [Option.any_some]
      split
      · exact (d.tells_withdrawn thread).trans ((d.withdrawn thread).tells_resolve id .cancel)
      · exact d.tells_withdrawn thread

theorem tells_checkExpired (id : Nat) : Tells registry old d (d.expiryNotices id) (d.checkExpired id).2 := by
  unfold expiryNotices checkExpired
  cases d.request? id with
  | none => exact .refl d
  | some r =>
    dsimp only [Option.any_some]
    split
    · exact d.tells_resolve id .expire
    · exact .refl d

theorem tells_expireAll (ids : List Nat) : Tells registry old d (expireAllNotices ids d) (expireAll ids d) := by
  unfold expireAll
  induction ids generalizing d with
  | nil => exact .refl d
  | cons id ids ih => exact (d.tells_resolve id .expire).trans (ih _)

theorem tells_advanceTo (time : Nat) : Tells registry old d [] (d.advanceTo time) :=
  .of_eq rfl (d.advanceTo_grows time) rfl fun _ _ hn => by cases hn

theorem tells_deskCommand (c : DeskCommand) : Tells registry old d (c.notices d) (c.run d).2 := by
  have hquiet : ∀ {d' : Desk}, d'.requests = d.requests → d.Grows d' → d'.policy.registry = d.policy.registry →
      Tells registry old d [] d' := fun hrequests hgrows hregistry =>
    .of_eq hrequests hgrows hregistry fun _ _ hn => by cases hn
  cases c with
  | askReason s node => exact d.tells_askReason s node
  | createRequest thread node reason timeout => exact d.tells_createRequest thread node reason timeout
  | addRequest thread node reason timeout => exact d.tells_addRequest thread node reason timeout
  | cancel thread => exact d.tells_cancelRequest thread
  | decide target decision =>
    rw [DeskCommand.decide_snd]
    dsimp only [DeskCommand.notices]
    cases d.numberOf target with
    | none => exact .refl d
    | some id => simpa using d.tells_resolve id decision
  | checkExpired target =>
    dsimp only [DeskCommand.notices, DeskCommand.run]
    cases d.numberOf target with
    | none => exact .refl d
    | some id => simpa using d.tells_checkExpired id
  | expireRequests => exact d.tells_expireAll d.due
  | addAlways node =>
    refine hquiet rfl (DeskCommand.run_grows (.addAlways node) d) ?_
    show (d.policy.addAlways node).registry = d.policy.registry
    unfold Policy.addAlways
    split <;> rfl
  | addCondition name c => exact hquiet rfl (DeskCommand.run_grows _ d) rfl
  | removeCondition name => exact hquiet rfl (DeskCommand.run_grows _ d) rfl
  | removeAlways node => exact hquiet rfl (DeskCommand.run_grows _ d) rfl
  | advance ms => exact hquiet rfl (DeskCommand.run_grows _ d) rfl
  | _ => exact .refl d

end Desk
end GatedFlow
