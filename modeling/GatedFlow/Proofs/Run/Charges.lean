import GatedFlow.Proofs.Run.Drive
import GatedFlow.Proofs.Run.Quiet
import GatedFlow.Proofs.Session.Growth

/-! # Every node is entered on the strength of its own approval

`Charged tr ids` reads a trace from its beginning and accounts for each node that is entered: either the moments just
before are the loading of the thread's state and the question whether the node needs approval in it, answered no, or
the node is charged to an approved request for the thread and the node. The numbers of the requests that are charged
are `ids`. -/

namespace GatedFlow

def Desk.Approves (d : Desk) (thread node : String) (id : Nat) : Prop :=
  ∃ r, d.request? id = some r ∧ r.record.thread = thread ∧ r.record.node = node ∧ r.status = .approved

/-- Every node entered in a trace was found to need no approval just before, or is charged to an approved request. -/
inductive Charged : List RunMoment → List Nat → Prop
  | nil : Charged [] []
  | quiet {m : RunMoment} {tr : List RunMoment} {ids : List Nat} (h : m.Quiet) (htr : Charged tr ids) :
      Charged (m :: tr) ids
  | unasked {thread node : String} {s : State} {c₀ c₁ c₂ : Course} {tr : List RunMoment} {ids : List Nat}
      (htr : Charged tr ids) :
      Charged (⟨.edit (Edit.loadState thread), some (.ok s), c₀⟩ :: ⟨.askReason s node, some none, c₁⟩ ::
        ⟨.tell [.nodeEntered thread node], some (), c₂⟩ :: tr) ids
  | approved {thread node : String} {id : Nat} {c : Course} {tr : List RunMoment} {ids : List Nat}
      (h : c.world.desk.Approves thread node id) (htr : Charged tr ids) :
      Charged (⟨.tell [.nodeEntered thread node], some (), c⟩ :: tr) (id :: ids)

namespace Charged

variable {tr tr' : List RunMoment} {ids ids' : List Nat}

theorem append (h : Charged tr ids) (h' : Charged tr' ids') : Charged (tr ++ tr') (ids ++ ids') := by
  induction h with
  | nil => exact h'
  | quiet hq _ ih => exact .quiet hq ih
  | unasked _ ih => exact .unasked ih
  | approved ha _ ih => exact .approved ha ih

theorem of_quiet (h : QuietTrace tr) : Charged tr [] := by
  induction tr with
  | nil => exact .nil
  | cons m tr ih => exact .quiet (h m (List.mem_cons_self ..)) (ih fun m' hm' => h m' (List.mem_cons_of_mem _ hm'))

theorem quiet_append (h : QuietTrace tr) (h' : Charged tr' ids) : Charged (tr ++ tr') ids :=
  (of_quiet h).append h'

end Charged

namespace Desk

variable {d d' : Desk} {thread node : String} {id : Nat}

theorem Approves.grows (h : d.Approves thread node id) (hg : d.Grows d') : d'.Approves thread node id := by
  obtain ⟨r, hr, rfl, rfl, hs⟩ := h
  obtain ⟨r', hr', hl⟩ := hg.kept id r hr
  rw [hl.eq_of_isTerminal (by rw [hs]; rfl)] at hr'
  exact ⟨r, hr', rfl, rfl, hs⟩

/-- What a run that goes on after an approval holds: the approved node may pass its gate on the strength of a request
that nothing else can be charged to. -/
def Holds (d : Desk) (thread : String) : Option String → Option Nat → Prop
  | none, token => token = none
  | some node, token => ∃ id, token = some id ∧ d.Spent id ∧ d.Approves thread node id

theorem Holds.grows {approved : Option String} {token : Option Nat} (h : d.Holds thread approved token)
    (hg : d.Grows d') : d'.Holds thread approved token := by
  cases approved with
  | none => exact h
  | some node =>
    obtain ⟨id, htoken, hs, ha⟩ := h
    exact ⟨id, htoken, hg.spent id hs, ha.grows hg⟩

theorem Holds.lt {approved : Option String} {token : Option Nat} (h : d.Holds thread approved token)
    (ht : token = some id) : id < d.requests.length := by
  cases approved with
  | none => cases h.symm.trans ht
  | some node =>
    obtain ⟨i, htoken, hs, -⟩ := h
    cases htoken.symm.trans ht
    exact hs.1

end Desk

namespace Engine

variable {E : Engine}

/-- A run that goes on after it waited for a decision goes on with an approval, and with one that nothing else can be
charged to. -/
theorem awaitDecision_charges {thread node : String} {request : Request} {c : Course} (hc : c.world.desk.Sound)
    (hr : c.world.desk.request? request.record.id = some request) (ht : request.record.thread = thread)
    (hn : request.record.node = node) :
    E.wp (awaitDecision thread node request) (fun _ r c' => r = some (.ok none) →
      c'.world.desk.Approves thread node request.record.id ∧ c'.world.desk.Spent request.record.id) c := by
  have hgrows := c.await_grows E.rules request none
  unfold awaitDecision
  rw [wp_bind, wp_await]
  split
  · rename_i status hstatus
    obtain ⟨r, hr', hrs, -⟩ := World.decision?_eq_some_iff.1 (Course.await_decision hstatus)
    obtain ⟨r', hl, hlater⟩ := hgrows.kept _ _ hr
    obtain rfl : r = r' := by rw [hr', Option.some.injEq] at hl; exact hl
    have hthread : r.record.thread = thread := hlater.thread_eq.trans ht
    have happroves : status = .approved →
        (c.await E.rules request none).2.world.desk.Approves thread node request.record.id :=
      fun h => ⟨r, hr', hthread, hlater.node_eq.trans hn, hrs.trans h⟩
    split
    · rw [wp_bind, wp_cancelRequest]
      intro _
      refine ⟨(happroves rfl).grows (Desk.cancelRequest_grows _ _), ?_⟩
      have hspent := (hgrows.sound hc).spent_cancelRequest hr'
      rw [hthread] at hspent
      exact hspent
    · rw [wp_bind, wp_latest]
      intro h; cases h
  · intro h; cases h
  · intro h; cases h

/-- A run that passes a gate it was asked at either learned that the node needs no approval, or has an approval that
was asked for at this gate. -/
theorem gate_charges {thread node : String} {s : State} {rest : List String} {c : Course} (hc : c.world.desk.Sound) :
    E.wp (E.gate thread node s rest) (fun tr r c' => r = some (.ok none) →
      tr = [⟨.askReason s node, some none, c⟩] ∨ ∃ id, c.world.desk.requests.length ≤ id ∧
        c'.world.desk.Approves thread node id ∧ c'.world.desk.Spent id) c := by
  unfold gate
  rw [wp_bind, wp_askReason]
  cases hreason : c.world.desk.policy.reason? s node with
  | none => exact fun _ => .inl rfl
  | some reason =>
    let d := (c.world.desk.askReason s node).2
    have hd : d.Sound := (c.world.desk.askReason_grows s node).sound hc
    have hlen : d.requests.length = c.world.desk.requests.length := by
      rw [show d.requests = c.world.desk.requests from Desk.tellAll_requests ..]
    dsimp only
    rw [wp_bind, wp_createRequest]
    dsimp only
    split
    · rw [wp_bind]
      refine wp_mono (Q := fun _ _ _ => True) trivial fun tr r c' _ => ?_
      split
      · intro h; cases h
      · intro h; cases h
      · intro h; cases h
    · refine wp_mono (awaitDecision_charges ?_ ?_ rfl rfl) fun tr r c' h hr => .inr ⟨_, ?_, (h hr).1, (h hr).2⟩
      · exact (d.createRequest_grows thread node reason.message E.config.timeout?).sound hd
      · show (d.requests ++ [_])[d.requests.length]? = _
        rw [List.getElem?_concat_length]
        rfl
      · exact Nat.le_of_eq hlen.symm

end Engine

/-- What a piece of a session charges: a list of different requests, withdrawn by the end of it, of which none was
there before but the one that `token` names. -/
structure Account (tr : List RunMoment) (token : Option Nat) (d d' : Desk) (ids : List Nat) : Prop where
  charged : Charged tr ids
  nodup : ids.Nodup
  spent : ∀ id ∈ ids, d'.Spent id
  fresh : ∀ id ∈ ids, token = some id ∨ d.requests.length ≤ id

namespace Account

variable {tr tr' : List RunMoment} {token token' : Option Nat} {d d' : Desk} {c c₀ c₁ : Course} {ids : List Nat} {id : Nat}
  {thread node : String}

theorem of_quiet (h : QuietTrace tr) : Account tr token d d' [] :=
  ⟨.of_quiet h, .nil, by simp, by simp⟩

theorem quiet_append (h : QuietTrace tr) (ha : Account tr' token d d' ids) : Account (tr ++ tr') token d d' ids :=
  { ha with charged := .quiet_append h ha.charged }

theorem earlier (h : Account tr token c.world.desk d' ids) (hg : d.Grows c.world.desk) : Account tr token d d' ids :=
  { h with fresh := fun id hid => (h.fresh id hid).imp_right fun hle => Nat.le_trans hg.length_le hle }

theorem unasked {s : State} (h : Account tr token d d' ids) :
    Account (⟨.edit (Edit.loadState thread), some (.ok s), c₀⟩ :: ⟨.askReason s node, some none, c₁⟩ ::
      ⟨.tell [.nodeEntered thread node], some (), c⟩ :: tr) token d d' ids :=
  { h with charged := .unasked h.charged }

theorem approved (h : Account tr token' c.world.desk d' ids) (hg : d.Grows c.world.desk) (hg' : c.world.desk.Grows d')
    (ha : c.world.desk.Approves thread node id) (hs : c.world.desk.Spent id)
    (hid : token = some id ∨ d.requests.length ≤ id) (htoken : ∀ i, token' = some i → i ≠ id ∧ token = some i) :
    Account (⟨.tell [.nodeEntered thread node], some (), c⟩ :: tr) token d d' (id :: ids) where
  charged := .approved ha h.charged
  nodup := List.nodup_cons.2
    ⟨fun hmem => (h.fresh id hmem).elim (fun ht => (htoken id ht).1 rfl) (Nat.not_le.2 hs.1), h.nodup⟩
  spent := List.forall_mem_cons.2 ⟨hg'.spent id hs, h.spent⟩
  fresh := List.forall_mem_cons.2
    ⟨hid, fun i hi => (h.fresh i hi).imp (fun ht => (htoken i ht).2) (Nat.le_trans hg.length_le)⟩

end Account

namespace Engine

variable {E : Engine}

theorem wp_grows {α : Type} {p : Run α} {Q : List RunMoment → Option (Except FlowError α) → Course → Prop} {c : Course}
    (h : E.wp p Q c) : E.wp p (fun tr r c' => Q tr r c' ∧ c.world.desk.Grows c'.world.desk) c :=
  ⟨h, Run.run_grows E.rules E.registry p c⟩

theorem drive_cons_account {thread node : String} {rest visited : List String} {left : Nat}
    (hgo : ∀ {s : State} {approved : Option String} {token : Option Nat} {c : Course}, c.world.desk.Sound →
      c.world.desk.Holds thread approved token → E.wp (E.goOn thread node rest approved visited s left) (fun tr _ c' =>
        tr = [] ∨ ∃ tr' ids, tr = ⟨.tell [.nodeEntered thread node], some (), c⟩ :: tr' ∧
          Account tr' token c.world.desk c'.world.desk ids) c)
    {approved : Option String} {token : Option Nat} {c : Course} (hc : c.world.desk.Sound)
    (hh : c.world.desk.Holds thread approved token) :
    E.wp (E.drive thread left (node :: rest) approved visited) (fun tr _ c' =>
      ∃ ids, Account tr token c.world.desk c'.world.desk ids) c := by
  rw [drive_cons, wp_bind, wp_ofEdit]
  rcases (Edit.loadState thread).run c.world.store with ⟨e | s, store⟩
  · exact ⟨[], .of_quiet (.of_news rfl)⟩
  show E.wp _ (fun tr _ _ => ∃ ids, Account (⟨.edit (Edit.loadState thread), some (.ok s), c⟩ :: tr) _ _ _ ids) _
  have hload : QuietTrace [⟨.edit (Edit.loadState thread), some (.ok s), c⟩] := .of_news rfl
  rw [wp_bind]
  by_cases hfree : approved == some node
  · -- the node that was approved passes unasked, on the strength of the token
    obtain rfl : approved = some node := by simpa using hfree
    obtain ⟨id, rfl, hspent, happroves⟩ := hh
    rw [if_pos hfree, passGate, if_pos hfree, wp_pure]
    have hnone : c.world.desk.Holds thread none none := rfl
    refine wp_mono (wp_grows (hgo hc hnone)) fun tr r c' h => ?_
    obtain ⟨rfl | ⟨tr', ids, rfl, ha⟩, hg⟩ := h
    · exact ⟨[], .of_quiet hload⟩
    · exact ⟨id :: ids, (ha.approved (.refl _) hg happroves hspent (.inl rfl) (by simp)).quiet_append hload⟩
  · rw [if_neg hfree, passGate, if_neg hfree]
    refine wp_mono (wp_grows (wp_and ((quiet_gate thread node s rest).wp _) (gate_charges hc))) fun tr r c₁ h => ?_
    obtain ⟨⟨hquiet, hgate⟩, hg⟩ := h
    rcases r with _ | (e | (_ | outcome))
    · exact ⟨[], .of_quiet (hload.append hquiet)⟩
    · exact ⟨[], .of_quiet (hload.append hquiet)⟩
    · refine wp_mono (wp_grows (hgo (hg.sound hc) (hh.grows hg))) fun tr' r c' h => ?_
      obtain ⟨rfl | ⟨tr', ids, rfl, ha⟩, hg'⟩ := h
      · exact ⟨[], .of_quiet (hload.append (QuietTrace.append hquiet .nil))⟩
      rcases hgate rfl with rfl | ⟨id, hid, happroves, hspent⟩
      · exact ⟨ids, (ha.earlier hg).unasked⟩
      -- a request made at this gate is none that the token or the rest of the run can name
      · have ha := ha.approved hg hg' happroves hspent (.inr hid) fun i hi =>
          ⟨Nat.ne_of_lt (Nat.lt_of_lt_of_le (hh.lt hi) hid), hi⟩
        exact ⟨id :: ids, (ha.quiet_append hquiet).quiet_append hload⟩
    · exact ⟨[], .of_quiet (hload.append (QuietTrace.append hquiet .nil))⟩

/-- The loop of a run charges every node it enters to a request of its own or to the one it goes on with. -/
theorem drive_account (thread : String) (left : Nat) (frontier : List String) {approved : Option String}
    {visited : List String} {token : Option Nat} {c : Course} (hc : c.world.desk.Sound)
    (hh : c.world.desk.Holds thread approved token) :
    E.wp (E.drive thread left frontier approved visited) (fun tr _ c' =>
      ∃ ids, Account tr token c.world.desk c'.world.desk ids) c := by
  induction left generalizing frontier approved visited token c with
  | zero =>
    cases frontier with
    | nil => exact ⟨[], .of_quiet (((clerical_ofEdit _).bind fun s => only_pure _).mono (fun _ h => h.quiet) c)⟩
    | cons node rest => exact drive_cons_account (fun _ _ => .inl rfl) hc hh
  | succ left ih =>
    cases frontier with
    | nil => exact ⟨[], .of_quiet (((clerical_ofEdit _).bind fun s => only_pure _).mono (fun _ h => h.quiet) c)⟩
    | cons node rest =>
      refine drive_cons_account (fun {s approved token c} hc hh => ?_) hc hh
      rw [goOn, wp_bind]
      have hperform : E.wp (E.perform thread node s) (fun tr _ _ =>
        ∃ tr', tr = ⟨.tell [.nodeEntered thread node], some (), c⟩ :: tr' ∧ QuietTrace tr') c := trace_perform ..
      refine wp_mono (wp_grows hperform) fun tr r c₁ h => ?_
      obtain ⟨⟨tr₁, rfl, hquiet⟩, hg⟩ := h
      rcases r with _ | (e | targets)
      · exact .inr ⟨tr₁, [], rfl, .of_quiet hquiet⟩
      · exact .inr ⟨tr₁, [], rfl, .of_quiet hquiet⟩
      · refine wp_mono (ih (joinFrontier rest targets) (hg.sound hc) (hh.grows hg)) fun tr' r c' h => ?_
        obtain ⟨ids, ha⟩ := h
        exact .inr ⟨tr₁ ++ tr', ids, rfl, (ha.earlier hg).quiet_append hquiet⟩

end Engine
end GatedFlow
