import GatedFlow.Proofs.Run.Charges

/-! # Every node of a session is entered on the strength of its own approval

The request that a resumed thread goes on with was its current one and is withdrawn before any node
(`prepare_spends`), so that nothing later in the session is charged to it again. A step charges no request that was
spent before it and leaves every request that it charges spent (`stepTrace_account`); from this the whole session
follows by induction on its turns. -/

namespace GatedFlow

/-- A step of a session with what it is carried out with and the time after which a run that waits is given up. -/
structure Turn where
  engine : Engine
  patience : Nat
  step : Step

namespace Engine

variable {α β : Type} {E : Engine} {c : Course}

/-- What holds where a sequence ends well may be shown after its first part, for the desk that has come of it. -/
theorem wp_bind_of_grows {p : Run α} {f : α → Run β} {Q : β → Course → Prop}
    (h : ∀ a c₁, c.world.desk.Grows c₁.world.desk → E.wp (f a) (fun _ r c' => ∀ b, r = some (.ok b) → Q b c') c₁) :
    E.wp (p >>= f) (fun _ r c' => ∀ b, r = some (.ok b) → Q b c') c :=
  wp_bind_of_ok (wp_grows (Q := fun _ _ _ => True) trivial) fun _ a c₁ hg => h a c₁ hg.2

theorem claim_approved {thread : String} {request : Request} :
    E.wp (E.claim thread request) (fun _ r _ => ∀ kept?, r = some (.ok kept?) → kept?.isSome →
      request.status = .approved) c := by
  unfold claim
  split
  · rename_i hstatus
    exact fun _ _ _ => hstatus
  · refine wp_bind_of_grows fun _ c₁ _ => ?_
    rintro _ ⟨⟩ ⟨⟩
  · rintro _ ⟨⟩

/-- A run goes on only when the thread's request is withdrawn. -/
theorem settle_spends {thread : String} {id : Nat} {request r : Request} {kept? : Option (List String)}
    (hc : c.world.desk.Sound) (hr : c.world.desk.request? id = some r) (ht : r.record.thread = thread) :
    E.wp (E.settle thread request kept?) (fun _ r c' => ∀ resumption, r = some (.ok resumption) →
      ∀ node frontier, resumption = .ready node frontier →
        node = request.record.node ∧ kept?.isSome ∧ c'.world.desk.Spent id) c := by
  cases kept? with
  | none =>
    refine wp_bind_of_grows fun _ c₁ _ => wp_bind_of_grows fun _ c₂ _ => wp_bind_of_grows fun _ c₃ _ => ?_
    rintro _ ⟨⟩ _ _ ⟨⟩
  | some kept =>
    refine wp_bind_of_grows fun _ c₁ hg => ?_
    obtain ⟨r', hr', hl⟩ := hg.kept id r hr
    have hspent := (hg.sound hc).spent_cancelRequest hr'
    rw [hl.thread_eq, ht] at hspent
    rw [wp_bind, wp_cancelRequest]
    rintro _ ⟨⟩ _ _ ⟨⟩
    exact ⟨rfl, rfl, hspent⟩

/-- A resumed thread goes on with the node that its current request was approved for, and the request is spent. -/
theorem prepare_spends {thread : String} (hc : c.world.desk.Sound) :
    E.wp (E.prepare thread) (fun _ r c' => ∀ resumption, r = some (.ok resumption) →
      ∀ node frontier, resumption = .ready node frontier → ∃ id, c.world.desk.policy.current.get? thread = some id ∧
        c'.world.desk.Approves thread node id ∧ c'.world.desk.Spent id) c := by
  refine wp_prepare (fun _ _ _ _ h => by cases h) fun _ request _ hcurrent => ?_
  obtain ⟨id, hid, hr⟩ := Option.bind_eq_some_iff.1 hcurrent
  obtain ⟨q, hq, hthread⟩ := hc.current thread id hid
  obtain rfl : request = q := by rw [hr, Option.some.injEq] at hq; exact hq
  refine wp_bind_of_ok (wp_grows claim_approved) fun _ kept? c₁ h₁ => ?_
  obtain ⟨hstatus, hg⟩ := h₁
  obtain ⟨r', hr', hl⟩ := hg.kept id request hr
  refine wp_mono (wp_grows (settle_spends (hg.sound hc) hr' (hl.thread_eq.trans hthread))) fun tr' r c' h => ?_
  obtain ⟨hsettled, hg'⟩ := h
  intro resumption hok node frontier hready
  obtain ⟨rfl, hkept, hspent⟩ := hsettled resumption hok node frontier hready
  have happroves : c.world.desk.Approves thread request.record.node id :=
    ⟨request, hr, hthread, rfl, hstatus kept? rfl hkept⟩
  exact ⟨id, hid, happroves.grows (hg.trans hg'), hspent⟩

theorem invoke_account (E : Engine) (thread : String) (initial : State) (hc : c.world.desk.Sound) :
    E.wp (E.invoke thread initial) (fun tr _ c' => ∃ ids, Account tr none c.world.desk c'.world.desk ids) c := by
  unfold invoke
  rw [wp_bind, checkConfig, wp_ofExcept]
  rcases E.config.validate.mapError _ with e | u
  · exact ⟨[], .of_quiet .nil⟩
  show E.wp _ _ c
  rw [wp_bind, wp_ofEdit]
  generalize hsave : Edit.saveState _ thread _ = save
  have hquiet : ∀ answer, QuietTrace [⟨.edit save, some answer, c⟩] := fun _ => .of_news rfl
  rcases save.run c.world.store with ⟨e | u, store⟩
  · exact ⟨[], .of_quiet (hquiet _)⟩
  have hnone : c.world.desk.Holds thread none none := rfl
  refine wp_mono (drive_account thread _ _ hc hnone) fun tr r c' h => ?_
  obtain ⟨ids, ha⟩ := h
  exact ⟨ids, (ha.quiet_append (hquiet _)).quiet_append .nil⟩

theorem resume_account (E : Engine) (thread : String) (hc : c.world.desk.Sound) :
    E.wp (E.resume thread) (fun tr _ c' =>
      ∃ ids, Account tr (c.world.desk.policy.current.get? thread) c.world.desk c'.world.desk ids) c := by
  unfold resume
  rw [wp_bind]
  refine wp_mono (wp_grows (wp_and ((quiet_prepare thread).wp c) (prepare_spends hc))) fun tr r c₁ h => ?_
  obtain ⟨⟨hquiet, hready⟩, hg⟩ := h
  rcases r with _ | (e | (outcome | ⟨node, frontier⟩))
  · exact ⟨[], .of_quiet hquiet⟩
  · exact ⟨[], .of_quiet hquiet⟩
  · exact ⟨[], .of_quiet (QuietTrace.append hquiet .nil)⟩
  · obtain ⟨id, hid, happroves, hspent⟩ := hready _ rfl node frontier rfl
    refine wp_mono (drive_account thread _ frontier (hg.sound hc) ⟨id, rfl, hspent, happroves⟩) fun tr' r c' h => ?_
    obtain ⟨ids, ha⟩ := h
    rw [hid]
    exact ⟨ids, (ha.earlier hg).quiet_append hquiet⟩

end Engine

namespace Turn

def next (t : Turn) (w : World) : World := (t.engine.stepWithin t.patience t.step w).2

def sessionTrace : List Turn → World → List RunMoment
  | [], _ => []
  | t :: rest, w => t.engine.stepTrace t.patience t.step w ++ sessionTrace rest (t.next w)

theorem next_grows (t : Turn) (w : World) : w.desk.Grows (t.next w).desk := t.engine.stepWithin_grows ..

/-- The world after turns that were taken one after the other. -/
def after (turns : List Turn) (w : World) : World := turns.foldl (fun w t => t.next w) w

theorem after_concat (turns : List Turn) (t : Turn) (w : World) : after (turns ++ [t]) w = t.next (after turns w) := by
  rw [after, List.foldl_append]
  rfl

theorem after_grows (turns : List Turn) (w : World) : w.desk.Grows (after turns w).desk := by
  induction turns generalizing w with
  | nil => exact .refl _
  | cons t turns ih => exact (t.next_grows w).trans (ih _)

/-- A turn charges no request that was spent before and leaves every request that it charges spent. -/
theorem charges (t : Turn) {w : World} (hw : w.desk.Sound) :
    ∃ ids, Charged (t.engine.stepTrace t.patience t.step w) ids ∧ ids.Nodup ∧
      ∀ id ∈ ids, (t.next w).desk.Spent id ∧ ¬w.desk.Spent id := by
  obtain ⟨E, patience, s⟩ := t
  have hfresh : ∀ (thread : String) {tr : List RunMoment} {token : Option Nat} {d : Desk} {ids : List Nat},
      Account tr token w.desk d ids → (∀ id, token = some id → w.desk.policy.current.get? thread = some id) →
      Charged tr ids ∧ ids.Nodup ∧ ∀ id ∈ ids, d.Spent id ∧ ¬w.desk.Spent id := by
    intro thread tr token d ids ha htoken
    refine ⟨ha.charged, ha.nodup, fun id hid => ⟨ha.spent id hid, fun hs => ?_⟩⟩
    rcases ha.fresh id hid with h | h
    · exact hs.2 thread (htoken id h)
    · exact Nat.not_le.2 hs.1 h
  cases s with
  | command c => exact ⟨[], .nil, .nil, by simp⟩
  | together edits => exact ⟨[], .nil, .nil, by simp⟩
  | wait thread limit commands =>
    exact ⟨[], .of_quiet (Engine.quiet_wait thread limit _), .nil, by simp⟩
  | invoke thread initial commands =>
    have hcourse : (Course.start patience w commands).world.desk.Sound := hw
    obtain ⟨ids, ha⟩ := E.invoke_account thread initial hcourse
    exact ⟨ids, hfresh thread ha (by simp)⟩
  | resume thread commands =>
    have hcourse : (Course.start patience w commands).world.desk.Sound := hw
    obtain ⟨ids, ha⟩ := E.resume_account thread hcourse
    exact ⟨ids, hfresh thread ha fun _ h => h⟩

theorem sessionTrace_charges (turns : List Turn) {w : World} (hw : w.desk.Sound) :
    ∃ ids, Charged (sessionTrace turns w) ids ∧ ids.Nodup ∧ ∀ id ∈ ids, ¬w.desk.Spent id := by
  induction turns generalizing w with
  | nil => exact ⟨[], .nil, .nil, by simp⟩
  | cons t turns ih =>
    have hg := t.next_grows w
    obtain ⟨ids, htr, hnodup, hids⟩ := t.charges hw
    obtain ⟨ids', htr', hnodup', hids'⟩ := ih (hg.sound hw)
    refine ⟨ids ++ ids', htr.append htr', ?_, ?_⟩
    · exact List.nodup_append.2 ⟨hnodup, hnodup', fun id hid _ hid' heq => hids' _ hid' (heq ▸ (hids id hid).1)⟩
    · intro id hid
      rcases List.mem_append.1 hid with h | h
      · exact (hids id h).2
      · exact fun hs => hids' id h (hg.spent id hs)

end Turn

/-- In a session of any commands and runs on any threads, whatever fails in it, each node that is entered either was
found to need no approval in the state just loaded, or is charged to an approved request for its thread and node; no
request is charged twice. -/
theorem entered_on_own_approval (turns : List Turn) (graph policy : Registry) (timeout : Option Nat) :
    ∃ ids, Charged (Turn.sessionTrace turns (.fresh graph policy timeout)) ids ∧ ids.Nodup := by
  have hsound : (World.fresh graph policy timeout).desk.Sound :=
    { numbered := fun id r h => by cases h
      current := fun thread id h => by cases h }
  obtain ⟨ids, htr, hnodup, -⟩ := Turn.sessionTrace_charges turns hsound
  exact ⟨ids, htr, hnodup⟩

end GatedFlow
