import GatedFlow.Proofs.Run.Apart
import GatedFlow.Proofs.Session.Attempts
import GatedFlow.Proofs.Session.Refusal
import Mathlib

/-! # What a resumed thread goes on with

A thread is resumed with its current request. If the last run that has driven nodes of the thread has made that request
and has ended well, it has stopped with it, and resuming takes the run up again. But a new run does not withdraw a
request that it finds: where one that was there before is still the current one, resuming goes on with it, however the
new run has ended (`continues_last_run_iff`). -/

namespace GatedFlow

variable {thread : String}

/-- The commands of a step leave a thread: at most its run, if it has one, writes the thread's state and asks for
approvals on it. -/
def Step.CommandsLeave (thread : String) : Step → Prop
  | .command c => c.LeavesThread thread
  | .together edits => ∀ (rules : EditRules) (s : Store),
    (Edit.runTogether (edits.map (·.edit rules)) s).2.snapshots.get? thread = s.snapshots.get? thread
  | .wait _ _ commands => ∀ c ∈ commands.map Prod.snd, c.LeavesThread thread
  | .invoke _ _ commands => ∀ c ∈ commands.map Prod.snd, c.LeavesThread thread
  | .resume _ commands => ∀ c ∈ commands.map Prod.snd, c.LeavesThread thread

theorem Course.start_leavesThread {commands : List (Nat × Command)} (h : ∀ c ∈ commands.map Prod.snd, c.LeavesThread thread)
    (patience : Nat) (w : World) : (Course.start patience w commands).LeavesThread thread :=
  fun _ ha => h _ (Course.mem_start_agenda ha)

namespace Engine

variable {E : Engine} {c : Course}

theorem invoke_leaves (initial : State) (hc : c.LeavesThread thread) :
    E.wp (E.invoke thread initial) (fun _ r c' => ∀ outcome, r = some (.ok outcome) →
      outcome.Leaves thread c.world.desk c'.world) c := by
  rw [invoke_eq]
  refine wp_bind_of_ok seed_spec fun _ _ c₁ h => ?_
  obtain ⟨store, rfl, -⟩ := h
  exact drive_leaves _ _ ⟨.refl _, .refl _, hc⟩

theorem prepare_unasked (hc : c.LeavesThread thread) : E.wp (E.prepare thread) (fun _ _ c' =>
    c.world.desk.Unasked thread c'.world.desk ∧ c'.LeavesThread thread) c :=
  ((settles_prepare thread).mono fun _ h => h.asksNone thread).unasked hc

theorem resume_leaves (hc : c.LeavesThread thread) :
    E.wp (E.resume thread) (fun _ r c' => ∀ outcome, r = some (.ok outcome) →
      outcome.Leaves thread c.world.desk c'.world) c := by
  unfold resume
  refine wp_bind_of_ok (wp_grows (wp_and (prepare_unasked hc) prepare_refused)) fun _ resumption c₁ h => ?_
  obtain ⟨⟨⟨hunasked, hleaves⟩, hended⟩, hgrows⟩ := h
  rcases resumption with outcome | ⟨node, frontier⟩
  · rintro _ ⟨⟩
    obtain ⟨request, -, -, rfl, hdesk, -⟩ := hended _ rfl
    have hnone : c₁.world.desk.policy.current.get? thread = none := by
      rw [hdesk, Desk.cancelRequest_current, if_pos rfl]
    exact .rejected fun id hid => by cases hnone.symm.trans hid
  · exact drive_leaves _ _ ⟨hgrows, hunasked, hleaves⟩

end Engine

namespace Turn

/-- How the run of a turn ends, if it has one that is not given up. -/
def result? (t : Turn) (w : World) : Option (Except FlowError Outcome) :=
  match (t.engine.stepWithin t.patience t.step w).1 with
  | .ran result _ => result
  | _ => none

/-- The turns that get as far as driving nodes of a thread. -/
inductive Drives (thread : String) (w : World) : Turn → Prop
  | invoke {E : Engine} {patience : Nat} {initial : State} {commands : List (Nat × Command)}
      (h : (E.outcome (E.seed thread initial) (.start patience w commands)).1 = some (.ok ())) :
      Drives thread w ⟨E, patience, .invoke thread initial commands⟩
  | resume {E : Engine} {patience : Nat} {commands : List (Nat × Command)} {node : String} {frontier : List String}
      (h : (E.outcome (E.prepare thread) (.start patience w commands)).1 = some (.ok (.ready node frontier))) :
      Drives thread w ⟨E, patience, .resume thread commands⟩

variable {t : Turn} {w : World}

theorem Drives.leaves {outcome : Outcome} (h : Drives thread w t) (ht : t.step.CommandsLeave thread)
    (hresult : t.result? w = some (.ok outcome)) : outcome.Leaves thread w.desk (t.next w) := by
  cases h with
  | @invoke E patience initial commands _ =>
    have hleaves : E.wp (E.invoke thread initial) _ (.start patience w commands) :=
      Engine.invoke_leaves initial (Course.start_leavesThread ht patience w)
    exact hleaves outcome hresult
  | @resume E patience commands _ _ _ =>
    have hleaves : E.wp (E.resume thread) _ (.start patience w commands) :=
      Engine.resume_leaves (Course.start_leavesThread ht patience w)
    exact hleaves outcome hresult

theorem attempts_of_untouched {id : Nat} (h : w.Untouched thread (t.next w))
    (hcurrent : (t.next w).desk.policy.current.get? thread = some id) : w.desk.policy.current.get? thread = some id ∧
      ∀ w₀ lost, Attempts thread w₀ lost w → ∃ lost', Attempts thread w₀ lost' (t.next w) :=
  ⟨h.unasked id hcurrent, fun _ lost hattempts => ⟨lost, .aside t hattempts h.stored⟩⟩

theorem idle_invoke {E : Engine} {patience : Nat} {initial : State} {commands : List (Nat × Command)}
    (hidle : ¬Drives thread w ⟨E, patience, .invoke thread initial commands⟩) :
    w.Untouched thread (Turn.next ⟨E, patience, .invoke thread initial commands⟩ w) := by
  have hinvoke : E.wp (E.invoke thread initial) (fun _ _ c' => w.Untouched thread c'.world) (.start patience w commands) := by
    have hseed : E.wp (E.seed thread initial) (fun _ r _ => r ≠ some (.ok ())) (.start patience w commands) :=
      fun h => hidle (.invoke h)
    rw [Engine.invoke_eq, Engine.wp_bind]
    refine Engine.wp_mono (Engine.wp_and hseed Engine.seed_spec) fun _ r c' h => ?_
    obtain ⟨hr, store, rfl, hstored⟩ := h
    rcases r with _ | (e | u)
    · exact ⟨congrArg (·.get? thread) hstored, .refl _⟩
    · exact ⟨congrArg (·.get? thread) hstored, .refl _⟩
    · exact absurd rfl hr
  exact hinvoke

/-- An attempt to resume a thread that does not come to drive nodes fails, or it ends a run whose request is rejected and
leaves the thread with none. -/
theorem idle_resume {E : Engine} {patience : Nat} {commands : List (Nat × Command)} {id : Nat}
    (ht : ∀ c ∈ commands.map Prod.snd, c.LeavesThread thread) (hidle : ¬Drives thread w ⟨E, patience, .resume thread commands⟩)
    (hcurrent : (Turn.next ⟨E, patience, .resume thread commands⟩ w).desk.policy.current.get? thread = some id) :
    w.desk.policy.current.get? thread = some id ∧ ∀ w₀ lost, Attempts thread w₀ lost w →
      ∃ lost', Attempts thread w₀ lost' (Turn.next ⟨E, patience, .resume thread commands⟩ w) := by
  let c := Course.start patience w commands
  have hready : ∀ node frontier, (E.outcome (E.prepare thread) c).1 ≠ some (.ok (.ready node frontier)) :=
    fun _ _ h => hidle (.resume h)
  have hworld : Turn.next ⟨E, patience, .resume thread commands⟩ w = (E.outcome (E.prepare thread) c).2.world :=
    congrArg Course.world (Engine.resume_of_not_ready hready)
  have hunasked : E.wp (E.prepare thread) _ c := Engine.prepare_unasked (Course.start_leavesThread ht patience w)
  have hrefused : E.wp (E.prepare thread) _ c := Engine.prepare_refused
  rw [hworld] at hcurrent
  rcases hprepare : (E.outcome (E.prepare thread) c).1 with _ | (e | (outcome | ⟨node, frontier⟩))
  · -- nothing is waited for before the first node, so that the attempt is not given up there
    have hends := (Engine.clerical_prepare (E := E) thread).ends c
    rw [hprepare] at hends
    cases hends
  · refine ⟨hunasked.1 id hcurrent, fun w₀ lost hattempts => ?_⟩
    by_cases hclaims : E.Claims thread c
    · exact ⟨true, .late hattempts hprepare hclaims⟩
    · exact ⟨lost, .early hattempts hprepare hclaims⟩
  · obtain ⟨request, -, -, -, hdesk, -⟩ := hrefused _ hprepare
    rw [hdesk, Desk.cancelRequest_current, if_pos rfl] at hcurrent
    cases hcurrent
  · exact absurd hprepare (hready node frontier)

/-- A turn that is no run on a thread and whose commands leave the thread alone does not touch it. -/
theorem untouched (ht : t.step.CommandsLeave thread) (hruns : ∀ commands, ¬t.step.Runs thread commands) :
    w.Untouched thread (t.next w) := by
  obtain ⟨E, patience, s⟩ := t
  cases s with
  | command c => exact Command.LeavesThread.untouched ht E.rules w
  | together edits => exact ⟨ht E.rules w.store, .refl _⟩
  | wait other limit commands =>
    have huntouched : E.wp (Run.wait other limit) _ (.start patience w commands) :=
      (Engine.apart_wait limit).untouched (Course.start_leavesThread ht patience w)
    exact huntouched
  | invoke other initial commands =>
    have hother : other ≠ thread := fun heq => hruns commands (.inl ⟨initial, heq ▸ rfl⟩)
    have huntouched : E.wp (E.invoke other initial) _ (.start patience w commands) :=
      (Engine.apart_invoke hother initial).untouched (Course.start_leavesThread ht patience w)
    exact huntouched
  | resume other commands =>
    have hother : other ≠ thread := fun heq => hruns commands (.inr (heq ▸ rfl))
    have huntouched : E.wp (E.resume other) _ (.start patience w commands) :=
      (Engine.apart_resume hother).untouched (Course.start_leavesThread ht patience w)
    exact huntouched

/-- A turn that does not drive nodes of a thread gives it no request and does not change the frontier that is kept, unless
it is an attempt to resume the thread that fails. -/
theorem idle {id : Nat} (ht : t.step.CommandsLeave thread) (hidle : ¬Drives thread w t)
    (hcurrent : (t.next w).desk.policy.current.get? thread = some id) : w.desk.policy.current.get? thread = some id ∧
      ∀ w₀ lost, Attempts thread w₀ lost w → ∃ lost', Attempts thread w₀ lost' (t.next w) := by
  by_cases hruns : ∃ commands, t.step.Runs thread commands
  · obtain ⟨E, patience, s⟩ := t
    obtain ⟨commands, ⟨initial, rfl⟩ | rfl⟩ := hruns
    · exact attempts_of_untouched (idle_invoke hidle) hcurrent
    · exact idle_resume ht hidle hcurrent
  · exact attempts_of_untouched (untouched ht fun commands h => hruns ⟨commands, h⟩) hcurrent

end Turn

/-- The last of some turns that has driven nodes of a thread, and the world in which it was taken. -/
inductive LastRun (thread : String) (w₀ : World) : List Turn → Turn → World → Prop
  | now {turns : List Turn} {t : Turn} (h : Turn.Drives thread (Turn.after turns w₀) t) :
      LastRun thread w₀ (turns ++ [t]) t (Turn.after turns w₀)
  | earlier {turns : List Turn} {t k : Turn} {w : World} (h : LastRun thread w₀ turns k w)
      (hidle : ¬Turn.Drives thread (Turn.after turns w₀) t) : LastRun thread w₀ (turns ++ [t]) k w

namespace LastRun

variable {w₀ w : World} {turns : List Turn} {k : Turn}

theorem drives (h : LastRun thread w₀ turns k w) : k ∈ turns ∧ Turn.Drives thread w k ∧ w₀.desk.Grows w.desk := by
  induction h with
  | now h => exact ⟨List.mem_append_right _ (List.mem_singleton_self _), h, Turn.after_grows ..⟩
  | earlier _ _ ih => exact ⟨List.mem_append_left _ ih.1, ih.2⟩

/-- A thread that has come to a request has been driven, and since the last run that has done so it has had that request
and nothing but attempts to resume it. -/
theorem exists_of_current {id : Nat} (hnone : w₀.desk.policy.current.get? thread = none)
    (hturns : ∀ t ∈ turns, t.step.CommandsLeave thread)
    (hcurrent : (Turn.after turns w₀).desk.policy.current.get? thread = some id) :
    ∃ k w lost, LastRun thread w₀ turns k w ∧ (k.next w).desk.policy.current.get? thread = some id ∧
      Attempts thread (k.next w) lost (Turn.after turns w₀) := by
  -- backwards over the turns: the last one has driven nodes, or it was idle and the turns before it tell
  induction turns using List.reverseRecOn with
  | nil => cases hnone.symm.trans hcurrent
  | append_singleton turns t ih =>
    rw [Turn.after_concat] at hcurrent ⊢
    by_cases hdrives : Turn.Drives thread (Turn.after turns w₀) t
    · exact ⟨t, _, false, .now hdrives, hcurrent, .start⟩
    · have ht := hturns t (List.mem_append_right _ (List.mem_singleton_self _))
      obtain ⟨hbefore, hextend⟩ := Turn.idle ht hdrives hcurrent
      obtain ⟨k, w, lost, hlast, hmade, hattempts⟩ := ih (fun t ht => hturns t (List.mem_append_left _ ht)) hbefore
      obtain ⟨lost', hattempts⟩ := hextend _ lost hattempts
      exact ⟨k, w, lost', .earlier hlast hdrives, hmade, hattempts⟩

end LastRun

/-- Where runs on a thread come one after the other and nothing else writes the thread or asks for approvals on it, let
resuming get as far as driving nodes. It goes on with the thread's current request, and the last run that has driven
nodes of the thread has stopped with that request exactly if it has made the request and ended well; if the request was
there before it, that run may have ended in any way. Where the run has stopped with it, resuming goes on with the node
that it stopped before and with the frontier that it kept, unless an attempt to resume the thread has lost that. -/
theorem continues_last_run_iff {w₀ : World} {turns : List Turn} {E : Engine} {patience : Nat}
    {commands : List (Nat × Command)} {node : String} {frontier : List String} (hsound : w₀.desk.Sound)
    (hnone : w₀.desk.policy.current.get? thread = none) (hturns : ∀ t ∈ turns, t.step.CommandsLeave thread)
    (hready : (E.outcome (E.prepare thread) (.start patience (Turn.after turns w₀) commands)).1 =
      some (.ok (.ready node frontier))) :
    ∃ k w id lost, LastRun thread w₀ turns k w ∧ Attempts thread (k.next w) lost (Turn.after turns w₀) ∧
      (Turn.after turns w₀).desk.policy.current.get? thread = some id ∧
      ((∃ node' request, k.result? w = some (.ok (.interrupted node' request))) ↔
        w.desk.policy.current.get? thread ≠ some id ∧ ∃ outcome, k.result? w = some (.ok outcome)) ∧
      ∀ node' request, k.result? w = some (.ok (.interrupted node' request)) → request.record.id = id ∧ node = node' ∧
        ∃ rest, pendingIn (k.next w).store.snapshots thread = some (frontierValue (node :: rest)) ∧
          (frontier = node :: rest ↔ lost = false ∨ rest = []) := by
  have hprepare : E.wp (E.prepare thread) _ (.start patience (Turn.after turns w₀) commands) :=
    Engine.wp_grows (Engine.prepare_spends ((Turn.after_grows turns w₀).sound hsound))
  obtain ⟨hspends, hends⟩ := hprepare
  obtain ⟨id, hcurrent, ⟨r, hr, -, -, happroved⟩, -⟩ := hspends _ hready node frontier rfl
  have hcurrent : (Turn.after turns w₀).desk.policy.current.get? thread = some id := hcurrent
  obtain ⟨k, w, lost, hlast, hmade, hattempts⟩ := LastRun.exists_of_current hnone hturns hcurrent
  obtain ⟨hmem, hdrives, hgrows⟩ := hlast.drives
  have hleaves : ∀ outcome, k.result? w = some (.ok outcome) → outcome.Leaves thread w.desk (k.next w) :=
    fun _ => hdrives.leaves (hturns k hmem)
  -- a decision that the run has left stands when the thread is resumed, and then the request is found approved
  have hdecision : ∀ status, (k.next w).decision? id = some status → status = .approved := by
    intro status hstatus
    obtain ⟨r', hr', rfl, -⟩ := World.decision?_eq_some_iff.1 (World.decision?_grows hstatus (hattempts.grows.trans hends))
    obtain rfl : r' = r := Option.some.inj (hr'.symm.trans hr)
    exact happroved
  have hstopped := fun outcome hresult => (hleaves outcome hresult).interrupted_iff (hgrows.sound hsound) hmade hdecision
  refine ⟨k, w, id, lost, hlast, hattempts, hcurrent, ⟨?_, ?_⟩, ?_⟩
  · rintro ⟨node', request, hresult⟩
    exact ⟨(hstopped _ hresult).1 ⟨node', request, rfl⟩, _, hresult⟩
  · rintro ⟨hbefore, outcome, hresult⟩
    obtain ⟨node', request, rfl⟩ := (hstopped outcome hresult).2 hbefore
    exact ⟨node', request, hresult⟩
  · intro node' request hresult
    cases hleaves _ hresult with
    | @interrupted _ _ rest _ hthis hnew hfound hnode hkept =>
      obtain rfl : request.record.id = id := Option.some.inj (hthis.symm.trans hmade)
      obtain ⟨hnode', hfrontier⟩ := hattempts.ready hfound hcurrent hready rfl
      obtain rfl : node = node' := hnode'.trans hnode
      refine ⟨rfl, rfl, rest, hkept, ?_⟩
      rw [hfrontier, hkept, keptOf_frontierValue]
      cases lost with
      | false => simp
      | true => simp [eq_comm]

theorem World.fresh_sound (graph policy : Registry) (timeout : Option Nat) : (World.fresh graph policy timeout).desk.Sound where
  numbered := fun id r h => by cases h
  current := fun thread id h => by cases h

def forkedTurn (s : Step) : Turn := ⟨forked, patience, s⟩

/-- A thread is run until it stops before a node that needs approval, and the request is approved. -/
def stoppedTurns : List Turn :=
  [forkedTurn (.command (.desk (.addAlways "b"))), forkedTurn (.invoke "t" .empty []),
    forkedTurn (.command (.desk (.decide (.ofThread "t") (.approve "operator" none))))]

/-- After that the node needs no approval any more. -/
def freedTurns : List Turn := stoppedTurns ++ [forkedTurn (.command (.desk (.removeAlways "b")))]

theorem stoppedTurns_commandsLeave : ∀ t ∈ stoppedTurns, t.step.CommandsLeave "t" := by
  simp [stoppedTurns, forkedTurn, Step.CommandsLeave, Command.LeavesThread]

theorem continues_last_run_iff_stopped :
    (forked.outcome (forked.prepare "t") (.start patience (Turn.after stoppedTurns (.fresh [] [] none)) [])).1 =
        some (.ok (.ready "b" ["b", "c"])) ∧
    ∃ k w id lost, LastRun "t" (.fresh [] [] none) stoppedTurns k w ∧
      Attempts "t" (k.next w) lost (Turn.after stoppedTurns (.fresh [] [] none)) ∧
      (Turn.after stoppedTurns (.fresh [] [] none)).desk.policy.current.get? "t" = some id ∧
      ((∃ node' request, k.result? w = some (.ok (.interrupted node' request))) ↔
        w.desk.policy.current.get? "t" ≠ some id ∧ ∃ outcome, k.result? w = some (.ok outcome)) ∧
      ∀ node' request, k.result? w = some (.ok (.interrupted node' request)) → request.record.id = id ∧ "b" = node' ∧
        ∃ rest, pendingIn (k.next w).store.snapshots "t" = some (frontierValue ("b" :: rest)) ∧
          (["b", "c"] = "b" :: rest ↔ lost = false ∨ rest = []) := by
  have hready : (forked.outcome (forked.prepare "t")
      (.start patience (Turn.after stoppedTurns (.fresh [] [] none)) [])).1 = some (.ok (.ready "b" ["b", "c"])) := by cbv
  exact ⟨hready, continues_last_run_iff (World.fresh_sound _ _ _) rfl stoppedTurns_commandsLeave hready⟩

/-- After a run that was completed, resuming the thread goes on with the node before which an earlier run has stopped. -/
theorem not_continued_again :
    ¬∀ (E : Engine) (thread node : String) (frontier : List String) (turns : List Turn) (k : Turn) (w₀ w : World),
      w₀.desk.Sound → w₀.desk.policy.current.get? thread = none → (∀ t ∈ turns, t.step.CommandsLeave thread) →
      LastRun thread w₀ turns k w →
      (E.outcome (E.prepare thread) (.start patience (Turn.after turns w₀) [])).1 = some (.ok (.ready node frontier)) →
      ∃ request, k.result? w = some (.ok (.interrupted node request)) := by
  intro h
  let again := forkedTurn (.invoke "t" .empty [])
  have hseed : (forked.outcome (forked.seed "t" .empty)
      (.start patience (Turn.after freedTurns (.fresh [] [] none)) [])).1 = some (.ok ()) := by cbv
  have hcompleted : again.result? (Turn.after freedTurns (.fresh [] [] none)) =
      some (.ok (.completed .empty ["a", "b", "c"])) := by cbv
  have hready : (forked.outcome (forked.prepare "t")
      (.start patience (Turn.after (freedTurns ++ [again]) (.fresh [] [] none)) [])).1 = some (.ok (.ready "b" ["b"])) := by cbv
  have hturns : ∀ t ∈ freedTurns ++ [again], t.step.CommandsLeave "t" := by
    simp [freedTurns, stoppedTurns, again, forkedTurn, Step.CommandsLeave, Command.LeavesThread]
  obtain ⟨request, hresult⟩ := h forked "t" "b" ["b"] _ _ _ _ (World.fresh_sound _ _ _) rfl hturns (.now (.invoke hseed)) hready
  cases hcompleted.symm.trans hresult

end GatedFlow
