import GatedFlow.Proofs.Run.Frontier
import GatedFlow.Proofs.Session.Charges
import Mathlib

/-! # Attempts to resume a paused thread

After a run has stopped before a node, the thread is resumed until one attempt gets as far as driving nodes. What that
attempt starts from is decided by two calls that may fail before it: the edit that keeps the frontier when the run stops,
and the edit that marks the thread after an attempt has taken the frontier out of the thread's state. -/

namespace GatedFlow

/-- What may become of a world while attempts to resume a thread fail and nothing else writes the thread's state. The flag
says whether an attempt has failed after it took out the kept frontier. -/
inductive Attempts (thread : String) (w₀ : World) : Bool → World → Prop
  | start : Attempts thread w₀ false w₀
  | aside {lost : Bool} {w : World} (t : Turn) (h : Attempts thread w₀ lost w)
      (hsame : (t.next w).store.snapshots.get? thread = w.store.snapshots.get? thread) :
      Attempts thread w₀ lost (t.next w)
  | early {lost : Bool} {w : World} {E : Engine} {patience : Nat} {commands : List (Nat × Command)} {e : FlowError}
      (h : Attempts thread w₀ lost w)
      (hfails : (E.outcome (E.prepare thread) (.start patience w commands)).1 = some (.error e))
      (hclaims : ¬E.Claims thread (.start patience w commands)) :
      Attempts thread w₀ lost (Turn.next ⟨E, patience, .resume thread commands⟩ w)
  | late {lost : Bool} {w : World} {E : Engine} {patience : Nat} {commands : List (Nat × Command)} {e : FlowError}
      (h : Attempts thread w₀ lost w)
      (hfails : (E.outcome (E.prepare thread) (.start patience w commands)).1 = some (.error e))
      (hclaims : E.Claims thread (.start patience w commands)) :
      Attempts thread w₀ true (Turn.next ⟨E, patience, .resume thread commands⟩ w)

/-- Resuming a thread does no more than it does before any node unless it comes to drive nodes. -/
theorem Engine.resume_of_not_ready {E : Engine} {thread : String} {c : Course}
    (h : ∀ node frontier, (E.outcome (E.prepare thread) c).1 ≠ some (.ok (.ready node frontier))) :
    (E.outcome (E.resume thread) c).2 = (E.outcome (E.prepare thread) c).2 := by
  have hresume : E.wp (E.resume thread) (fun _ _ c' => c' = (E.outcome (E.prepare thread) c).2) c := by
    unfold resume
    rw [wp_bind]
    unfold wp
    rcases hprepare : (E.outcome (E.prepare thread) c).1 with _ | (e | (outcome | ⟨node, frontier⟩))
    · rfl
    · rfl
    · rfl
    · exact absurd hprepare (h node frontier)
  exact hresume

theorem Engine.resume_of_error {E : Engine} {thread : String} {c : Course} {e : FlowError}
    (h : (E.outcome (E.prepare thread) c).1 = some (.error e)) :
    (E.outcome (E.resume thread) c).2 = (E.outcome (E.prepare thread) c).2 :=
  resume_of_not_ready fun _ _ hready => by cases h.symm.trans hready

namespace Attempts

variable {thread : String} {w₀ w : World} {lost : Bool}

theorem grows (h : Attempts thread w₀ lost w) : w₀.desk.Grows w.desk := by
  induction h with
  | start => exact .refl _
  | aside t _ _ ih => exact ih.trans (t.next_grows _)
  | early _ _ _ ih => exact ih.trans (Turn.next_grows _ _)
  | late _ _ _ ih => exact ih.trans (Turn.next_grows _ _)

/-- The kept frontier stays where it is until an attempt takes it out. -/
theorem pending (h : Attempts thread w₀ lost w) :
    pendingIn w.store.snapshots thread = if lost then none else pendingIn w₀.store.snapshots thread := by
  induction h with
  | start => rfl
  | aside t _ hsame ih => rw [← ih, pendingIn, hsame, pendingIn]
  | @early lost w E patience commands e _ hfails hclaims ih =>
    have hprepare : E.wp (E.prepare thread) _ (.start patience w commands) := Engine.prepare_pending
    rw [← ih, Turn.next, Engine.stepWithin_resume, Engine.resume_of_error hfails]
    exact hprepare.1 hclaims
  | @late lost w E patience commands e _ hfails hclaims ih =>
    have hprepare : E.wp (E.prepare thread) _ (.start patience w commands) := Engine.prepare_pending
    rw [Turn.next, Engine.stepWithin_resume, Engine.resume_of_error hfails]
    exact hprepare.2.1 hclaims

/-- The first attempt that gets as far as driving nodes starts from the frontier that was kept at first, unless an attempt
before it took that out, and from the approved node alone where nothing is kept. -/
theorem ready {E : Engine} {patience : Nat} {commands : List (Nat × Command)} {request : Request} {node' : String}
    {frontier kept : List String} (h : Attempts thread w₀ lost w)
    (hrequest : w₀.desk.request? request.record.id = some request)
    (hcurrent : w.desk.policy.current.get? thread = some request.record.id)
    (hready : (E.outcome (E.prepare thread) (.start patience w commands)).1 = some (.ok (.ready node' frontier)))
    (hkept : kept = if lost then [] else keptOf (pendingIn w₀.store.snapshots thread)) :
    node' = request.record.node ∧ frontier = if kept.isEmpty then [node'] else kept := by
  have hprepare : E.wp (E.prepare thread) _ (.start patience w commands) := Engine.prepare_pending
  obtain ⟨r, kept', hr, hnode, hkept', hfrontier⟩ := hprepare.2.2 node' frontier hready
  -- the request may have been decided since, but its node is the same
  obtain ⟨r', hr', hlater⟩ := h.grows.kept _ _ hrequest
  have hr : w.desk.current? thread = some r := hr
  rw [Desk.current?, hcurrent, Option.bind_some, hr', Option.some.injEq] at hr
  have hkept : kept' = kept := by
    rw [hkept', hkept]
    show keptOf (pendingIn w.store.snapshots thread) = _
    rw [h.pending]
    cases lost <;> rfl
  exact ⟨by rw [hnode, ← hr, hlater.node_eq], hkept ▸ hfrontier⟩

end Attempts

/-- A run that comes to a node that needs approval stops there. Whatever calls to the store fail then and in attempts to
resume the thread, the first attempt that gets as far as driving nodes goes on with that node. It starts from the whole
frontier exactly if the field for the frontier holds it, because it was kept or stood there before, and no attempt has
failed after taking it out, or else if no other node was to follow and the field holds nothing. -/
theorem resumes_whole_iff {E : Engine} {c : Course} {thread node : String} {rest : List String} {left : Nat}
    {approved : Option String} {visited : List String} {s : State} {store : Store} {reason : GateReason}
    (hmode : E.config.mode = .pause) (happroved : approved ≠ some node)
    (hload : (Edit.loadState thread).run c.world.store = (.ok s, store))
    (hreason : c.world.desk.policy.reason? s node = some reason) {lost : Bool} {w : World}
    (hattempts : Attempts thread (E.outcome (E.drive thread left (node :: rest) approved visited) c).2.world lost w)
    (hcurrent : w.desk.policy.current.get? thread = some c.world.desk.requests.length) {E' : Engine} {patience : Nat}
    {commands : List (Nat × Command)} {node' : String} {frontier : List String}
    (hready : (E'.outcome (E'.prepare thread) (.start patience w commands)).1 = some (.ok (.ready node' frontier))) :
    node' = node ∧ (frontier = node :: rest ↔
      lost = false ∧ (E.Keeps thread (node :: rest) store ∨ keptFrontier s = node :: rest) ∨
        rest = [] ∧ (lost = true ∨ keptFrontier s = [])) := by
  have hdrive : E.wp (E.drive thread left (node :: rest) approved visited) _ c :=
    Engine.drive_pending hmode happroved hload hreason
  obtain ⟨⟨request, hawaits, hid⟩, hkeeps, hfails⟩ := hdrive
  obtain ⟨hnode, hfrontier⟩ := hattempts.ready hawaits.found (hcurrent.trans (congrArg some hid.symm)) hready rfl
  obtain rfl : node' = node := hnode.trans hawaits.node_eq
  refine ⟨rfl, ?_⟩
  cases lost with
  | true =>
    -- nothing is kept any more, so that the approved node is driven alone
    have hfrontier : frontier = [node'] := hfrontier
    simp [hfrontier, eq_comm]
  | false =>
    rw [if_neg Bool.false_ne_true] at hfrontier
    by_cases hk : E.Keeps thread (node' :: rest) store
    · rw [hkeeps hk, keptOf_frontierValue] at hfrontier
      exact ⟨fun _ => .inl ⟨rfl, .inl hk⟩, fun _ => hfrontier⟩
    · -- the field still holds what the run found in the state that it loaded
      rw [hfails hk, ← keptFrontier_eq] at hfrontier
      cases hkept : keptFrontier s with
      | nil => simp [hfrontier, hkept, hk, eq_comm]
      | cons first others => simp [hfrontier, hkept, hk]

/-- An engine for a node that two others follow. -/
def forked : Engine where
  graph := .ofParts [⟨"a", .assign .empty, .empty⟩, ⟨"b", .assign .empty, .empty⟩, ⟨"c", .assign .empty, .empty⟩]
    [⟨"a", "b", none, .empty⟩, ⟨"a", "c", none, .empty⟩] "a" .empty .empty
  config := .standard
  rules := ⟨none, .lenient⟩
  registry := 0

def forkedCourse (faults : Faults) : Course :=
  .start patience (World.mk ⟨Record.empty.insert "t" .empty, .empty, faults⟩
    ((Command.desk (.addAlways "b")).run ⟨none, .lenient⟩ (World.fresh [] [] none)).2.desk) []

def forkedApproved (faults : Faults) : World :=
  Turn.next ⟨forked, patience, .command (.desk (.decide (.ofThread "t") (.approve "operator" none)))⟩
    (forked.outcome (forked.drive "t" 5 ["b", "c"] none ["a"]) (forkedCourse faults)).2.world

theorem forkedApproved_attempts (faults : Faults) : Attempts "t"
    (forked.outcome (forked.drive "t" 5 ["b", "c"] none ["a"]) (forkedCourse faults)).2.world false
    (forkedApproved faults) :=
  .aside _ .start rfl

theorem resumes_whole_iff_forked :
    let store := ((Edit.loadState "t").run (forkedCourse .none).world.store).2
    (forked.outcome (forked.prepare "t") (.start patience (forkedApproved .none) [])).1 =
        some (.ok (.ready "b" ["b", "c"])) ∧
      "b" = "b" ∧ (["b", "c"] = "b" :: ["c"] ↔
        false = false ∧ (forked.Keeps "t" ("b" :: ["c"]) store ∨ keptFrontier .empty = "b" :: ["c"]) ∨
          ["c"] = [] ∧ (false = true ∨ keptFrontier .empty = [])) := by
  intro store
  have hready : (forked.outcome (forked.prepare "t") (.start patience (forkedApproved .none) [])).1 =
      some (.ok (.ready "b" ["b", "c"])) := by cbv
  have hcurrent : (forkedApproved .none).desk.policy.current.get? "t" =
      some (forkedCourse .none).world.desk.requests.length := by cbv
  exact ⟨hready, resumes_whole_iff (E := forked) (c := forkedCourse .none) rfl (by decide) rfl rfl
    (forkedApproved_attempts .none) hcurrent hready⟩

/-- Where the edit that is to keep the frontier fails, the approved node is driven alone. -/
theorem not_whole_forked : ¬∀ w frontier, Attempts "t"
    (forked.outcome (forked.drive "t" 5 ["b", "c"] none ["a"])
      (forkedCourse (Faults.none.set .save (.block 0 1)))).2.world false w →
    w.desk.policy.current.get? "t" = some 0 →
    (forked.outcome (forked.prepare "t") (.start patience w [])).1 = some (.ok (.ready "b" frontier)) →
    frontier = ["b", "c"] := by
  intro h
  have hready : (forked.outcome (forked.prepare "t")
      (.start patience (forkedApproved (Faults.none.set .save (.block 0 1))) [])).1 =
        some (.ok (.ready "b" ["b"])) := by cbv
  have hcurrent : (forkedApproved (Faults.none.set .save (.block 0 1))).desk.policy.current.get? "t" = some 0 := by cbv
  exact absurd (h _ _ (forkedApproved_attempts _) hcurrent hready) (by decide)

end GatedFlow
