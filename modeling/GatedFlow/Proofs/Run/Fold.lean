import GatedFlow.Proofs.Edits.Advance
import GatedFlow.Proofs.Run.Declared
import GatedFlow.Proofs.Run.Walk
import Mathlib

/-! # A run computes the fold of its updates

`Graph.work` works off a frontier without a store: each node is carried out on the state folded so far, its update is
merged, and where the work goes next is chosen on the merged state. Where no node needs approval and no call to the store
fails, a new run does just that: it ends as the work does, leaves the fold in the store, and records each update of a field
with the value just before (`invoke_folds`). -/

namespace GatedFlow

namespace State

/-- Merges updates one after the other. -/
def mergeAll (s : State) (updates : List Fields) : State := updates.foldl merge s

/-- The changes that are recorded when updates are merged one after the other. -/
def changesToAll (s : State) : List Fields → List Change
  | [] => []
  | update :: updates => s.changesTo update ++ (s.merge update).changesToAll updates

end State

/-- How the work off a frontier ends: no node is left, a node fails, or no execution is left for the next one. -/
inductive WorkEnd where
  | completed
  | failed (e : FlowError)
  | exhausted

/-- The nodes that were carried out, each with its update, and how the work ended. -/
structure Work where
  done : List (String × Fields)
  ending : WorkEnd

namespace Work

def nodes (w : Work) : List String := w.done.map Prod.fst

def updates (w : Work) : List Fields := w.done.map Prod.snd

def after (node : String) (update : Fields) (w : Work) : Work := ⟨(node, update) :: w.done, w.ending⟩

/-- What a run answers that has come to the end of the work after visiting nodes. -/
def result (w : Work) (thread : String) (limit : Nat) (s : State) (visited : List String) : Except FlowError Outcome :=
  match w.ending with
  | .completed => .ok (.completed (s.mergeAll w.updates) (visited ++ w.nodes))
  | .failed e => .error e
  | .exhausted => .error (.stepLimit thread limit)

theorem result_after (w : Work) (node : String) (update : Fields) (thread : String) (limit : Nat) (s : State)
    (visited : List String) : (w.after node update).result thread limit s visited =
      w.result thread limit (s.merge update) (visited ++ [node]) := by
  obtain ⟨done, ending⟩ := w
  cases ending <;> simp [result, after, nodes, updates, State.mergeAll]

end Work

namespace Graph

/-- Works off a frontier on a state with a number of node executions left. -/
def work (g : Graph) : Nat → List String → State → Work
  | _, [], _ => ⟨[], .completed⟩
  | 0, _ :: _, _ => ⟨[], .exhausted⟩
  | left + 1, node :: rest, s =>
    match g.execute node s with
    | .error e => ⟨[], .failed e⟩
    | .ok update =>
      match g.next node (s.merge update) with
      | .error e => ⟨[(node, update)], .failed e⟩
      | .ok targets => (g.work left (joinFrontier rest targets) (s.merge update)).after node update

variable {g : Graph} {s : State} {left : Nat} {frontier rest targets : List String} {node : String} {update : Fields}
  {e : FlowError}

@[simp] theorem work_nil (g : Graph) (left : Nat) (s : State) : g.work left [] s = ⟨[], .completed⟩ := by
  cases left <;> rfl

@[simp] theorem work_zero (g : Graph) (node : String) (rest : List String) (s : State) :
    g.work 0 (node :: rest) s = ⟨[], .exhausted⟩ := rfl

theorem work_of_failed (hexecute : g.execute node s = .error e) :
    g.work (left + 1) (node :: rest) s = ⟨[], .failed e⟩ := by
  rw [work, hexecute]

theorem work_of_lost (hexecute : g.execute node s = .ok update) (hnext : g.next node (s.merge update) = .error e) :
    g.work (left + 1) (node :: rest) s = ⟨[(node, update)], .failed e⟩ := by
  rw [work, hexecute]
  dsimp only
  rw [hnext]

theorem work_of_goes (hexecute : g.execute node s = .ok update) (hnext : g.next node (s.merge update) = .ok targets) :
    g.work (left + 1) (node :: rest) s = (g.work left (joinFrontier rest targets) (s.merge update)).after node update := by
  rw [work, hexecute]
  dsimp only
  rw [hnext]

/-- Each update is what its node makes of the state folded so far. -/
theorem work_executes {before after : List (String × Fields)}
    (h : (g.work left frontier s).done = before ++ (node, update) :: after) :
    g.execute node (s.mergeAll (before.map Prod.snd)) = .ok update := by
  induction left generalizing frontier s before with
  | zero => cases frontier <;> simp at h
  | succ left ih =>
    cases frontier with
    | nil => simp at h
    | cons first rest =>
      cases hexecute : g.execute first s with
      | error e => simp [work_of_failed hexecute] at h
      | ok update₁ =>
        cases hnext : g.next first (s.merge update₁) with
        | error e =>
          rw [work_of_lost hexecute hnext] at h
          cases before with
          | nil =>
            cases h
            exact hexecute
          | cons step earlier => simp at h
        | ok targets =>
          rw [work_of_goes hexecute hnext] at h
          cases before with
          | nil =>
            cases h
            exact hexecute
          | cons step earlier =>
            obtain ⟨rfl, hrest⟩ := List.cons.inj h
            have hfolded : g.execute node ((s.merge update₁).mergeAll (earlier.map Prod.snd)) = .ok update := ih hrest
            exact hfolded

theorem nodeFailed_of_execute (hfinds : g.Finds) (hnode : g.declares node = true) (h : g.execute node s = .error e) :
    ∃ text, e = .nodeFailed node text := by
  obtain ⟨n, hn⟩ := Option.isSome_iff_exists.1 (hfinds node hnode)
  rw [execute, hn] at h
  dsimp only at h
  cases haction : n.action s with
  | ok update =>
    rw [haction] at h
    cases h
  | error text =>
    rw [haction] at h
    cases h
    exact ⟨text, rfl⟩

/-- In a closed graph that finds its nodes, work fails only in a node, on the fold of the updates before. -/
theorem work_failed (hclosed : g.Closed) (hfinds : g.Finds) (hfrontier : ∀ node ∈ frontier, g.declares node = true)
    (h : (g.work left frontier s).ending = .failed e) : ∃ node text, e = .nodeFailed node text ∧
      g.execute node (s.mergeAll (g.work left frontier s).updates) = .error e := by
  induction left generalizing frontier s with
  | zero => cases frontier <;> simp at h
  | succ left ih =>
    cases frontier with
    | nil => simp at h
    | cons node rest =>
      obtain ⟨hnode, hrest⟩ := List.forall_mem_cons.1 hfrontier
      cases hexecute : g.execute node s with
      | error e' =>
        rw [work_of_failed hexecute] at h ⊢
        cases h
        obtain ⟨text, rfl⟩ := nodeFailed_of_execute hfinds hnode hexecute
        exact ⟨node, text, rfl, hexecute⟩
      | ok update =>
        -- a declared node always leads on, so the failure comes later
        obtain ⟨targets, hnext⟩ := next_of_declared hnode (s.merge update)
        rw [work_of_goes hexecute hnext] at h ⊢
        have hjoined : ∀ target ∈ joinFrontier rest targets, g.declares target = true := by
          intro target htarget
          rcases mem_joinFrontier.1 htarget with hmem | hmem
          · exact hrest target hmem
          · exact hclosed.next node _ targets hnext target hmem
        exact ih hjoined h

end Graph

namespace Engine

variable {α β : Type} {E : Engine} {c : Course} {thread node : String} {s : State}

theorem wp_edit_run {e : Edit α} {f : α → Run β} {Q : List RunMoment → Option (Except FlowError β) → Course → Prop} {a : α}
    {store : Store} (hrun : e.run c.world.store = (.ok a, store))
    (hf : E.wp (f a) (fun tr => Q (⟨.edit e, some (.ok a), c⟩ :: tr)) (c.withStore store)) :
    E.wp (Run.ofEdit e >>= f) Q c := by
  rw [wp_bind, wp_ofEdit, hrun]
  exact hf

theorem mergeUpdate_advances (hschema : E.rules.schema = none) (hreliable : c.world.store.Reliable)
    (hs : c.world.store.snapshots.get? thread = some s) (update : Fields) :
    E.wp (E.mergeUpdate thread s update) (fun _ r c' => r = some (.ok (s.merge update)) ∧ c'.world.desk = c.world.desk ∧
      c.world.store.Advances c'.world.store thread (s.merge update) (s.changesTo update)) c := by
  unfold mergeUpdate
  split
  · rename_i hempty
    have hmerge : s.merge update = s := congrArg State.mk (Record.merge_of_isEmpty hempty)
    rw [hmerge, s.changesTo_of_isEmpty hempty]
    exact ⟨rfl, rfl, .refl hreliable hs⟩
  · rw [hschema, ← bind_pure (Run.ofEdit _)]
    obtain ⟨store, hrun, hadvances⟩ := Edit.advances_modify hreliable hs update
    exact wp_edit_run hrun ⟨rfl, rfl, hadvances⟩

/-- What carrying out a node comes to: the thread advances by the node's update, and the choice of the next nodes is made
on the merged state. -/
theorem perform_advances (hschema : E.rules.schema = none) (hreliable : c.world.store.Reliable)
    (hs : c.world.store.snapshots.get? thread = some s) :
    E.wp (E.perform thread node s) (fun _ r c' => c'.world.desk.policy = c.world.desk.policy ∧
      match E.graph.execute node s with
      | .error e => r = some (.error e) ∧ c.world.store.Advances c'.world.store thread s []
      | .ok update => r = some (E.graph.next node (s.merge update)) ∧
        c.world.store.Advances c'.world.store thread (s.merge update) (s.changesTo update)) c := by
  unfold perform
  rw [wp_bind, wp_tell]
  dsimp only
  rw [wp_bind, wp_execute]
  cases E.graph.execute node s with
  | error e => exact ⟨Desk.tellAll_policy .., rfl, .refl hreliable hs⟩
  | ok update =>
    dsimp only
    rw [wp_bind]
    -- only the registries have seen anything so far; the store is still that of `c`
    let told := c.withDesk (c.world.desk.tellAll E.registry [.nodeEntered thread node])
    have hreliable : told.world.store.Reliable := hreliable
    have hs : told.world.store.snapshots.get? thread = some s := hs
    refine wp_mono (mergeUpdate_advances hschema hreliable hs update) fun tr r c₁ h => ?_
    obtain ⟨rfl, hdesk, hadvances⟩ := h
    dsimp only
    rw [wp_bind, wp_tell]
    dsimp only
    rw [wp_bind, wp_next]
    have hpolicy : ∀ events, (c₁.world.desk.tellAll E.registry events).policy = c.world.desk.policy := by
      intro events
      rw [Desk.tellAll_policy, hdesk]
      exact Desk.tellAll_policy ..
    cases E.graph.next node (s.merge update) with
    | error e => exact ⟨hpolicy _, rfl, hadvances⟩
    | ok targets =>
      dsimp only
      rw [wp_bind, wp_tell]
      exact ⟨(Desk.tellAll_policy ..).trans (hpolicy _), rfl, hadvances⟩

/-- A run off a frontier has done this work. -/
def Does (E : Engine) (thread : String) (visited : List String) (s : State) (w : Work) (c : Course)
    (r : Option (Except FlowError Outcome)) (c' : Course) : Prop :=
  r = some (w.result thread E.config.maxSteps s visited) ∧
    c.world.store.Advances c'.world.store thread (s.mergeAll w.updates) (s.changesToAll w.updates)

theorem drive_nil_does {left : Nat} {visited : List String} (hreliable : c.world.store.Reliable)
    (hs : c.world.store.snapshots.get? thread = some s) :
    E.wp (E.drive thread left [] none visited) (fun _ => E.Does thread visited s ⟨[], .completed⟩ c) c := by
  rw [drive_nil]
  obtain ⟨store, hrun, hadvances⟩ := Edit.advances_loadState hreliable hs
  refine wp_edit_run hrun ⟨?_, hadvances⟩
  show _ = some (Except.ok (Outcome.completed s (visited ++ [])))
  rw [List.append_nil]
  rfl

/-- Where no node needs approval and no call to the store fails, a run off a frontier does the work that is off it. -/
theorem drive_does (hschema : E.rules.schema = none) {left : Nat} {frontier visited : List String}
    (hpolicy : ∀ s node, c.world.desk.policy.reason? s node = none) (hreliable : c.world.store.Reliable)
    (hs : c.world.store.snapshots.get? thread = some s) :
    E.wp (E.drive thread left frontier none visited)
      (fun _ => E.Does thread visited s (E.graph.work left frontier s) c) c := by
  induction left generalizing frontier visited s c with
  | zero =>
    cases frontier with
    | nil => exact drive_nil_does hreliable hs
    | cons node rest =>
      rw [drive_cons]
      obtain ⟨store, hrun, hadvances⟩ := Edit.advances_loadState hreliable hs
      exact wp_edit_run hrun (wp_gate_bind_of_none (hpolicy s node) ⟨rfl, hadvances⟩)
  | succ left ih =>
    cases frontier with
    | nil => exact drive_nil_does hreliable hs
    | cons node rest =>
      rw [drive_cons]
      obtain ⟨store, hrun, hloaded⟩ := Edit.advances_loadState hreliable hs
      -- the state that the last node has left is loaded again, and the gate lets the next one pass
      refine wp_edit_run hrun (wp_gate_bind_of_none (hpolicy s node) ?_)
      dsimp only [goOn]
      rw [wp_bind]
      refine wp_mono (perform_advances hschema hloaded.reliable hloaded.stored) fun tr r c₁ h => ?_
      obtain ⟨hpolicy₁, hperformed⟩ := h
      have hpolicy₁ : ∀ s node, c₁.world.desk.policy.reason? s node = none := by
        rw [hpolicy₁, Course.withDesk_desk, Desk.askReason, Desk.tellAll_policy]
        exact hpolicy
      cases hexecute : E.graph.execute node s with
      | error e =>
        rw [hexecute] at hperformed
        obtain ⟨rfl, hadvances⟩ := hperformed
        rw [Graph.work_of_failed hexecute]
        exact ⟨rfl, hloaded.trans hadvances⟩
      | ok update =>
        rw [hexecute] at hperformed
        obtain ⟨rfl, hadvances⟩ := hperformed
        have hmerged : c.world.store.Advances c₁.world.store thread (s.merge update) (s.changesTo update) :=
          hloaded.trans hadvances
        cases hnext : E.graph.next node (s.merge update) with
        | error e =>
          -- the update is stored although the run fails
          rw [Graph.work_of_lost hexecute hnext]
          exact ⟨rfl, hmerged.trans (.refl hmerged.reliable hmerged.stored)⟩
        | ok targets =>
          rw [Graph.work_of_goes hexecute hnext]
          have hrest : E.wp (E.drive thread left (joinFrontier rest targets) none (visited ++ [node])) _ c₁ :=
            ih hpolicy₁ hmerged.reliable hmerged.stored
          refine wp_mono hrest fun tr' r c' h => ?_
          obtain ⟨rfl, hadvances⟩ := h
          exact ⟨by rw [Work.result_after], hmerged.trans hadvances⟩

theorem invoke_does (hvalid : E.config.validate = .ok ()) (hschema : E.rules.schema = none)
    (hpolicy : ∀ s node, c.world.desk.policy.reason? s node = none) (hreliable : c.world.store.Reliable) (initial : State) :
    E.wp (E.invoke thread initial) (fun _ => E.Does thread [] (initial.remove pendingField)
      (E.graph.work E.config.maxSteps [E.graph.entry] (initial.remove pendingField)) c) c := by
  unfold invoke
  rw [wp_bind, checkConfig, wp_ofExcept, hvalid]
  obtain ⟨store, hrun, hseeded⟩ := Edit.advances_saveState hreliable (initial.remove pendingField)
  rw [hschema]
  refine wp_edit_run hrun ?_
  have hdrive : E.wp (E.drive thread E.config.maxSteps [E.graph.entry] none []) _ (c.withStore store) :=
    drive_does hschema hpolicy hseeded.reliable hseeded.stored
  exact ⟨hdrive.1, hseeded.trans hdrive.2⟩

end Engine

/-- On a graph that was built, without a schema, where the policy never asks for approval and no call to the store fails,
let a new run be started for any thread. With a valid configuration it ends as the work off the entry point does, which
begins on the given state without a kept frontier: completed, with the failure of a node, or with no execution left. The
thread is left with the fold of the updates, each of which its node has made of the fold so far; its ledger grows by one
update for each field that they set, with the value just before; nothing else is stored. -/
theorem invoke_folds {d : Draft} {E : Engine} {c : Course} (hbuild : d.build = .ok E.graph) (hschema : E.rules.schema = none)
    (hpolicy : ∀ s node, c.world.desk.policy.reason? s node = none) (hreliable : c.world.store.Reliable) (thread : String)
    (initial : State) :
    let s := initial.remove pendingField
    let work := E.graph.work E.config.maxSteps [E.graph.entry] s
    (∀ p, E.config.validate = .error p → E.outcome (E.invoke thread initial) c = (some (.error (.config (.invalid p))), c)) ∧
    (E.config.validate = .ok () → ∃ c', E.outcome (E.invoke thread initial) c =
        (some (work.result thread E.config.maxSteps s []), c') ∧
      c.world.store.Advances c'.world.store thread (s.mergeAll work.updates) (s.changesToAll work.updates)) ∧
    (∀ before node update after, work.done = before ++ (node, update) :: after →
      E.graph.execute node (s.mergeAll (before.map Prod.snd)) = .ok update) ∧
    ∀ e, work.ending = .failed e → ∃ node text, e = .nodeFailed node text ∧
      E.graph.execute node (s.mergeAll work.updates) = .error e := by
  have hclosed := Draft.closed_of_build hbuild
  refine ⟨fun p hp => ?_, fun hvalid => ?_, fun before node update after => Graph.work_executes, fun e => ?_⟩
  · unfold Engine.invoke Engine.checkConfig
    rw [hp]
    rfl
  · have hinvoke : E.wp (E.invoke thread initial) _ c := Engine.invoke_does hvalid hschema hpolicy hreliable initial
    exact ⟨_, Prod.ext hinvoke.1 rfl, hinvoke.2⟩
  · refine Graph.work_failed hclosed (Graph.finds_of_build hbuild) fun node hnode => ?_
    rw [List.mem_singleton.1 hnode]
    exact hclosed.entry

/-- Two nodes that lead to each other: one counts, one copies the count. -/
def countingDraft : Draft where
  nodes := [⟨"count", .increment "n" 1, .empty⟩, ⟨"copy", .copy "n" "m", .empty⟩]
  edges := [⟨"count", "copy", none, .empty⟩, ⟨"copy", "count", none, .empty⟩]
  routers := .empty
  entry := some "count"
  metadata := .empty

def counting : Engine where
  graph := .ofParts countingDraft.nodes countingDraft.edges "count" .empty .empty
  config := { Config.standard with maxSteps := 3 }
  rules := ⟨none, .lenient⟩
  registry := 0

def countingStart : State := State.empty.set "n" (.int 5) |>.set pendingField (frontierValue ["copy"])

/-- The thread has a state and a ledger already. -/
def countingCourse : Course :=
  .start patience { World.fresh [] [] none with
    store := ⟨Record.empty.insert "t" (State.empty.set "m" .null), Record.empty.insert "t" [⟨.update, "m", .null, none⟩], .none⟩ } []

/-- A run that reaches its step limit leaves what the nodes have made of the state until then. -/
theorem invoke_folds_counting : countingDraft.build = .ok counting.graph ∧
    ∃ c', counting.outcome (counting.invoke "t" countingStart) countingCourse = (some (.error (.stepLimit "t" 3)), c') ∧
      c'.world.store.snapshots.get? "t" = some (State.empty.set "n" (.int 7) |>.set "m" (.int 6)) ∧
      c'.world.store.ledger "t" = [⟨.update, "m", .null, none⟩, ⟨.update, "n", .int 6, some (.int 5)⟩,
        ⟨.update, "m", .int 6, none⟩, ⟨.update, "n", .int 7, some (.int 6)⟩] := by
  have hbuild : countingDraft.build = .ok counting.graph := by cbv
  have hpolicy : ∀ s node, countingCourse.world.desk.policy.reason? s node = none :=
    Policy.Lenient.reason? ⟨rfl, rfl⟩
  have hreliable : countingCourse.world.store.Reliable := by
    intro kind n
    cases kind <;> rfl
  have hwork : counting.graph.work 3 ["count"] (countingStart.remove pendingField) =
      ⟨[("count", Record.empty.insert "n" (.int 6)), ("copy", Record.empty.insert "m" (.int 6)),
        ("count", Record.empty.insert "n" (.int 7))], .exhausted⟩ := by cbv
  obtain ⟨-, hruns, -, -⟩ := invoke_folds hbuild rfl hpolicy hreliable "t" countingStart
  obtain ⟨c', hrun, hadvances⟩ := hruns (by cbv)
  have hentry : counting.graph.work counting.config.maxSteps [counting.graph.entry] (countingStart.remove pendingField) = _ :=
    hwork
  rw [hentry] at hrun hadvances
  refine ⟨hbuild, c', hrun, ?_, ?_⟩
  · rw [hadvances.stored]
    cbv
  · rw [hadvances.logged.self]
    cbv

end GatedFlow
