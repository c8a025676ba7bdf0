import GatedFlow.Proofs.Approval.Reachable
import GatedFlow.Proofs.Session.Acts
import GatedFlow.Proofs.Session.Continuing
import Mathlib

/-! # Open requests during a session

At each moment of a session the policy knows an open request that it has made exactly if it has made no other one for the
same thread since (`open_reachable_iff`). A request that is replaced stays open, and a run that waits for it goes on
waiting (`not_reached_replaced`). -/

namespace GatedFlow

theorem World.fresh_tracked (graph policy : Registry) (defaultTimeout : Option Nat) :
    (World.fresh graph policy defaultTimeout).desk.Tracked where
  sound := World.fresh_sound graph policy defaultTimeout
  newest h := by cases h
  held r h := by cases h

theorem Turn.after_mem_desks (turns : List Turn) (w : World) : (after turns w).desk ∈ desks turns w := by
  induction turns generalizing w with
  | nil => exact List.mem_singleton_self _
  | cons t rest ih => exact List.mem_cons_of_mem _ (List.mem_append_right _ (ih _))

/-- In a session of any commands and runs, whatever comes while the runs wait, an open request that the policy has made is
the current one of its thread and listed as open exactly if the policy has made no other one for the thread since. -/
theorem open_reachable_iff {graph policy : Registry} {defaultTimeout : Option Nat} {turns : List Turn} {d : Desk}
    (hd : d ∈ Turn.desks turns (.fresh graph policy defaultTimeout)) {r : Request} (hr : r ∈ d.requests)
    (hmade : r.registry.isSome = true) (hopen : r.isPending = true) : d.Reaches r ↔ ¬d.Replaced r :=
  ((World.fresh_tracked graph policy defaultTimeout).acts (Turn.acts_of_mem_desks hd)).reaches_iff hr hmade hopen

/-- A run waits for the approval of its node, and while it does another request is made for its thread. -/
def replacedTurns : List Turn :=
  [⟨waitingNode, patience, .command (.desk (.addAlways "a"))⟩,
    ⟨waitingNode, patience, .invoke "t" .empty [(5, .desk (.createRequest "t" "b" "again" none))]⟩]

def replacedDesk : Desk := (Turn.after replacedTurns (.fresh [] [] none)).desk

/-- The request that the run waits for. -/
def replacedRequest : Request := .ofParts 0 0 "t" "a" "node 'a' always requires approval" none (some 1)

def replacingRequest : Request := .ofParts 1 5 "t" "b" "again" none (some 1)

theorem replacedDesk_requests : replacedDesk.requests = [replacedRequest, replacingRequest] := by cbv

theorem replacedDesk_current : replacedDesk.current? "t" = some replacingRequest := by cbv

theorem open_reachable_iff_replaced :
    (replacedDesk.Reaches replacedRequest ↔ ¬replacedDesk.Replaced replacedRequest) ∧
    (replacedDesk.Reaches replacingRequest ↔ ¬replacedDesk.Replaced replacingRequest) := by
  have hdesk : replacedDesk ∈ Turn.desks replacedTurns (.fresh [] [] none) := Turn.after_mem_desks ..
  have hmem : ∀ r, r = replacedRequest ∨ r = replacingRequest → r ∈ replacedDesk.requests := by
    simp [replacedDesk_requests]
  exact ⟨open_reachable_iff hdesk (hmem _ (.inl rfl)) rfl rfl, open_reachable_iff hdesk (hmem _ (.inr rfl)) rfl rfl⟩

/-- A run can be left waiting for an open request that the policy has lost. -/
theorem not_reached_replaced :
    ((replacedTurns[1]).result? (Turn.after (replacedTurns.take 1) (.fresh [] [] none))).isNone = true ∧
    ¬∀ (graph policy : Registry) (defaultTimeout : Option Nat) (turns : List Turn),
      ∀ d ∈ Turn.desks turns (.fresh graph policy defaultTimeout), ∀ r ∈ d.requests, r.registry.isSome = true →
        r.isPending = true → d.Reaches r := by
  constructor
  · cbv
  intro h
  have hmem : replacedRequest ∈ replacedDesk.requests := by simp [replacedDesk_requests]
  have hreached : replacedDesk.Reaches replacedRequest :=
    h [] [] none replacedTurns _ (Turn.after_mem_desks ..) _ hmem rfl rfl
  have hsame : replacingRequest = replacedRequest := Option.some.inj (replacedDesk_current.symm.trans hreached.1)
  cases hsame

end GatedFlow
