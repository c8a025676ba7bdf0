import GatedFlow.Proofs.Run.Pause
import GatedFlow.Proofs.Run.Rounds
import GatedFlow.Proofs.Session.Growth

/-! # Where runs end

A run ends between two gates, because it is complete or something fails, or at a gate: it pauses there, is refused, is
given up, or fails on the way. What holds at the start and is kept by loading the state, passing a gate and carrying
out a node holds when the run comes to the gate that ends it (`drive_ends`). What happens at a gate is either nothing, or
it begins with a new request (`wp_gate`). -/

namespace GatedFlow

/-- A desk at which a run has just asked for the approval of a node. -/
structure Desk.Asked (d d' : Desk) (thread node : String) (request : Request) : Prop extends d'.Awaits thread node request where
  id_eq : request.record.id = d.requests.length
  thread_eq : request.record.thread = thread
  requests : d'.requests = d.requests ++ [request]
  others : d'.policy.current = d.policy.current.insert thread request.record.id

namespace Engine

variable {E : Engine} {I : Course → Prop} {thread node : String} {c : Course}

/-- What holds after a gate holds if it is free, and after a new request if the run pauses or waits then. -/
theorem wp_gate {s : State} {rest : List String}
    {Q : List RunMoment → Option (Except FlowError (Option Outcome)) → Course → Prop}
    (hfree : c.world.desk.policy.reason? s node = none → ∀ tr d, d.policy = c.world.desk.policy →
      d.requests = c.world.desk.requests → Q tr (some (.ok none)) (c.withDesk d))
    (hpause : E.config.mode = .pause → ∀ tr d request, c.world.desk.Asked d thread node request →
      E.wp (E.pause thread node rest request) (fun tr' r c' => Q (tr ++ tr') (r.map (·.map some)) c') (c.withDesk d))
    (hwait : E.config.mode = .wait → ∀ tr d request, c.world.desk.Asked d thread node request →
      E.wp (awaitDecision thread node request) (fun tr' => Q (tr ++ tr')) (c.withDesk d)) :
    E.wp (E.gate thread node s rest) Q c := by
  unfold gate
  rw [wp_bind, wp_askReason]
  let d := (c.world.desk.askReason s node).2
  have hrequests : d.requests = c.world.desk.requests := Desk.tellAll_requests ..
  have hpolicy : d.policy = c.world.desk.policy := Desk.tellAll_policy ..
  rcases hreason : c.world.desk.policy.reason? s node with _ | reason
  · exact hfree hreason _ d hpolicy hrequests
  dsimp only
  rw [wp_bind, wp_createRequest]
  have hasked : c.world.desk.Asked (d.createRequest thread node reason.message E.config.timeout?).2 thread node
      (d.createRequest thread node reason.message E.config.timeout?).1 :=
    { d.createRequest_awaits thread node reason.message E.config.timeout? with
      id_eq := congrArg List.length hrequests
      thread_eq := rfl
      requests := congrArg (· ++ [_]) hrequests
      others := congrArg (fun p : Policy => p.current.insert thread d.requests.length) hpolicy }
  let asked : List RunMoment := [⟨.askReason s node, some (some reason), c⟩,
    ⟨.createRequest thread node reason.message E.config.timeout?,
      some (d.createRequest thread node reason.message E.config.timeout?).1, c.withDesk d⟩]
  dsimp only
  cases hmode : E.config.mode with
  | pause =>
    dsimp only
    rw [wp_bind]
    refine wp_mono (hpause hmode asked _ _ hasked) fun tr r c' h => ?_
    rcases r with _ | (e | outcome)
    · exact h
    · exact h
    · dsimp only
      rw [wp_pure, List.append_nil]
      exact h
  | wait => exact hwait hmode asked _ _ hasked

/-- How the loop of a run ends, where `I` holds between gates: between gates, if it is not stopped, or at a gate that it
does not pass. -/
inductive Ends (E : Engine) (thread : String) (I : Course → Prop) :
    List RunMoment → Option (Except FlowError Outcome) → Course → Prop
  | between {tr : List RunMoment} {r : Option (Except FlowError Outcome)} {c' : Course} (h : I c')
      (hr : ∀ outcome, r = some (.ok outcome) → ∃ s visited, outcome = .completed s visited) : Ends E thread I tr r c'
  | atGate {tr : List RunMoment} {r : Option (Except FlowError Outcome)} {node : String} {s : State} {rest : List String}
      {c₀ c' : Course} (h : I c₀) (hgate : E.outcome (E.gate thread node s rest) c₀ = (r.map (·.map some), c')) :
      Ends E thread I (tr ++ E.trace (E.gate thread node s rest) c₀) r c'

theorem Ends.prepend {tr₁ tr : List RunMoment} {r : Option (Except FlowError Outcome)} {c' : Course}
    (h : E.Ends thread I tr r c') : E.Ends thread I (tr₁ ++ tr) r c' := by
  cases h with
  | between h hr => exact .between h hr
  | atGate h hgate => rw [← List.append_assoc]; exact .atGate h hgate

/-- What the parts of a run that lead from one gate to the next keep. -/
structure Kept (E : Engine) (thread : String) (I : Course → Prop) : Prop where
  load : ∀ c, I c → I (c.withStore ((Edit.loadState thread).run c.world.store).2)
  pass : ∀ node s rest c, I c → E.wp (E.gate thread node s rest) (fun _ r c' => r = some (.ok none) → I c') c
  perform : ∀ node s c, I c → E.wp (E.perform thread node s) (fun _ _ c' => I c') c

theorem Kept.loaded {r : Except StoreError State} {store : Store} (hI : E.Kept thread I)
    (h : (Edit.loadState thread).run c.world.store = (r, store)) (hc : I c) : I (c.withStore store) := by
  have hloaded := hI.load c hc
  rwa [h] at hloaded

theorem Kept.performed {s : State} {r : Option (Except FlowError (List String))} {c' : Course} (hI : E.Kept thread I)
    (h : E.outcome (E.perform thread node s) c = (r, c')) (hc : I c) : I c' :=
  (wp_iff_of_outcome h).1 (hI.perform node s c hc)

theorem Passes.kept {rest : List String} {free : Bool} {s : State} {tr : List RunMoment} {c₁ : Course}
    (hI : E.Kept thread I) (h : E.Passes thread node rest free c s tr c₁) (hc : I c) : I c₁ := by
  obtain ⟨store, hload, hpass, -⟩ := h
  have hc := hI.loaded hload hc
  unfold passGate at hpass
  split at hpass
  · obtain ⟨-, rfl⟩ := Prod.mk.inj hpass
    exact hc
  · exact (wp_iff_of_outcome hpass).1 (hI.pass node s rest _ hc) rfl

/-- The rounds of a run end between gates or at one, after what led to it has kept what it keeps. -/
theorem Rounds.ends (hI : E.Kept thread I) {left : Nat} {frontier visited : List String} {approved : Option String}
    {tr : List RunMoment} {r : Option (Except FlowError Outcome)} {c' : Course}
    (h : E.Rounds thread left frontier approved visited c tr r c') (hc : I c) : E.Ends thread I tr r c' := by
  induction h with
  | unread hload => exact .between (hI.loaded hload hc) fun _ h => (by cases h)
  | @completed left visited approved c s store hload =>
    refine .between (hI.loaded hload hc) ?_
    rintro _ ⟨⟩
    exact ⟨s, visited, rfl⟩
  | @stopped left node rest visited approved c c' s store r _ hload hgate =>
    show E.Ends thread I ([⟨.edit (Edit.loadState thread), some (.ok s), c⟩] ++ _) r c'
    exact .atGate (hI.loaded hload hc) hgate
  | exhausted hpass => exact .between (hpass.kept hI hc) fun _ h => (by cases h)
  | @broken left node rest visited approved c c₁ c' s tr e hpass hperform =>
    exact .between (hI.performed hperform (hpass.kept hI hc)) fun _ h => (by cases e <;> cases h)
  | @round left node rest targets visited approved c c₁ c₂ c' s tr tr' r hpass hperform _ ih =>
    exact (ih (hI.performed hperform (hpass.kept hI hc))).prepend.prepend

/-- The loop of a run ends between gates or at one, after what led to it has kept what it keeps. -/
theorem drive_ends (hI : E.Kept thread I) (left : Nat) (frontier : List String) {approved : Option String}
    {visited : List String} (hc : I c) :
    E.wp (E.drive thread left frontier approved visited) (E.Ends thread I) c :=
  wp_mono (drive_rounds left frontier approved visited c) fun _ _ _ h => h.ends hI hc

/-- What the parts of a run keep, gates at which it ends among them, the loop keeps. -/
theorem drive_keeps (hI : E.Kept thread I)
    (hgate : ∀ node s rest c, I c → E.wp (E.gate thread node s rest) (fun _ _ c' => I c') c) (left : Nat)
    (frontier : List String) {approved : Option String} {visited : List String} (hc : I c) :
    E.wp (E.drive thread left frontier approved visited) (fun _ _ c' => I c') c := by
  refine wp_mono (drive_ends hI left frontier hc) fun tr r c' h => ?_
  cases h with
  | between h hr => exact h
  | @atGate tr r node s rest c₀ c' h hout => exact (wp_iff_of_outcome hout).1 (hgate node s rest c₀ h)

end Engine
end GatedFlow
