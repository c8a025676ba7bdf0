import GatedFlow.Proofs.Run.Drive

/-! # The rounds of a run

`Engine.Rounds` unrolls the loop of a run. In a round a node passes its gate (`Engine.Passes`), is carried out, and the
nodes that it leads to join the frontier; the last round ends the run at a gate, on the way to it or behind it. Every run
off a frontier is made of such rounds (`drive_rounds`), so that what holds of a run is an induction on them. -/

namespace GatedFlow

section Frontier

variable {frontier targets : List String} {node : String}

theorem joinFrontier_cons (frontier : List String) (target : String) (targets : List String) :
    joinFrontier frontier (target :: targets) = joinFrontier (joinFrontier frontier [target]) targets := rfl

theorem joinFrontier_singleton (frontier : List String) (target : String) :
    joinFrontier frontier [target] = if target ∈ frontier then frontier else frontier ++ [target] := rfl

theorem mem_joinFrontier_singleton {target : String} :
    node ∈ joinFrontier frontier [target] ↔ node ∈ frontier ∨ node = target := by
  rw [joinFrontier_singleton]
  split
  · rename_i h
    exact ⟨.inl, fun hnode => hnode.elim id fun heq => heq ▸ h⟩
  · rw [List.mem_append, List.mem_singleton]

theorem mem_joinFrontier : node ∈ joinFrontier frontier targets ↔ node ∈ frontier ∨ node ∈ targets := by
  induction targets generalizing frontier with
  | nil => exact ⟨.inl, fun h => h.elim id fun h => by cases h⟩
  | cons target targets ih => rw [joinFrontier_cons, ih, mem_joinFrontier_singleton, List.mem_cons, or_assoc]

theorem nodup_joinFrontier_singleton {target : String} (h : frontier.Nodup) : (joinFrontier frontier [target]).Nodup := by
  rw [joinFrontier_singleton]
  split
  · exact h
  · rename_i hnot
    refine List.nodup_append.2 ⟨h, by simp, fun a ha b hb heq => hnot ?_⟩
    rwa [← List.mem_singleton.1 hb, ← heq]

theorem nodup_joinFrontier (h : frontier.Nodup) : (joinFrontier frontier targets).Nodup := by
  induction targets generalizing frontier with
  | nil => exact h
  | cons target targets ih => exact ih (nodup_joinFrontier_singleton h)

end Frontier

namespace Engine

variable {E : Engine} {thread node : String} {rest visited : List String} {approved : Option String} {left : Nat}
  {c c₁ c' : Course} {tr : List RunMoment}

/-- A run comes to a node and the node passes its gate: the state that the run has loaded by then, what it has done and
the course it leaves. -/
def Passes (E : Engine) (thread node : String) (rest : List String) (free : Bool) (c : Course) (s : State)
    (tr : List RunMoment) (c₁ : Course) : Prop :=
  ∃ store, (Edit.loadState thread).run c.world.store = (.ok s, store) ∧
    E.outcome (E.passGate thread node s rest free) (c.withStore store) = (some (.ok none), c₁) ∧
    tr = ⟨.edit (Edit.loadState thread), some (.ok s), c⟩ :: E.trace (E.passGate thread node s rest free) (c.withStore store)

/-- What a run does off a frontier with a number of node executions left. -/
inductive Rounds (E : Engine) (thread : String) : Nat → List String → Option String → List String → Course →
    List RunMoment → Option (Except FlowError Outcome) → Course → Prop
  | unread {left : Nat} {frontier visited : List String} {approved : Option String} {c : Course} {p : StoreError}
      {store : Store} (hload : (Edit.loadState thread).run c.world.store = (.error p, store)) :
      Rounds E thread left frontier approved visited c [⟨.edit (Edit.loadState thread), some (.error p), c⟩]
        (some (.error (.store p))) (c.withStore store)
  | completed {left : Nat} {visited : List String} {approved : Option String} {c : Course} {s : State} {store : Store}
      (hload : (Edit.loadState thread).run c.world.store = (.ok s, store)) :
      Rounds E thread left [] approved visited c [⟨.edit (Edit.loadState thread), some (.ok s), c⟩]
        (some (.ok (.completed s visited))) (c.withStore store)
  | stopped {left : Nat} {node : String} {rest visited : List String} {approved : Option String} {c c' : Course}
      {s : State} {store : Store} {r : Option (Except FlowError Outcome)} (hasked : (approved == some node) = false)
      (hload : (Edit.loadState thread).run c.world.store = (.ok s, store))
      (hgate : E.outcome (E.gate thread node s rest) (c.withStore store) = (r.map (·.map some), c')) :
      Rounds E thread left (node :: rest) approved visited c
        (⟨.edit (Edit.loadState thread), some (.ok s), c⟩ :: E.trace (E.gate thread node s rest) (c.withStore store)) r c'
  | exhausted {node : String} {rest visited : List String} {approved : Option String} {c c₁ : Course} {s : State}
      {tr : List RunMoment} (hpass : E.Passes thread node rest (approved == some node) c s tr c₁) :
      Rounds E thread 0 (node :: rest) approved visited c tr (some (.error (.stepLimit thread E.config.maxSteps))) c₁
  | broken {left : Nat} {node : String} {rest visited : List String} {approved : Option String} {c c₁ c' : Course}
      {s : State} {tr : List RunMoment} {e : Option FlowError}
      (hpass : E.Passes thread node rest (approved == some node) c s tr c₁)
      (hperform : E.outcome (E.perform thread node s) c₁ = (e.map .error, c')) :
      Rounds E thread (left + 1) (node :: rest) approved visited c (tr ++ E.trace (E.perform thread node s) c₁)
        (e.map .error) c'
  | round {left : Nat} {node : String} {rest targets visited : List String} {approved : Option String}
      {c c₁ c₂ c' : Course} {s : State} {tr tr' : List RunMoment} {r : Option (Except FlowError Outcome)}
      (hpass : E.Passes thread node rest (approved == some node) c s tr c₁)
      (hperform : E.outcome (E.perform thread node s) c₁ = (some (.ok targets), c₂))
      (h : Rounds E thread left (joinFrontier rest targets) (if approved == some node then none else approved)
        (visited ++ [node]) c₂ tr' r c') :
      Rounds E thread (left + 1) (node :: rest) approved visited c
        (tr ++ (E.trace (E.perform thread node s) c₁ ++ tr')) r c'

theorem rounds_nil : E.wp (E.drive thread left [] approved visited) (E.Rounds thread left [] approved visited c) c := by
  rw [drive_nil, wp_bind, wp_ofEdit]
  rcases hload : (Edit.loadState thread).run c.world.store with ⟨p | s, store⟩
  · exact .unread hload
  · exact .completed hload

/-- A run off a frontier loads the thread's state and asks at the first gate before it goes on. -/
theorem rounds_cons (hgo : ∀ {s : State} {tr : List RunMoment} {c₁ : Course},
      E.Passes thread node rest (approved == some node) c s tr c₁ →
      E.wp (E.goOn thread node rest (if approved == some node then none else approved) visited s left)
        (fun tr' => E.Rounds thread left (node :: rest) approved visited c (tr ++ tr')) c₁) :
    E.wp (E.drive thread left (node :: rest) approved visited)
      (E.Rounds thread left (node :: rest) approved visited c) c := by
  rw [drive_cons, wp_bind, wp_ofEdit]
  rcases hload : (Edit.loadState thread).run c.world.store with ⟨p | s, store⟩
  · exact .unread hload
  show E.wp _ _ (c.withStore store)
  rw [wp_bind]
  unfold wp
  rcases hpass : E.outcome (E.passGate thread node s rest (approved == some node)) (c.withStore store) with ⟨r, c₁⟩
  -- a run that does not go on from here was stopped by a gate that it did not pass unasked
  have hstops : ∀ r' : Option (Except FlowError Outcome), r = r'.map (·.map some) →
      E.Rounds thread left (node :: rest) approved visited c (⟨.edit (Edit.loadState thread), some (.ok s), c⟩ ::
        E.trace (E.passGate thread node s rest (approved == some node)) (c.withStore store)) r' c₁ := by
    rintro r' rfl
    unfold passGate at hpass ⊢
    split at hpass
    · obtain ⟨hr, -⟩ := Prod.mk.inj hpass
      rcases r' with _ | (e | outcome) <;> cases hr
    · rename_i hasked
      rw [if_neg hasked]
      exact .stopped (Bool.eq_false_iff.2 hasked) hload hpass
  rcases r with _ | (e | (_ | outcome))
  · exact hstops none rfl
  · exact hstops (some (.error e)) rfl
  · exact hgo ⟨store, hload, hpass, rfl⟩
  · have hstop := hstops (some (.ok outcome)) rfl
    rw [← List.append_nil (E.trace _ _)] at hstop
    exact hstop

/-- A run off a frontier is made of rounds. -/
theorem drive_rounds (left : Nat) (frontier : List String) (approved : Option String) (visited : List String) (c : Course) :
    E.wp (E.drive thread left frontier approved visited) (E.Rounds thread left frontier approved visited c) c := by
  induction left generalizing frontier approved visited c with
  | zero =>
    cases frontier with
    | nil => exact rounds_nil
    | cons node rest =>
      refine rounds_cons fun {s tr c₁} hpass => ?_
      show E.Rounds thread 0 (node :: rest) approved visited c (tr ++ []) _ c₁
      rw [List.append_nil]
      exact .exhausted hpass
  | succ left ih =>
    cases frontier with
    | nil => exact rounds_nil
    | cons node rest =>
      refine rounds_cons fun {s tr c₁} hpass => ?_
      rw [goOn, wp_bind]
      unfold wp
      rcases hperform : E.outcome (E.perform thread node s) c₁ with ⟨_ | (e | targets), c₂⟩
      · exact .broken (e := none) hpass hperform
      · exact .broken (e := some e) hpass hperform
      · exact .round hpass hperform (ih _ _ _ c₂)

end Engine
end GatedFlow
