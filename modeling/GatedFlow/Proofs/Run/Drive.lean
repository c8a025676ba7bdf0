import GatedFlow.Proofs.Run.Edits
import GatedFlow.Proofs.Run.Parts

/-! # The loop of a run, one node at a time

`drive_cons` says what a run does with the first node of its frontier: it loads the thread's state, lets the node pass
its gate, carries it out and goes on. Before the loop, a new run gives its thread a state (`invoke_eq`, `seed_spec`), and resuming a
thread claims what its current request stands for and settles it (`wp_prepare`). A property of runs that goes from the parts
to a sequence goes from gates and nodes to the loop (`Composes.drive`) and from the loop to new and resumed runs
(`Composes.invoke`, `Composes.resume`). -/

namespace GatedFlow.Engine

variable {E : Engine}

/-- What a run does after a node has passed its gate: it carries the node out, if an execution is left, and goes on
with the frontier that comes of it. -/
def goOn (E : Engine) (thread node : String) (rest : List String) (approved : Option String) (visited : List String)
    (s : State) : Nat → Run Outcome
  | 0 => throw (.stepLimit thread E.config.maxSteps)
  | left + 1 => E.perform thread node s >>= fun targets =>
    E.drive thread left (joinFrontier rest targets) approved (visited ++ [node])

theorem drive_nil (thread : String) (left : Nat) (approved : Option String) (visited : List String) :
    E.drive thread left [] approved visited =
      Run.ofEdit (Edit.loadState thread) >>= fun s => pure (.completed s visited) := by
  rw [drive.eq_def]

theorem drive_cons (thread node : String) (rest : List String) (left : Nat) (approved : Option String)
    (visited : List String) :
    E.drive thread left (node :: rest) approved visited =
      Run.ofEdit (Edit.loadState thread) >>= fun s => E.passGate thread node s rest (approved == some node) >>= fun
        | some outcome => pure outcome
        | none => E.goOn thread node rest (if approved == some node then none else approved) visited s left := by
  rw [drive.eq_def]
  cases left <;> rfl

section Composes

variable {P : {α : Type} → Run α → Prop} {thread : String} (hP : Composes P)
  (hload : P (Run.ofEdit (Edit.loadState thread))) (hgate : ∀ node s rest, P (E.gate thread node s rest))

include hP hload

theorem Composes.drive_nil (left : Nat) (approved : Option String) (visited : List String) :
    P (E.drive thread left [] approved visited) := by
  rw [Engine.drive_nil]
  exact hP.bind hload fun s => hP.done _

include hgate

theorem Composes.drive_cons {node : String} {rest visited : List String} {left : Nat} (approved : Option String)
    (hgo : ∀ approved s, P (E.goOn thread node rest approved visited s left)) :
    P (E.drive thread left (node :: rest) approved visited) := by
  rw [Engine.drive_cons]
  refine hP.bind hload fun s => hP.bind ?_ fun outcome? => ?_
  · cases approved == some node with
    | true => exact hP.done none
    | false => exact hgate node s rest
  · cases outcome? with
    | some outcome => exact hP.done outcome
    | none => exact hgo _ s

theorem Composes.drive (hperform : ∀ node s, P (E.perform thread node s)) (left : Nat) (frontier : List String)
    (approved : Option String) (visited : List String) : P (E.drive thread left frontier approved visited) := by
  induction left generalizing frontier approved visited with
  | zero =>
    cases frontier with
    | nil => exact hP.drive_nil hload 0 approved visited
    | cons node rest => exact hP.drive_cons hload hgate approved fun _ _ => hP.ofExcept (.error _)
  | succ left ih =>
    cases frontier with
    | nil => exact hP.drive_nil hload (left + 1) approved visited
    | cons node rest => exact hP.drive_cons hload hgate approved fun _ s => hP.bind (hperform node s) fun targets => ih _ _ _

end Composes

section Composes

variable {P : {α : Type} → Run α → Prop} {thread : String} (hP : Composes P)
  (hdrive : ∀ left frontier approved visited, P (E.drive thread left frontier approved visited))

include hP hdrive

theorem Composes.invoke (hsave : ∀ s, P (Run.ofEdit (Edit.saveState E.rules.schema thread s))) (initial : State) :
    P (E.invoke thread initial) :=
  hP.bind (hP.ofExcept _) fun _ => hP.bind (hsave _) fun _ => hdrive _ _ _ _

theorem Composes.resume (hprepare : P (E.prepare thread)) : P (E.resume thread) := by
  refine hP.bind hprepare fun resumption => ?_
  cases resumption with
  | ended outcome => exact hP.done outcome
  | ready node frontier => exact hdrive _ _ _ _

end Composes

/-- What a new run does before any node: it gives its thread the first state. -/
def seed (E : Engine) (thread : String) (initial : State) : Run Unit := do
  E.checkConfig
  Run.ofEdit (Edit.saveState E.rules.schema thread (initial.remove pendingField))

theorem invoke_eq (thread : String) (initial : State) : E.invoke thread initial =
    E.seed thread initial >>= fun _ => E.drive thread E.config.maxSteps [E.graph.entry] none [] := by
  rw [seed, bind_assoc]
  rfl

/-- A new run gives its thread the first state or fails and writes nothing. -/
theorem seed_spec {thread : String} {initial : State} {c : Course} : E.wp (E.seed thread initial) (fun _ r c' =>
    ∃ store, c' = c.withStore store ∧ match r with
      | some (.ok _) => store.snapshots = c.world.store.snapshots.insert thread (initial.remove pendingField)
      | _ => store.snapshots = c.world.store.snapshots) c := by
  unfold seed
  rw [wp_bind, checkConfig, wp_ofExcept]
  rcases E.config.validate with p | u
  · exact ⟨c.world.store, rfl, rfl⟩
  show E.wp _ _ c
  rw [← bind_pure (Run.ofEdit _)]
  exact wp_edit_cases (Edit.does_saveState False.elim) (fun _ store _ h => ⟨store, rfl, h⟩) fun _ store _ h _ =>
    ⟨store, rfl, h⟩

/-- Where the configuration is valid and the thread has a request, resuming claims and settles; else it fails. -/
theorem wp_prepare {thread : String} {c : Course} {Q : List RunMoment → Option (Except FlowError Resumption) → Course → Prop}
    (hfails : ∀ tr e, (∀ request, E.config.validate = .ok () → c.world.desk.current? thread ≠ some request) →
      Q tr (some (.error e)) c)
    (hclaim : ∀ tr request, E.config.validate = .ok () → c.world.desk.current? thread = some request →
      E.wp (E.claim thread request >>= E.settle thread request) (fun tr' => Q (tr ++ tr')) c) :
    E.wp (E.prepare thread) Q c := by
  unfold prepare
  rw [wp_bind, checkConfig, wp_ofExcept]
  rcases hvalid : E.config.validate with p | u
  · exact hfails [] _ fun request h => by rw [hvalid] at h; cases h
  show E.wp _ _ c
  rw [wp_bind, wp_currentRequest]
  rcases hcurrent : c.world.desk.current? thread with _ | request
  · exact hfails _ _ fun request _ h => by rw [hcurrent] at h; cases h
  · exact hclaim [⟨.currentRequest thread, some (some request), c⟩] request hvalid hcurrent

end GatedFlow.Engine
