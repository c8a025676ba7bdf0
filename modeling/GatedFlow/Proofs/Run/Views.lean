import GatedFlow.Proofs.Run.Drive
import GatedFlow.Proofs.Run.Notices

/-! # Runs in views

A run in a view makes the calls of the view. For starting and resuming a thread this is what the engine does that has
the predicates of the view (`View.program_invoke`, `View.program_resume`). -/

namespace GatedFlow

namespace View

universe u

variable {α β : Type} (v : View) (E : Engine)

/-- The run that makes the calls of the view. -/
def program (p : Run α) : Run α := ExceptT.mk ((ExceptT.run p).mapCalls v.call)

theorem told_flatMap {μ : Type u} (f : μ → List Notice) (l : List μ) : (l.flatMap fun m => v.told (f m)) = v.told (l.flatMap f) := by
  induction l with
  | nil => rfl
  | cons m l ih => simp only [List.flatMap_cons, told_append, ih]

/-- A run in a view ends as it does otherwise, and what is heard of its notices is recorded. -/
theorem outcome_course (p : Run α) (c : Course) (log : List Delivery) :
    (E.replace v.predicate).outcome (v.program p) (v.course c log) =
      ((E.outcome p c).1, v.course (E.outcome p c).2 (log ++ v.told (E.notices p c))) := by
  have hmapped := Program.runWhile_mapCalls v.course (fun m => v.told (E.momentNotices m))
    (fun call c log => v.answer_course c log E.rules E.registry call) (ExceptT.run p) c log
  rw [told_flatMap] at hmapped
  exact hmapped

@[simp] theorem program_pure (a : α) : v.program (pure a) = pure a := rfl

@[simp] theorem program_throw (e : FlowError) : v.program (throw e : Run α) = throw e := rfl

@[simp] theorem program_ofExcept (r : Except FlowError α) : v.program (Run.ofExcept r) = Run.ofExcept r := rfl

@[simp] theorem program_ofEdit (e : Edit α) : v.program (Run.ofEdit e) = Run.ofEdit e := rfl

@[simp] theorem program_ofCall (call : RunCall α) : v.program (Run.ofCall call) = Run.ofCall (v.call call) := rfl

@[simp] theorem program_ofTry (call : RunCall (Except FlowError α)) : v.program (Run.ofTry call) = Run.ofTry (v.call call) := rfl

@[simp] theorem program_bind (p : Run α) (f : α → Run β) : v.program (p >>= f) = v.program p >>= fun a => v.program (f a) := by
  refine (Program.mapCalls_bind v.call (ExceptT.run p) (ExceptT.bindCont f)).trans ?_
  refine congrArg (Program.andThen (ExceptT.run (v.program p))) (funext fun r => ?_)
  cases r <;> rfl

theorem program_pause (thread node : String) (rest : List String) (request : Request) :
    v.program (E.pause thread node rest request) = (E.replace v.predicate).pause thread node rest request := by
  simp only [Engine.pause, program_bind, program_ofEdit, program_ofCall, program_pure]
  rfl

theorem program_awaitDecision (thread node : String) (request : Request) :
    v.program (Engine.awaitDecision thread node request) = Engine.awaitDecision thread node request := by
  unfold Engine.awaitDecision
  rw [program_bind]
  refine congrArg (bind _) (funext fun status => ?_)
  cases status <;> simp only [program_bind, program_ofCall, program_pure] <;> rfl

theorem program_gate (thread node : String) (s : State) (rest : List String) :
    v.program (E.gate thread node s rest) = (E.replace v.predicate).gate thread node s rest := by
  unfold Engine.gate
  rw [program_bind]
  refine congrArg (bind _) (funext fun reason? => ?_)
  cases reason? with
  | none => rfl
  | some reason =>
    dsimp only
    rw [program_bind]
    refine congrArg (bind _) (funext fun request => ?_)
    rw [show (E.replace v.predicate).config = E.config from rfl]
    cases E.config.mode with
    | pause => simp only [program_bind, program_pure, program_pause]
    | wait => exact v.program_awaitDecision thread node request

theorem program_passGate (thread node : String) (s : State) (rest : List String) (free : Bool) :
    v.program (E.passGate thread node s rest free) = (E.replace v.predicate).passGate thread node s rest free := by
  cases free with
  | true => rfl
  | false => exact v.program_gate E thread node s rest

theorem program_mergeUpdate (thread : String) (s : State) (update : Fields) :
    v.program (E.mergeUpdate thread s update) = (E.replace v.predicate).mergeUpdate thread s update := by
  unfold Engine.mergeUpdate
  split <;> rfl

theorem program_perform (thread node : String) (s : State) :
    v.program (E.perform thread node s) = (E.replace v.predicate).perform thread node s := by
  -- of all that a node tells, only the failures of predicates depend on the view
  have htell : ∀ events, v.program (Engine.tell events) = Engine.tell (events.filter v.hears) := fun _ => rfl
  have hheard : ∀ events : List Event, (∀ e ∈ events, e.isFailure = false) → events.filter v.hears = events :=
    fun events h => List.filter_eq_self.2 fun e he => v.hears_of_not_isFailure e (h e he)
  have hfailures : ∀ s, (E.graph.nextFailures node s).filter v.hears = (E.replace v.predicate).graph.nextFailures node s :=
    fun s => (v.failures_next E.graph node s).symm
  have htargets : ∀ targets : List String, (targets.map (Event.edgeTraversed thread node)).filter v.hears = targets.map _ :=
    fun targets => hheard _ fun e he => by
      obtain ⟨target, -, rfl⟩ := List.mem_map.1 he
      rfl
  simp only [Engine.perform, program_bind, htell, program_ofTry, program_mergeUpdate, hfailures, htargets, program_pure,
    hheard [.nodeEntered thread node] (by simp [Event.isFailure])]
  rfl

theorem program_drive_nil (thread : String) (left : Nat) (approved : Option String) (visited : List String) :
    v.program (E.drive thread left [] approved visited) =
      (E.replace v.predicate).drive thread left [] approved visited := by
  rw [Engine.drive_nil, Engine.drive_nil, program_bind]
  rfl

theorem program_drive_cons {thread node : String} {rest visited : List String} {left : Nat} (approved : Option String)
    (hgo : ∀ approved s, v.program (E.goOn thread node rest approved visited s left) =
      (E.replace v.predicate).goOn thread node rest approved visited s left) :
    v.program (E.drive thread left (node :: rest) approved visited) =
      (E.replace v.predicate).drive thread left (node :: rest) approved visited := by
  rw [Engine.drive_cons, Engine.drive_cons, program_bind]
  refine congrArg (bind _) (funext fun s => ?_)
  rw [program_bind, program_passGate]
  refine congrArg (bind _) (funext fun outcome? => ?_)
  cases outcome? with
  | some outcome => rfl
  | none => exact hgo _ s

theorem program_drive (thread : String) (left : Nat) (frontier : List String) (approved : Option String)
    (visited : List String) : v.program (E.drive thread left frontier approved visited) =
      (E.replace v.predicate).drive thread left frontier approved visited := by
  induction left generalizing frontier approved visited with
  | zero =>
    cases frontier with
    | nil => exact v.program_drive_nil E thread 0 approved visited
    | cons node rest => exact v.program_drive_cons E approved fun _ _ => rfl
  | succ left ih =>
    cases frontier with
    | nil => exact v.program_drive_nil E thread (left + 1) approved visited
    | cons node rest =>
      refine v.program_drive_cons E approved fun approved s => ?_
      rw [Engine.goOn, program_bind, program_perform]
      exact congrArg (bind _) (funext fun targets => ih _ _ _)

theorem program_invoke (thread : String) (initial : State) :
    v.program (E.invoke thread initial) = (E.replace v.predicate).invoke thread initial := by
  simp only [Engine.invoke, Engine.checkConfig, program_bind, program_ofExcept, program_ofEdit, program_drive]
  rfl

theorem program_clearPending (thread : String) :
    v.program (E.clearPending thread) = (E.replace v.predicate).clearPending thread := by
  unfold Engine.clearPending
  rw [program_bind]
  refine congrArg (bind _) (funext fun s => ?_)
  split
  · rw [program_bind]
    rfl
  · rfl

theorem program_claim (thread : String) (request : Request) :
    v.program (E.claim thread request) = (E.replace v.predicate).claim thread request := by
  unfold Engine.claim
  split
  · simp only [program_bind, program_ofEdit, program_clearPending, program_pure]
    rfl
  · simp only [program_bind, program_clearPending, program_pure]
  · exact v.program_throw _

theorem program_settle (thread : String) (request : Request) (kept? : Option (List String)) :
    v.program (E.settle thread request kept?) = (E.replace v.predicate).settle thread request kept? := by
  cases kept? <;> simp only [Engine.settle, program_bind, program_ofEdit, program_ofCall, program_pure] <;> rfl

theorem program_prepare (thread : String) : v.program (E.prepare thread) = (E.replace v.predicate).prepare thread := by
  unfold Engine.prepare
  rw [program_bind]
  refine congrArg (bind _) (funext fun _ => ?_)
  rw [program_bind]
  refine congrArg (bind _) (funext fun request? => ?_)
  cases request? with
  | none => rfl
  | some request => simp only [program_bind, program_claim, program_settle]

theorem program_resume (thread : String) : v.program (E.resume thread) = (E.replace v.predicate).resume thread := by
  unfold Engine.resume
  rw [program_bind, program_prepare]
  refine congrArg (bind _) (funext fun resumption => ?_)
  cases resumption with
  | ended outcome => rfl
  | ready node frontier => exact v.program_drive E thread _ frontier (some node) []

theorem program_wait (thread : String) (limit : Option Nat) :
    v.program (Run.wait thread limit) = Run.wait thread limit := by
  unfold Run.wait
  rw [program_bind]
  refine congrArg (bind _) (funext fun request? => ?_)
  cases request? <;> rfl

end View
end GatedFlow
