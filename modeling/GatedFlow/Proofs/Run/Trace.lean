import GatedFlow.Proofs.Program.Trace
import GatedFlow.Session.Basic

/-! # Traces of runs

`Engine.trace` lists the calls of a run, and `Engine.wp` states a property of the trace, the result and the course
that a run leaves. The rules for `wp` follow the structure of a run: a property of a sequence is a property of its
first part about the second. -/

namespace GatedFlow

abbrev RunMoment := Moment RunCall Course

namespace Course

def withStore (c : Course) (s : Store) : Course := { c with world := { c.world with store := s } }

def withDesk (c : Course) (d : Desk) : Course := { c with world := { c.world with desk := d } }

variable (c : Course) (s : Store) (d : Desk)

@[simp] theorem withStore_store : (c.withStore s).world.store = s := rfl

@[simp] theorem withStore_desk : (c.withStore s).world.desk = c.world.desk := rfl

@[simp] theorem withDesk_store : (c.withDesk d).world.store = c.world.store := rfl

@[simp] theorem withDesk_desk : (c.withDesk d).world.desk = d := rfl

end Course

namespace Engine

variable {α β : Type} (E : Engine)

/-- The result of a run and the course it leaves. -/
def outcome (p : Run α) (c : Course) : Option (Except FlowError α) × Course := p.run E.rules E.registry c

def trace (p : Run α) (c : Course) : List RunMoment :=
  Program.trace (RunCall.answer E.rules E.registry) (ExceptT.run p) c

def stepTrace (E : Engine) (patience : Nat) (s : Step) (w : World) : List RunMoment :=
  match s with
  | .command _ => []
  | .together _ => []
  | .wait thread limit commands => E.trace (Run.wait thread limit) (.start patience w commands)
  | .invoke thread initial commands => E.trace (E.invoke thread initial) (.start patience w commands)
  | .resume thread commands => E.trace (E.resume thread) (.start patience w commands)

theorem stepWithin_invoke (patience : Nat) (thread : String) (initial : State) (commands : List (Nat × Command)) (w : World) :
    E.stepWithin patience (.invoke thread initial commands) w =
      (.ran (E.outcome (E.invoke thread initial) (.start patience w commands)).1
        ((List.range commands.length).map (E.outcome (E.invoke thread initial) (.start patience w commands)).2.reply?),
        (E.outcome (E.invoke thread initial) (.start patience w commands)).2.world) := rfl

theorem stepWithin_resume (patience : Nat) (thread : String) (commands : List (Nat × Command)) (w : World) :
    E.stepWithin patience (.resume thread commands) w =
      (.ran (E.outcome (E.resume thread) (.start patience w commands)).1
        ((List.range commands.length).map (E.outcome (E.resume thread) (.start patience w commands)).2.reply?),
        (E.outcome (E.resume thread) (.start patience w commands)).2.world) := rfl

/-- What holds of the trace, the result and the course of a run. -/
def wp (p : Run α) (Q : List RunMoment → Option (Except FlowError α) → Course → Prop) (c : Course) : Prop :=
  Q (E.trace p c) (E.outcome p c).1 (E.outcome p c).2

variable {E} {Q Q' : List RunMoment → Option (Except FlowError α) → Course → Prop} {c : Course}

theorem wp_mono {p : Run α} (h : E.wp p Q c) (hQ : ∀ tr r c', Q tr r c' → Q' tr r c') : E.wp p Q' c := hQ _ _ _ h

theorem wp_and {p : Run α} (h : E.wp p Q c) (h' : E.wp p Q' c) :
    E.wp p (fun tr r c' => Q tr r c' ∧ Q' tr r c') c := ⟨h, h'⟩

theorem wp_iff_of_outcome {p : Run α} {r : Option (Except FlowError α)} {c' : Course} (h : E.outcome p c = (r, c')) :
    E.wp p Q c ↔ Q (E.trace p c) r c' := by
  unfold wp
  rw [h]

/-- A property of a sequence is a property of its first part, about what the second part does after it. -/
theorem wp_bind {Q : List RunMoment → Option (Except FlowError β) → Course → Prop} (p : Run α) (f : α → Run β) :
    E.wp (p >>= f) Q c ↔ E.wp p (fun tr r c' => match r with
      | some (.ok a) => E.wp (f a) (fun tr' => Q (tr ++ tr')) c'
      | some (.error e) => Q tr (some (.error e)) c'
      | none => Q tr none c') c := by
  rcases hp : E.outcome p c with ⟨r, c'⟩
  have htrace : E.trace (p >>= f) c = E.trace p c ++ _ := Program.trace_bind (ExceptT.run p) (ExceptT.bindCont f) c
  have hrun : E.outcome (p >>= f) c = _ := Program.runWhile_bind (ExceptT.run p) (ExceptT.bindCont f) c
  change (ExceptT.run p).runWhile (RunCall.answer E.rules E.registry) c = (r, c') at hp
  rw [hp] at htrace hrun
  unfold wp
  rw [htrace, hrun, show E.outcome p c = (r, c') from hp]
  rcases r with _ | (e | a)
  · simp [trace]
  · simp [trace, ExceptT.bindCont, Program.trace, Program.runWhile]
  · rfl

/-- What holds where a sequence ends well may be shown of its second part, where the first has ended well. -/
theorem wp_bind_of_ok {p : Run α} {f : α → Run β} {R : β → Course → Prop} (hp : E.wp p Q c)
    (hf : ∀ tr a c₁, Q tr (some (.ok a)) c₁ → E.wp (f a) (fun _ r c' => ∀ b, r = some (.ok b) → R b c') c₁) :
    E.wp (p >>= f) (fun _ r c' => ∀ b, r = some (.ok b) → R b c') c := by
  rw [wp_bind]
  refine wp_mono hp fun tr r c₁ h => ?_
  rcases r with _ | (e | a)
  · intro b hb
    cases hb
  · intro b hb
    cases hb
  · exact hf tr a c₁ h

@[simp] theorem wp_pure (a : α) : E.wp (pure a : Run α) Q c ↔ Q [] (some (.ok a)) c := Iff.rfl

@[simp] theorem wp_throw (e : FlowError) : E.wp (throw e : Run α) Q c ↔ Q [] (some (.error e)) c := Iff.rfl

@[simp] theorem wp_ofExcept (r : Except FlowError α) : E.wp (Run.ofExcept r) Q c ↔ Q [] (some r) c := Iff.rfl

theorem wp_ofEdit (e : Edit α) : E.wp (Run.ofEdit e) Q c ↔
    Q [⟨.edit e, some (e.run c.world.store).1, c⟩] (some ((e.run c.world.store).1.mapError .store))
      (c.withStore (e.run c.world.store).2) := Iff.rfl

theorem wp_askReason {Q : List RunMoment → Option (Except FlowError (Option GateReason)) → Course → Prop} (s : State)
    (node : String) : E.wp (Run.ofCall (.askReason s node)) Q c ↔
      Q [⟨.askReason s node, some (c.world.desk.policy.reason? s node), c⟩]
        (some (.ok (c.world.desk.policy.reason? s node))) (c.withDesk (c.world.desk.askReason s node).2) := Iff.rfl

theorem wp_createRequest {Q : List RunMoment → Option (Except FlowError Request) → Course → Prop}
    (thread node reason : String) (timeout : Option Nat) :
    E.wp (Run.ofCall (.createRequest thread node reason timeout)) Q c ↔
      Q [⟨.createRequest thread node reason timeout, some (c.world.desk.createRequest thread node reason timeout).1, c⟩]
        (some (.ok (c.world.desk.createRequest thread node reason timeout).1))
        (c.withDesk (c.world.desk.createRequest thread node reason timeout).2) := Iff.rfl

theorem wp_currentRequest {Q : List RunMoment → Option (Except FlowError (Option Request)) → Course → Prop}
    (thread : String) : E.wp (Run.ofCall (.currentRequest thread)) Q c ↔
      Q [⟨.currentRequest thread, some (c.world.desk.current? thread), c⟩]
        (some (.ok (c.world.desk.current? thread))) c := Iff.rfl

theorem wp_latest {Q : List RunMoment → Option (Except FlowError Request) → Course → Prop} (r : Request) :
    E.wp (Run.ofCall (.latest r)) Q c ↔
      Q [⟨.latest r, some (c.world.desk.latest r), c⟩] (some (.ok (c.world.desk.latest r))) c := Iff.rfl

theorem wp_cancelRequest {Q : List RunMoment → Option (Except FlowError Unit) → Course → Prop} (thread : String) :
    E.wp (Run.ofCall (.cancelRequest thread)) Q c ↔
      Q [⟨.cancelRequest thread, some (), c⟩] (some (.ok ()))
        (c.withDesk (c.world.desk.cancelRequest thread).2) := Iff.rfl

theorem wp_tell {Q : List RunMoment → Option (Except FlowError Unit) → Course → Prop} (events : List Event) :
    E.wp (tell events) Q c ↔
      Q [⟨.tell events, some (), c⟩] (some (.ok ())) (c.withDesk (c.world.desk.tellAll E.registry events)) := Iff.rfl

theorem wp_execute {Q : List RunMoment → Option (Except FlowError Fields) → Course → Prop} (g : Graph) (node : String)
    (s : State) : E.wp (Run.ofTry (.execute g node s)) Q c ↔
      Q [⟨.execute g node s, some (g.execute node s), c⟩] (some (g.execute node s)) c := Iff.rfl

theorem wp_next {Q : List RunMoment → Option (Except FlowError (List String)) → Course → Prop} (g : Graph)
    (node : String) (s : State) : E.wp (Run.ofTry (.next g node s)) Q c ↔
      Q [⟨.next g node s, some (g.next node s), c⟩] (some (g.next node s)) c := Iff.rfl

theorem wp_await {Q : List RunMoment → Option (Except FlowError ApprovalStatus) → Course → Prop} (r : Request)
    (limit : Option Nat) : E.wp (Run.ofTry (.await r limit)) Q c ↔
      Q [⟨.await r limit, (c.await E.rules r limit).1, c⟩] (c.await E.rules r limit).1
        (c.await E.rules r limit).2 := by
  show Q (Program.trace _ (.ask _ _) c) (Program.runWhile _ (.ask _ _) c).1 (Program.runWhile _ (.ask _ _) c).2 ↔ _
  simp only [Program.trace, Program.runWhile, RunCall.answer]
  rcases c.await E.rules r limit with ⟨_ | a, c'⟩ <;> rfl

end Engine
end GatedFlow
