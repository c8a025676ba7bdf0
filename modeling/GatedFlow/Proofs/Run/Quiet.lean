import GatedFlow.Proofs.Run.Parts
import GatedFlow.Proofs.Run.Trace

/-! # Runs that enter no node

`RunMoment.news` are the events that observers are told at a moment. The only events that say that a node is entered
are told where a node is carried out; the other parts of a run, the gate and everything that resuming does before
any node, are `Quiet`; what resuming does before any node is `Clerical` besides. -/

namespace GatedFlow

def RunMoment.news : RunMoment → List Event
  | ⟨.tell events, _, _⟩ => events
  | _ => []

def RunMoment.Quiet (m : RunMoment) : Prop := ∀ thread node, Event.nodeEntered thread node ∉ m.news

def QuietTrace (tr : List RunMoment) : Prop := ∀ m ∈ tr, RunMoment.Quiet m

theorem quiet_of_news {m : RunMoment} (h : m.news = []) : m.Quiet := by
  intro thread node hmem
  rw [h] at hmem
  cases hmem

namespace QuietTrace

theorem nil : QuietTrace [] := fun _ h => by cases h

theorem append {tr tr' : List RunMoment} (h : QuietTrace tr) (h' : QuietTrace tr') : QuietTrace (tr ++ tr') :=
  fun m hm => (List.mem_append.1 hm).elim (h m) (h' m)

theorem of_news {m : RunMoment} (h : m.news = []) : QuietTrace [m] := by
  intro m' hm'
  rw [List.mem_singleton.1 hm']
  exact quiet_of_news h

end QuietTrace

theorem Graph.nodeEntered_notMem_nextFailures (g : Graph) (name : String) (s : State) (thread node : String) :
    Event.nodeEntered thread node ∉ g.nextFailures name s := by
  unfold nextFailures
  split
  · split
    · simp [Router.failures]
    · simp [edgeFailures]
  · simp

/-- A moment of an edit or of business at the approval desk. -/
def RunMoment.Clerical : RunMoment → Prop
  | ⟨.await .., _, _⟩ => False
  | ⟨.tell _, _, _⟩ => False
  | ⟨.execute .., _, _⟩ => False
  | ⟨.next .., _, _⟩ => False
  | _ => True

theorem RunMoment.Clerical.news {m : RunMoment} (h : m.Clerical) : m.news = [] := by
  unfold RunMoment.news
  split
  · exact h.elim
  · rfl

theorem RunMoment.Clerical.quiet {m : RunMoment} (h : m.Clerical) : m.Quiet := quiet_of_news h.news

/-- A moment of an edit, or of business with a request that there is already. -/
def RunMoment.Settles : RunMoment → Prop
  | ⟨.edit _, _, _⟩ => True
  | ⟨.currentRequest _, _, _⟩ => True
  | ⟨.latest _, _, _⟩ => True
  | ⟨.cancelRequest _, _, _⟩ => True
  | _ => False

theorem RunMoment.Settles.clerical {m : RunMoment} (h : m.Settles) : m.Clerical := by
  obtain ⟨call, answer, c⟩ := m
  cases call with
  | edit e => trivial
  | currentRequest thread => trivial
  | latest r => trivial
  | cancelRequest thread => trivial
  | _ => exact h.elim

def RunMoment.IsEdit : RunMoment → Prop
  | ⟨.edit _, _, _⟩ => True
  | _ => False

theorem RunMoment.IsEdit.settles {m : RunMoment} (h : m.IsEdit) : m.Settles := by
  obtain ⟨call, answer, c⟩ := m
  cases call with
  | edit e => trivial
  | _ => exact h.elim

namespace Engine

variable {α β : Type} {E : Engine} {P : RunMoment → Prop}

def Only (E : Engine) (P : RunMoment → Prop) (p : Run α) : Prop := ∀ c, ∀ m ∈ E.trace p c, P m

theorem Only.wp {p : Run α} (h : E.Only P p) (c : Course) : E.wp p (fun tr _ _ => ∀ m ∈ tr, P m) c := h c

theorem Only.mono {P' : RunMoment → Prop} {p : Run α} (h : E.Only P p) (hP : ∀ m, P m → P' m) : E.Only P' p :=
  fun c m hm => hP m (h c m hm)

/-- What the moments of a run carry over from one course to the next, the whole run carries over. -/
theorem Only.related {R : Course → Course → Prop} {p : Run α} (h : E.Only P p) (refl : ∀ c, R c c)
    (trans : ∀ {c₁ c₂ c₃}, R c₁ c₂ → R c₂ c₃ → R c₁ c₃)
    (hP : ∀ m, P m → R m.before (RunCall.answer E.rules E.registry m.call m.before).2) (c : Course) :
    E.wp p (fun _ _ c' => R c c') c :=
  Program.trace_related refl trans (ExceptT.run p) c fun m hm => hP m (h c m hm)

theorem Only.bind {p : Run α} {f : α → Run β} (h : E.Only P p) (hf : ∀ a, E.Only P (f a)) : E.Only P (p >>= f) := by
  intro c
  have hw : E.wp (p >>= f) (fun tr _ _ => ∀ m ∈ tr, P m) c := by
    rw [wp_bind]
    refine wp_mono (h.wp c) fun tr r c₁ htr => ?_
    rcases r with _ | (e | a)
    · exact htr
    · exact htr
    · exact fun m hm => (List.mem_append.1 hm).elim (htr m) (hf a c₁ m)
  exact hw

theorem only_pure (a : α) : E.Only P (pure a) := fun _ _ h => by cases h

theorem only_throw (e : FlowError) : E.Only P (throw e : Run α) := fun _ _ h => by cases h

theorem only_ofExcept (r : Except FlowError α) : E.Only P (Run.ofExcept r) := fun _ _ h => by cases h

theorem only_ite {p : Prop} [Decidable p] {a b : Run α} (ha : E.Only P a) (hb : E.Only P b) :
    E.Only P (if p then a else b) := by
  split
  · exact ha
  · exact hb

theorem only_ofEdit {e : Edit α} (h : ∀ a c, P ⟨.edit e, some a, c⟩) : E.Only P (Run.ofEdit e) := by
  intro c m hm
  rw [show m = ⟨.edit e, some (e.run c.world.store).1, c⟩ from List.mem_singleton.1 hm]
  exact h _ c

theorem only_ofCall {call : RunCall α} (h : ∀ (answer : Option α) c, P ⟨call, answer, c⟩) :
    E.Only P (Run.ofCall call) := by
  intro c m hm
  change m ∈ Program.trace _ (.ask call _) c at hm
  simp only [Program.trace] at hm
  split at hm <;> rw [List.mem_singleton.1 hm] <;> exact h _ _

theorem only_ofTry {call : RunCall (Except FlowError α)}
    (h : ∀ (answer : Option (Except FlowError α)) c, P ⟨call, answer, c⟩) : E.Only P (Run.ofTry call) := by
  intro c m hm
  change m ∈ Program.trace _ (.ask call _) c at hm
  simp only [Program.trace] at hm
  split at hm <;> rw [List.mem_singleton.1 hm] <;> exact h _ _

theorem composes_only : Composes fun p => E.Only P p := ⟨only_ofExcept, Only.bind⟩

theorem only_perform {thread node : String} (htell : ∀ events answer c, P ⟨.tell events, answer, c⟩)
    (hexecute : ∀ node s answer c, P ⟨.execute E.graph node s, answer, c⟩)
    (hnext : ∀ node s answer c, P ⟨.next E.graph node s, answer, c⟩)
    (hmodify : ∀ update a c, P ⟨.edit (Edit.modify E.rules.schema thread update), some a, c⟩) (s : State) :
    E.Only P (E.perform thread node s) :=
  composes_only.binds.perform (fun _ => only_ofCall (htell _)) (only_ofTry (hexecute node s))
    (fun update => only_ofEdit (hmodify update)) fun s => only_ofTry (hnext node s)

theorem clerical_ofEdit (e : Edit α) : E.Only RunMoment.Clerical (Run.ofEdit e) := only_ofEdit fun _ _ => trivial

/-- Edits and business at the desk leave the agenda alone. -/
theorem Only.clerical {p : Run α} (h : E.Only RunMoment.Clerical p) (c : Course) :
    E.wp p (fun _ _ c' => c'.agenda = c.agenda) c := by
  refine h.related (R := fun c c' => c'.agenda = c.agenda) (fun _ => rfl) (fun h h' => h'.trans h) (fun m hm => ?_) c
  obtain ⟨call, answer, c⟩ := m
  cases call with
  | await r limit => exact hm.elim
  | _ => rfl

/-- Only a run that waits can be given up. -/
theorem Only.ends {p : Run α} (h : E.Only RunMoment.Clerical p) (c : Course) : (E.outcome p c).1.isSome := by
  refine Program.runWhile_isSome (ExceptT.run p) c fun m hm => ?_
  obtain ⟨call, answer, c'⟩ := m
  have hm := h c _ hm
  cases call with
  | await r limit => exact hm.elim
  | _ => rfl

/-- A claim only makes edits. -/
theorem edits_claim (thread : String) (request : Request) : E.Only RunMoment.IsEdit (E.claim thread request) := by
  have hedit : ∀ {α : Type} (e : Edit α), E.Only RunMoment.IsEdit (Run.ofEdit e) := fun e => only_ofEdit fun _ _ => trivial
  exact composes_only.claim (hedit _) (fun _ => hedit _) (composes_only.binds.clearPending (hedit _) (hedit _))

/-- Edits leave the approval desk and the agenda alone. -/
theorem Only.edits {p : Run α} (h : E.Only RunMoment.IsEdit p) (c : Course) :
    E.wp p (fun _ _ c' => c'.world.desk = c.world.desk ∧ c'.agenda = c.agenda) c := by
  refine h.related (R := fun c c' => c'.world.desk = c.world.desk ∧ c'.agenda = c.agenda) (fun _ => ⟨rfl, rfl⟩)
    (fun h h' => ⟨h'.1.trans h.1, h'.2.trans h.2⟩) (fun m hm => ?_) c
  unfold RunMoment.IsEdit at hm
  split at hm
  · exact ⟨rfl, rfl⟩
  · exact hm.elim

/-- What resuming does before any node concerns the request that the thread has already. -/
theorem settles_prepare (thread : String) : E.Only RunMoment.Settles (E.prepare thread) :=
  composes_only.prepare (only_ofCall fun _ _ => trivial) (fun _ => (edits_claim _ _).mono fun _ h => h.settles)
    fun _ _ => composes_only.binds.settle (fun _ => only_ofEdit fun _ _ => trivial) (only_ofCall fun _ _ => trivial)
      (only_ofCall fun _ _ => trivial)

theorem clerical_prepare (thread : String) : E.Only RunMoment.Clerical (E.prepare thread) :=
  (settles_prepare thread).mono fun _ h => h.clerical

theorem clerical_pause (thread node : String) (rest : List String) (request : Request) :
    E.Only RunMoment.Clerical (E.pause thread node rest request) :=
  composes_only.binds.pause (clerical_ofEdit _) (clerical_ofEdit _) (only_ofCall fun _ _ => trivial)

/-- At a gate a run itself tells nothing. -/
theorem silent_gate (thread node : String) (s : State) (rest : List String) :
    E.Only (fun m => m.news = []) (E.gate thread node s rest) :=
  composes_only.binds.gate (only_ofCall fun _ _ => rfl) (fun _ => only_ofCall fun _ _ => rfl)
    (fun request => (clerical_pause _ _ _ request).mono fun _ h => h.news)
    fun _ => composes_only.binds.awaitDecision (only_ofTry fun _ _ => rfl) (only_ofCall fun _ _ => rfl)
      (only_ofCall fun _ _ => rfl)

theorem quiet_gate (thread node : String) (s : State) (rest : List String) :
    E.Only RunMoment.Quiet (E.gate thread node s rest) :=
  (silent_gate thread node s rest).mono fun _ h => quiet_of_news h

theorem quiet_prepare (thread : String) : E.Only RunMoment.Quiet (E.prepare thread) :=
  (clerical_prepare thread).mono fun _ h => h.quiet

theorem quiet_wait (thread : String) (limit : Option Nat) : E.Only RunMoment.Quiet (Run.wait thread limit) := by
  refine (only_ofCall fun _ _ => quiet_of_news rfl).bind fun request? => ?_
  split
  · exact only_throw _
  · exact only_ofTry fun _ _ => quiet_of_news rfl

theorem quiet_tell {events : List Event} (h : ∀ thread node, Event.nodeEntered thread node ∉ events) :
    E.Only RunMoment.Quiet (tell events) :=
  only_ofCall fun _ _ => h

/-- Carrying out a node enters it and no other. -/
theorem trace_perform (thread node : String) (s : State) (c : Course) :
    ∃ tr, E.trace (E.perform thread node s) c = ⟨.tell [.nodeEntered thread node], some (), c⟩ :: tr ∧
      QuietTrace tr := by
  let after : Run (List String) := do
    let update ← Run.ofTry (.execute E.graph node s)
    let s ← E.mergeUpdate thread s update
    tell (E.graph.nextFailures node s)
    let targets ← Run.ofTry (.next E.graph node s)
    tell (targets.map (.edgeTraversed thread node))
    return targets
  have hafter : E.Only RunMoment.Quiet after := by
    refine (only_ofTry fun _ _ => quiet_of_news rfl).bind fun update => ?_
    refine (only_ite (only_pure s) ((clerical_ofEdit _).mono fun _ h => h.quiet)).bind fun s => ?_
    refine (quiet_tell (E.graph.nodeEntered_notMem_nextFailures node s)).bind fun _ => ?_
    refine (only_ofTry fun _ _ => quiet_of_news rfl).bind fun targets => ?_
    exact (quiet_tell fun _ _ h => by simp at h).bind fun _ => only_pure _
  exact ⟨_, rfl, hafter (c.withDesk (c.world.desk.tellAll E.registry [.nodeEntered thread node]))⟩

end Engine
end GatedFlow
