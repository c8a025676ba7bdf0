import GatedFlow.Proofs.Run.Fold
import GatedFlow.Proofs.Run.Quiet
import GatedFlow.Proofs.Run.Worklist
import Mathlib

/-! # The step limit

`Engine.withSteps` is an engine with another limit on the nodes that a run carries out. A run is either the same whatever
limit it has from here on, or it is cut off where the longer runs enter a node for which it has no execution left, and up
to there it does what they do (`Engine.Cut`). The cut falls between two rounds of the loop, since only the loop itself
looks at what is left: what happens on the way to a node and at its gate, and how a node is carried out, is a common
first part of all these runs (`Limited.bind`). -/

namespace GatedFlow

/-- The nodes that observers are told are entered, in order. -/
def entered (tr : List RunMoment) : List String := (tr.flatMap RunMoment.news).filterMap Event.entered?

@[simp] theorem entered_append (tr tr' : List RunMoment) : entered (tr ++ tr') = entered tr ++ entered tr' := by
  simp [entered]

/-- The policy asks for no approval. -/
def Course.AsksNothing (c : Course) : Prop := ∀ s node, c.world.desk.policy.reason? s node = none

theorem entered_of_quiet {tr : List RunMoment} (h : QuietTrace tr) : entered tr = [] := by
  refine List.filterMap_eq_nil_iff.2 fun event hevent => ?_
  obtain ⟨m, hm, hnews⟩ := List.mem_flatMap.1 hevent
  cases event with
  | nodeEntered thread node => exact absurd hnews (h m hm thread node)
  | _ => rfl

namespace Engine

variable {α : Type} {E : Engine} {thread : String} {limit left : Nat}

def withSteps (E : Engine) (limit : Nat) : Engine := { E with config := { E.config with maxSteps := limit } }

theorem entered_perform (thread node : String) (s : State) (c : Course) :
    entered (E.trace (E.perform thread node s) c) = [node] := by
  obtain ⟨tr, htrace, hquiet⟩ := trace_perform (E := E) thread node s c
  have hrest : entered tr = [] := entered_of_quiet hquiet
  rw [htrace, ← List.singleton_append, entered_append, hrest]
  rfl

/-- How a run with so many executions left ends next to runs that have more: all of them do the same, or it fails with the
step limit, having entered as many nodes as it could, and what the others do next is to enter a node. -/
inductive Cut (E : Engine) (thread : String) (limit left : Nat) (longer : Nat → Run Outcome) (c : Course)
    (tr : List RunMoment) (r : Option (Except FlowError Outcome)) (c' : Course) : Prop
  | within (count : (entered tr).length ≤ left)
      (same : ∀ n, E.wp (longer n) (fun tr' r' c'' => tr' = tr ∧ r' = r ∧ c'' = c') c)
  | exceeded (failed : r = some (.error (.stepLimit thread limit))) (count : (entered tr).length = left)
      (further : ∀ n, E.wp (longer n) (fun tr' _ _ =>
        ∃ node rest, tr' = tr ++ ⟨.tell [.nodeEntered thread node], some (), c'⟩ :: rest) c)

def Limited (E : Engine) (thread : String) (limit left : Nat) (short : Run Outcome) (longer : Nat → Run Outcome) : Prop :=
  ∀ c, E.wp short (E.Cut thread limit left longer c) c

namespace Limited

/-- A run that enters no node is not cut off. -/
theorem of_quiet {p : Run Outcome} (h : E.Only RunMoment.Quiet p) : E.Limited thread limit left p fun _ => p := by
  intro c
  have hcount : entered (E.trace p c) = [] := entered_of_quiet (h c)
  exact .within (by rw [hcount]; exact Nat.zero_le left) fun _ => ⟨rfl, rfl, rfl⟩

/-- A common first part that always enters so many nodes takes as many executions. -/
theorem bind {p : Run α} {f : α → Run Outcome} {g : Nat → α → Run Outcome} {count : Nat}
    (hp : ∀ c, (entered (E.trace p c)).length = count) (h : ∀ a, E.Limited thread limit left (f a) fun n => g n a) :
    E.Limited thread limit (left + count) (p >>= f) fun n => p >>= g n := by
  intro c
  rw [wp_bind]
  rcases hout : E.outcome p c with ⟨r, c₁⟩
  have hfirst : ∀ {n Q}, E.wp (p >>= g n) Q c ↔ _ := fun {n Q} => (wp_bind p (g n)).trans (wp_iff_of_outcome hout)
  rw [wp_iff_of_outcome hout]
  rcases r with _ | (e | a)
  · refine .within (by rw [hp c]; exact Nat.le_add_left ..) fun n => ?_
    exact hfirst.2 ⟨rfl, rfl, rfl⟩
  · refine .within (by rw [hp c]; exact Nat.le_add_left ..) fun n => ?_
    exact hfirst.2 ⟨rfl, rfl, rfl⟩
  · refine wp_mono (h a c₁) fun tr r c' hcut => ?_
    have hcount : (entered (E.trace p c ++ tr)).length = (entered tr).length + count := by
      rw [entered_append, List.length_append, hp c, Nat.add_comm]
    cases hcut with
    | within hle hsame =>
      refine .within (by rw [hcount]; exact Nat.add_le_add_right hle count) fun n => hfirst.2 ?_
      refine wp_mono (hsame n) fun tr' r' c'' heq => ?_
      exact ⟨congrArg (E.trace p c ++ ·) heq.1, heq.2⟩
    | exceeded hfailed heq hfurther =>
      refine .exceeded hfailed (by rw [hcount, heq]) fun n => hfirst.2 ?_
      refine wp_mono (hfurther n) fun tr' _ _ hmore => ?_
      obtain ⟨node, rest, rfl⟩ := hmore
      exact ⟨node, rest, (List.append_assoc ..).symm⟩

/-- A quiet common first part takes no execution. -/
theorem bind_quiet {p : Run α} {f : α → Run Outcome} {g : Nat → α → Run Outcome} (hp : E.Only RunMoment.Quiet p)
    (h : ∀ a, E.Limited thread limit left (f a) fun n => g n a) :
    E.Limited thread limit left (p >>= f) fun n => p >>= g n := by
  have hcount : ∀ c, (entered (E.trace p c)).length = 0 := fun c => congrArg List.length (entered_of_quiet (hp c))
  exact bind hcount h

/-- Where no execution is left, the longer runs enter the node. -/
theorem spent {node : String} {s : State} (f : Nat → List String → Run Outcome) :
    E.Limited thread limit 0 (throw (.stepLimit thread limit)) fun n => E.perform thread node s >>= f n := by
  intro c
  refine .exceeded rfl rfl fun n => ?_
  obtain ⟨tr, htrace, -⟩ := trace_perform (E := E) thread node s c
  rw [wp_bind]
  unfold wp
  rw [htrace]
  rcases (E.outcome (E.perform thread node s) c).1 with _ | (e | targets)
  · exact ⟨node, tr, rfl⟩
  · exact ⟨node, tr, rfl⟩
  · exact ⟨node, _, rfl⟩

end Limited

section Drive

variable {visited : List String}

theorem quiet_loadState (thread : String) : E.Only RunMoment.Quiet (Run.ofEdit (Edit.loadState thread)) :=
  (clerical_ofEdit _).mono fun _ h => h.quiet

theorem limited_nil (approved : Option String) : E.Limited thread limit left
    ((E.withSteps limit).drive thread left [] approved visited)
    fun n => (E.withSteps (n + limit + 1)).drive thread (n + left + 1) [] approved visited := by
  simp only [drive_nil]
  exact .of_quiet ((quiet_loadState thread).bind fun _ => only_pure _)

/-- On the way to a node and at its gate no run looks at what it has left. -/
theorem limited_cons {node : String} {rest : List String} (approved : Option String)
    (hgo : ∀ approved s, E.Limited thread limit left
      ((E.withSteps limit).goOn thread node rest approved visited s left)
      fun n => (E.withSteps (n + limit + 1)).goOn thread node rest approved visited s (n + left + 1)) :
    E.Limited thread limit left ((E.withSteps limit).drive thread left (node :: rest) approved visited)
      fun n => (E.withSteps (n + limit + 1)).drive thread (n + left + 1) (node :: rest) approved visited := by
  simp only [drive_cons]
  refine .bind_quiet (quiet_loadState thread) fun s => ?_
  refine .bind_quiet (only_ite (only_pure none) (quiet_gate thread node s rest)) fun outcome? => ?_
  cases outcome? with
  | some outcome => exact .of_quiet (only_pure outcome)
  | none => exact hgo _ s

/-- The loop of a run with fewer executions left, next to that of runs with more. -/
theorem limited_drive (left : Nat) (frontier : List String) (approved : Option String) (visited : List String) :
    E.Limited thread limit left ((E.withSteps limit).drive thread left frontier approved visited)
      fun n => (E.withSteps (n + limit + 1)).drive thread (n + left + 1) frontier approved visited := by
  induction left generalizing frontier approved visited with
  | zero =>
    cases frontier with
    | nil => exact limited_nil approved
    | cons node rest => exact limited_cons approved fun _ _ => .spent _
  | succ left ih =>
    cases frontier with
    | nil => exact limited_nil approved
    | cons node rest =>
      refine limited_cons approved fun _ s => ?_
      have hperform : ∀ c, (entered (E.trace (E.perform thread node s) c)).length = 1 :=
        fun c => congrArg List.length (entered_perform thread node s c)
      exact .bind hperform fun targets => ih _ _ _

end Drive

/-- A new run gives its thread the same first state whatever its limit is, as long as there is one. -/
theorem seed_withSteps {larger : Nat} (hlimit : limit ≠ 0) (hlarger : larger ≠ 0) (thread : String) (initial : State) :
    (E.withSteps larger).seed thread initial = (E.withSteps limit).seed thread initial := by
  have hvalid : (E.withSteps larger).config.validate = (E.withSteps limit).config.validate := by
    show (if larger = 0 then _ else _) = (if limit = 0 then _ else _)
    rw [if_neg hlarger, if_neg hlimit]
    rfl
  unfold seed checkConfig
  rw [hvalid]
  rfl

theorem limited_invoke (hlimit : limit ≠ 0) (thread : String) (initial : State) :
    E.Limited thread limit limit ((E.withSteps limit).invoke thread initial)
      fun n => (E.withSteps (n + limit + 1)).invoke thread initial := by
  have hseed : E.Only RunMoment.Quiet ((E.withSteps limit).seed thread initial) :=
    (only_ofExcept _).bind fun _ => (clerical_ofEdit _).mono fun _ h => h.quiet
  simp only [invoke_eq, fun n => seed_withSteps (E := E) hlimit (Nat.succ_ne_zero (n + limit)) thread initial]
  exact .bind_quiet hseed fun _ => limited_drive limit _ _ _

/-- As long as the policy asks for no approval, a run has a result, and the policy goes on so. -/
def Unattended (E : Engine) (p : Run α) : Prop :=
  ∀ c : Course, c.AsksNothing → E.wp p (fun _ r c' => r.isSome ∧ c'.AsksNothing) c

theorem composes_unattended : Composes fun p => E.Unattended p where
  ofExcept _ _ h := ⟨rfl, h⟩
  bind := by
    intro α β p f hp hf c hc
    rw [wp_bind]
    refine wp_mono (hp c hc) fun tr r c₁ h => ?_
    obtain ⟨hr, hc₁⟩ := h
    rcases r with _ | (e | a)
    · cases hr
    · exact ⟨rfl, hc₁⟩
    · exact hf a c₁ hc₁

theorem unattended_ofEdit (e : Edit α) : E.Unattended (Run.ofEdit e) := fun _ h => ⟨rfl, h⟩

theorem unattended_tell (events : List Event) : E.Unattended (tell events) := by
  intro c hc
  rw [wp_tell]
  refine ⟨rfl, fun s node => ?_⟩
  rw [Course.withDesk_desk, Desk.tellAll_policy]
  exact hc s node

theorem unattended_gate (thread node : String) (s : State) (rest : List String) :
    E.Unattended (E.gate thread node s rest) := by
  intro c hc
  have hpolicy : (c.world.desk.askReason s node).2.policy = c.world.desk.policy := Desk.tellAll_policy ..
  have hasked : (c.withDesk (c.world.desk.askReason s node).2).AsksNothing :=
    fun s' node' => (congrArg (·.reason? s' node') hpolicy).trans (hc s' node')
  rw [gate, wp_bind, wp_askReason, hc s node]
  exact ⟨rfl, hasked⟩

theorem unattended_perform (thread node : String) (s : State) : E.Unattended (E.perform thread node s) :=
  composes_unattended.binds.perform unattended_tell (fun _ h => ⟨rfl, h⟩) (fun _ => unattended_ofEdit _) fun _ _ h => ⟨rfl, h⟩

theorem unattended_invoke (thread : String) (initial : State) : E.Unattended (E.invoke thread initial) :=
  composes_unattended.invoke
    (composes_unattended.drive (unattended_ofEdit _) (unattended_gate thread) (unattended_perform thread))
    (fun _ => unattended_ofEdit _) initial

end Engine

/-- The step limit is exact and is not noticed otherwise. Where the policy asks for no approval, a new run with a limit of
at least one node always comes to a result. Either it needs no more: every run with a larger limit enters at most so many
nodes and ends as this one does, with the same trace and the same store and desk. Or it fails with the step limit after it
has entered exactly so many nodes, and every run with a larger limit does what it has done and enters one more node, on
the very store and desk that it has left. -/
theorem invoke_limit {E : Engine} {c : Course} {limit : Nat} (hlimit : 1 ≤ limit) (hpolicy : c.AsksNothing)
    (thread : String) (initial : State) :
    let short := E.withSteps limit
    let ran := short.trace (short.invoke thread initial) c
    (short.outcome (short.invoke thread initial) c).1.isSome ∧
    ((∀ larger, limit < larger → let long := E.withSteps larger
        (entered (long.trace (long.invoke thread initial) c)).length ≤ limit ∧
        long.trace (long.invoke thread initial) c = ran ∧
        long.outcome (long.invoke thread initial) c = short.outcome (short.invoke thread initial) c) ∨
      ∃ c₁, short.outcome (short.invoke thread initial) c = (some (.error (.stepLimit thread limit)), c₁) ∧
        (entered ran).length = limit ∧
        ∀ larger, limit < larger → let long := E.withSteps larger
          ∃ node rest, long.trace (long.invoke thread initial) c =
            ran ++ ⟨.tell [.nodeEntered thread node], some (), c₁⟩ :: rest) := by
  have hends : (E.withSteps limit).wp _ _ c := (E.withSteps limit).unattended_invoke thread initial c hpolicy
  refine ⟨hends.1, ?_⟩
  have hmore : ∀ larger, limit < larger → ∃ n, larger = n + limit + 1 :=
    fun larger h => ⟨larger - (limit + 1), by omega⟩
  have hcut : E.wp _ _ c := Engine.limited_invoke (Nat.ne_of_gt hlimit) thread initial c
  cases hcut with
  | within hcount hsame =>
    refine .inl fun larger hlarger => ?_
    obtain ⟨n, rfl⟩ := hmore larger hlarger
    obtain ⟨htrace, hresult, hcourse⟩ := hsame n
    refine ⟨?_, htrace, Prod.ext hresult hcourse⟩
    exact (congrArg (fun tr => (entered tr).length) htrace).trans_le hcount
  | exceeded hfailed hcount hfurther =>
    refine .inr ⟨_, Prod.ext hfailed rfl, hcount, fun larger hlarger => ?_⟩
    obtain ⟨n, rfl⟩ := hmore larger hlarger
    exact hfurther n

/-- Two nodes that lead to each other are cut off whatever the limit is. -/
theorem invoke_limit_counting : 1 ≤ 3 ∧ countingCourse.AsksNothing ∧
    ∃ c₁, counting.outcome (counting.invoke "t" countingStart) countingCourse = (some (.error (.stepLimit "t" 3)), c₁) ∧
      entered (counting.trace (counting.invoke "t" countingStart) countingCourse) = ["count", "copy", "count"] ∧
      ∃ node rest, (counting.withSteps 5).trace ((counting.withSteps 5).invoke "t" countingStart) countingCourse =
        counting.trace (counting.invoke "t" countingStart) countingCourse ++
          ⟨.tell [.nodeEntered "t" node], some (), c₁⟩ :: rest := by
  have hlimit : 1 ≤ 3 := by decide
  have hpolicy : countingCourse.AsksNothing := Policy.Lenient.reason? ⟨rfl, rfl⟩
  refine ⟨hlimit, hpolicy, ?_⟩
  obtain ⟨-, hwithin | ⟨c₁, hrun, -, hfurther⟩⟩ := invoke_limit (E := counting) hlimit hpolicy "t" countingStart
  · have hfive : (entered ((counting.withSteps 5).trace
        ((counting.withSteps 5).invoke "t" countingStart) countingCourse)).length = 5 := by cbv
    obtain ⟨hcount, -, -⟩ := hwithin 5 (by decide)
    omega
  · exact ⟨c₁, hrun, by cbv, hfurther 5 (by decide)⟩

end GatedFlow
