import GatedFlow.Program

/-! # Traces of programs

`Program.trace` lists the calls that `Program.runWhile` makes, each with its answer and the state in which it is
made. A trace of a sequence is the trace of the first program followed by that of the second
(`trace_bind`), and what every answer carries over from one state to the next, the whole run carries over
(`trace_related`, `runWhile_related`). -/

namespace GatedFlow

universe v

/-- A call that was made: its answer, if one came, and the state in which it was made. -/
structure Moment (Call : Type → Type v) (σ : Type) where
  {β : Type}
  call : Call β
  answer : Option β
  before : σ

namespace Program

variable {Call : Type → Type v} {α β σ : Type}

/-- The calls of a program in the order in which they are made. -/
def trace (answer : {β : Type} → Call β → σ → Option β × σ) : Program Call α → σ → List (Moment Call σ)
  | done _, _ => []
  | ask call next, s =>
    match answer call s with
    | (some b, s') => ⟨call, some b, s⟩ :: (next b).trace answer s'
    | (none, _) => [⟨call, none, s⟩]

variable {answer : {β : Type} → Call β → σ → Option β × σ}

theorem trace_bind (p : Program Call α) (f : α → Program Call β) (s : σ) :
    (p >>= f).trace answer s = p.trace answer s ++ match p.runWhile answer s with
      | (some a, s') => (f a).trace answer s'
      | (none, _) => [] := by
  induction p generalizing s with
  | done a => rfl
  | ask c next ih =>
    simp only [ask_bind, trace, runWhile]
    rcases answer c s with ⟨b | b, s'⟩
    · rfl
    · simp only [ih b s', List.cons_append]

/-- A reflexive and transitive relation that holds across the answers of a trace holds across the run. -/
theorem trace_related {R : σ → σ → Prop} (refl : ∀ s, R s s) (trans : ∀ {s t u}, R s t → R t u → R s u)
    (p : Program Call α) (s : σ) (h : ∀ m ∈ p.trace answer s, R m.before (answer m.call m.before).2) :
    R s (p.runWhile answer s).2 := by
  induction p generalizing s with
  | done a => exact refl s
  | ask c next ih =>
    simp only [trace, runWhile] at h ⊢
    rcases hc : answer c s with ⟨_ | b, s'⟩
    all_goals rw [hc] at h
    · have hstep : R s (answer c s).2 := h _ (List.mem_singleton_self _)
      rwa [hc] at hstep
    · have hstep : R s (answer c s).2 := h _ List.mem_cons_self
      rw [hc] at hstep
      exact trans hstep (ih b s' fun m hm => h m (List.mem_cons_of_mem _ hm))

/-- A run all of whose calls are answered has a result. -/
theorem runWhile_isSome (p : Program Call α) (s : σ) (h : ∀ m ∈ p.trace answer s, (answer m.call m.before).1.isSome) :
    (p.runWhile answer s).1.isSome := by
  induction p generalizing s with
  | done a => rfl
  | ask c next ih =>
    simp only [trace, runWhile] at h ⊢
    rcases hc : answer c s with ⟨_ | b, s'⟩
    all_goals rw [hc] at h
    · have hanswered := h _ (List.mem_singleton_self _)
      dsimp only at hanswered
      rw [hc] at hanswered
      exact hanswered
    · exact ih b s' fun m hm => h m (List.mem_cons_of_mem _ hm)

/-- A reflexive and transitive relation that holds across every answer holds across a run, and from the start of
the run to each of its moments. -/
theorem runWhile_related {R : σ → σ → Prop} (refl : ∀ s, R s s) (trans : ∀ {s t u}, R s t → R t u → R s u)
    (step : ∀ {β : Type} (c : Call β) (s : σ), R s (answer c s).2) (p : Program Call α) (s : σ) :
    R s (p.runWhile answer s).2 ∧ ∀ m ∈ p.trace answer s, R s m.before := by
  induction p generalizing s with
  | done a => exact ⟨refl s, by simp [trace]⟩
  | ask c next ih =>
    have hstep := step c s
    rcases hc : answer c s with ⟨b?, s'⟩
    rw [hc] at hstep
    cases b? with
    | none =>
      simp only [trace, runWhile, hc, List.mem_singleton, forall_eq]
      exact ⟨hstep, refl s⟩
    | some b =>
      simp only [trace, runWhile, hc, List.mem_cons, forall_eq_or_imp]
      exact ⟨trans hstep (ih b s').1, refl s, fun m hm => trans hstep ((ih b s').2 m hm)⟩

end Program
end GatedFlow
