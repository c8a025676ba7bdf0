import GatedFlow.Proofs.Program.Trace

/-! # Programs with other calls

`Program.mapCalls` puts another call for every call of a program. If the answer to each is the same and the state differs
only by a view that keeps a log, then so it is with whole programs, and the log grows by what is said of each moment of
the trace (`runWhile_mapCalls`). -/

namespace GatedFlow.Program

universe v v'

variable {Call : Type → Type v} {Call' : Type → Type v'} {α β σ τ δ : Type}

/-- The program that makes other calls and goes on from their answers as before. -/
def mapCalls (f : {β : Type} → Call β → Call' β) : Program Call α → Program Call' α
  | done a => done a
  | ask call next => ask (f call) fun b => (next b).mapCalls f

theorem mapCalls_bind (f : {β : Type} → Call β → Call' β) (p : Program Call α) (g : α → Program Call β) :
    (p >>= g).mapCalls f = p.mapCalls f >>= fun a => (g a).mapCalls f := by
  induction p with
  | done a => rfl
  | ask call next ih => simp only [ask_bind, mapCalls, ih]

theorem runWhile_mapCalls {f : {β : Type} → Call β → Call' β} {answer : {β : Type} → Call β → σ → Option β × σ}
    {answer' : {β : Type} → Call' β → τ → Option β × τ} (view : σ → List δ → τ) (said : Moment Call σ → List δ)
    (hanswer : ∀ {β : Type} (call : Call β) (s : σ) (log : List δ), answer' (f call) (view s log) =
      ((answer call s).1, view (answer call s).2 (log ++ said ⟨call, (answer call s).1, s⟩)))
    (p : Program Call α) (s : σ) (log : List δ) : (p.mapCalls f).runWhile answer' (view s log) =
      ((p.runWhile answer s).1, view (p.runWhile answer s).2 (log ++ (p.trace answer s).flatMap said)) := by
  induction p generalizing s log with
  | done a => simp only [mapCalls, runWhile, trace, List.flatMap_nil, List.append_nil]
  | ask call next ih =>
    simp only [mapCalls, runWhile, trace, hanswer]
    -- without an answer both programs end here
    rcases hcall : answer call s with ⟨_ | b, s'⟩
    · simp only [List.flatMap_cons, List.flatMap_nil, List.append_nil]
    · simp only [ih, List.flatMap_cons, List.append_assoc]

/-- What is said of each moment adds up over a run. -/
theorem runWhile_accumulates {answer : {β : Type} → Call β → σ → Option β × σ} {R : σ → List δ → σ → Prop}
    {said : Moment Call σ → List δ} (refl : ∀ s, R s [] s)
    (trans : ∀ {s t u l m}, R s l t → R t m u → R s (l ++ m) u)
    (step : ∀ {β : Type} (call : Call β) (s : σ), R s (said ⟨call, (answer call s).1, s⟩) (answer call s).2)
    (p : Program Call α) (s : σ) : R s ((p.trace answer s).flatMap said) (p.runWhile answer s).2 := by
  induction p generalizing s with
  | done a => exact refl s
  | ask call next ih =>
    have hstep := step call s
    simp only [trace, runWhile]
    rcases hcall : answer call s with ⟨_ | b, s'⟩
    all_goals rw [hcall] at hstep
    · rw [List.flatMap_cons, List.flatMap_nil, List.append_nil]
      exact hstep
    · exact trans hstep (ih b s')

end GatedFlow.Program
