import GatedFlow.Proofs.Program.Contract

/-! # Programs among others

A program seldom has the state to itself: between its calls, each of which is answered in one step, others act
(`Program.Among`). A view of the state is what they leave alone. It is the same after they have acted as before
(`Among.done_cases`, `Among.ask_cases`), and a program that makes no call that changes it brings it through
(`Among.of_keeps`). -/

namespace GatedFlow.Program

universe v

variable {Call : Type → Type v} {α β γ σ : Type}

/-- A program has made a number of calls, and others have acted on the state before, between and after them. What is left
of the program and the state by then are the last two arguments. -/
inductive Among (answer : {β : Type} → Call β → σ → Option β × σ) (others : σ → σ → Prop) :
    Nat → Program Call α → σ → Program Call α → σ → Prop
  | start (p : Program Call α) (s : σ) : Among @answer others 0 p s p s
  | act {n : Nat} {p p' : Program Call α} {s t s' : σ} (h : others s t) (rest : Among @answer others n p t p' s') :
    Among @answer others n p s p' s'
  | call {n : Nat} {β : Type} {call : Call β} {next : β → Program Call α} {b : β} {p' : Program Call α} {s t s' : σ}
    (h : answer call s = (some b, t)) (rest : Among @answer others n (next b) t p' s') :
    Among @answer others (n + 1) (ask call next) s p' s'

namespace Among

variable {answer : {β : Type} → Call β → σ → Option β × σ} {others : σ → σ → Prop} {view : σ → γ}
  (hothers : ∀ s t, others s t → view t = view s) {n : Nat} {p' : Program Call α} {s s' : σ}

include hothers

theorem done_cases {a : α} (h : Among answer others n (done a) s p' s') : p' = done a ∧ view s' = view s := by
  generalize hp : done a = p at h
  induction h with
  | start p s => exact ⟨rfl, rfl⟩
  | act hact rest ih =>
    obtain ⟨hp', hview⟩ := ih hp
    exact ⟨hp', hview.trans (hothers _ _ hact)⟩
  | call => cases hp

/-- A program that is about to ask still is, or it has been answered in a state that others may have changed before. -/
theorem ask_cases {call : Call β} {next : β → Program Call α} (h : Among answer others n (ask call next) s p' s') :
    n = 0 ∧ p' = ask call next ∧ view s' = view s ∨
      ∃ m t b t', n = m + 1 ∧ view t = view s ∧ answer call t = (some b, t') ∧ Among answer others m (next b) t' p' s' := by
  generalize hp : ask call next = p at h
  induction h with
  | start p s => exact .inl ⟨rfl, rfl, rfl⟩
  | act hact rest ih =>
    have hview := hothers _ _ hact
    rcases ih hp with ⟨hn, hp', hs'⟩ | ⟨m, t, b, t', hn, ht, hanswer, hrest⟩
    · exact .inl ⟨hn, hp', hs'.trans hview⟩
    · exact .inr ⟨m, t, b, t', hn, ht.trans hview, hanswer, hrest⟩
  | call hanswer rest =>
    cases hp
    exact .inr ⟨_, _, _, _, rfl, rfl, hanswer, rest⟩

/-- What allowed calls and others leave alone is what it was, however far a program has come that makes no other calls. -/
theorem of_keeps {C : Contract Call} {Q : α → Prop} {p : Program Call α}
    (hanswer : ∀ {β : Type} (call : Call β) (s : σ) (b : β) (t : σ), C.Asks call → answer call s = (some b, t) →
      C.Gives call b ∧ view t = view s)
    (hp : p.Keeps C Q) (h : Among answer others n p s p' s') : p'.Keeps C Q ∧ view s' = view s := by
  induction h with
  | start p s => exact ⟨hp, rfl⟩
  | act hact rest ih =>
    obtain ⟨hp', hview⟩ := ih hp
    exact ⟨hp', hview.trans (hothers _ _ hact)⟩
  | call hcall rest ih =>
    obtain ⟨hgives, hview⟩ := hanswer _ _ _ _ hp.1 hcall
    obtain ⟨hp', hrest⟩ := ih (hp.2 _ hgives)
    exact ⟨hp', hrest.trans hview⟩

end Among
end GatedFlow.Program
