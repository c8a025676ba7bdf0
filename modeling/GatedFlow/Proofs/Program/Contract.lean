import GatedFlow.Program

/-! # Contracts of programs

A contract says which calls are allowed and what their answers can be relied on for. A program keeps a contract if it
makes allowed calls only, as long as it is answered as the contract says (`Program.Keeps`). Whoever answers allowed calls
so and keeps an invariant thereby, keeps it over the whole run of such a program (`Program.Keeps.run`). -/

namespace GatedFlow

universe v

/-- What may be asked and what is given in return. -/
structure Contract (Call : Type → Type v) where
  Asks : {β : Type} → Call β → Prop
  Gives : {β : Type} → Call β → β → Prop

namespace Program

variable {Call : Type → Type v} {C : Contract Call} {α β σ : Type} {Q : α → Prop} {p : Program Call α}

/-- As long as a program is given what the contract says, it asks what the contract allows, and `Q` holds of its
result. -/
def Keeps (C : Contract Call) (Q : α → Prop) : Program Call α → Prop
  | done a => Q a
  | ask call next => C.Asks call ∧ ∀ a, C.Gives call a → (next a).Keeps C Q

namespace Keeps

theorem mono {Q' : α → Prop} (h : p.Keeps C Q) (hQ : ∀ a, Q a → Q' a) : p.Keeps C Q' := by
  induction p with
  | done a => exact hQ a h
  | ask call next ih => exact ⟨h.1, fun a ha => ih a (h.2 a ha)⟩

theorem bind {R : β → Prop} {f : α → Program Call β} (h : p.Keeps C Q) (hf : ∀ a, Q a → (f a).Keeps C R) :
    (p >>= f).Keeps C R := by
  induction p with
  | done a => exact hf a h
  | ask call next ih => exact ⟨h.1, fun a ha => ih a (h.2 a ha)⟩

/-- A program that keeps a contract keeps one that allows more and gives more. -/
theorem allow {C' : Contract Call} (h : p.Keeps C Q) (hasks : ∀ {β : Type} (call : Call β), C.Asks call → C'.Asks call)
    (hgives : ∀ {β : Type} (call : Call β) (b : β), C'.Gives call b → C.Gives call b) : p.Keeps C' Q := by
  induction p with
  | done a => exact h
  | ask call next ih => exact ⟨hasks call h.1, fun a ha => ih a (h.2 a (hgives call a ha))⟩

/-- What the answers to allowed calls keep, the run of a program keeps that makes no others. -/
theorem run {answer : {β : Type} → Call β → σ → β × σ} {I : σ → Prop}
    (hanswer : ∀ {β : Type} (call : Call β) (s : σ), C.Asks call → I s →
      C.Gives call (answer call s).1 ∧ I (answer call s).2) (h : p.Keeps C Q) {s : σ} (hs : I s) :
    Q (p.run answer s).1 ∧ I (p.run answer s).2 := by
  induction p generalizing s with
  | done a => exact ⟨h, hs⟩
  | ask call next ih =>
    obtain ⟨hgives, hs'⟩ := hanswer call s h.1 hs
    exact ih _ (h.2 _ hgives) hs'

end Keeps
end Program
end GatedFlow
