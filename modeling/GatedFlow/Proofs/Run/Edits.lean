import GatedFlow.Proofs.Edits.Atomic
import GatedFlow.Proofs.Run.Trace

/-! # Edits in a run

A run that makes an edit goes on with its result or ends with its error; the stored states change only where the edit
ends well (`wp_edit_cases`). On a store that does not fail, edits that are allowed end well. -/

namespace GatedFlow

/-- No call to the store fails, and it holds a state for a thread. -/
structure Store.Holds (s : Store) (thread : String) (st : State) : Prop where
  reliable : s.Reliable
  stored : s.snapshots.get? thread = some st

namespace Engine

variable {α β : Type} {E : Engine} {c : Course} {P : Prop} {thread : String} {s : State}

theorem wp_edit {e : Edit α} {Q : α → Record State → Prop}
    {Q' : List RunMoment → Option (Except FlowError α) → Course → Prop} (he : e.Does c.world.store P Q)
    (hok : ∀ a s', e.run c.world.store = (.ok a, s') → Q a s'.snapshots →
      Q' [⟨.edit e, some (.ok a), c⟩] (some (.ok a)) (c.withStore s'))
    (herror : ∀ p s', e.run c.world.store = (.error p, s') → s'.snapshots = c.world.store.snapshots →
      ¬(c.world.store.Reliable ∧ P) → Q' [⟨.edit e, some (.error p), c⟩] (some (.error (.store p))) (c.withStore s')) :
    E.wp (Run.ofEdit e) Q' c := by
  rw [wp_ofEdit]
  unfold Edit.Does at he
  rcases hrun : e.run c.world.store with ⟨p | a, s'⟩
  · rw [hrun] at he
    exact herror p s' hrun he.1 he.2
  · rw [hrun] at he
    exact hok a s' hrun he

theorem wp_edit_cases {e : Edit α} {f : α → Run β} {Q : α → Record State → Prop}
    {Q' : List RunMoment → Option (Except FlowError β) → Course → Prop} (he : e.Does c.world.store P Q)
    (hok : ∀ a s', e.run c.world.store = (.ok a, s') → Q a s'.snapshots →
      E.wp (f a) (fun tr => Q' (⟨.edit e, some (.ok a), c⟩ :: tr)) (c.withStore s'))
    (herror : ∀ p s', e.run c.world.store = (.error p, s') → s'.snapshots = c.world.store.snapshots →
      ¬(c.world.store.Reliable ∧ P) → Q' [⟨.edit e, some (.error p), c⟩] (some (.error (.store p))) (c.withStore s')) :
    E.wp (Run.ofEdit e >>= f) Q' c := by
  rw [wp_bind]
  exact wp_edit he hok herror

theorem wp_edit_bind {e : Edit α} {f : α → Run β} {Q : α → Record State → Prop}
    {Q' : List RunMoment → Option (Except FlowError β) → Course → Prop} (hreliable : c.world.store.Reliable)
    (he : e.Does c.world.store True Q)
    (hf : ∀ a s', Q a s'.snapshots → s'.Reliable →
      E.wp (f a) (fun tr => Q' (⟨.edit e, some (.ok a), c⟩ :: tr)) (c.withStore s')) :
    E.wp (Run.ofEdit e >>= f) Q' c :=
  wp_edit_cases he (fun a s' hrun h => hf a s' h (by have hs := e.run_reliable hreliable; rwa [hrun] at hs))
    fun _ _ _ _ h => absurd ⟨hreliable, trivial⟩ h

theorem wp_load_bind {f : State → Run β} {Q : List RunMoment → Option (Except FlowError β) → Course → Prop}
    (hs : c.world.store.Holds thread s)
    (hf : ∀ s', s'.Holds thread s →
      E.wp (f s) (fun tr => Q (⟨.edit (Edit.loadState thread), some (.ok s), c⟩ :: tr)) (c.withStore s')) :
    E.wp (Run.ofEdit (Edit.loadState thread) >>= f) Q c := by
  refine wp_edit_bind hs.reliable (Edit.does_loadState fun _ => by rw [hs.stored]; rfl) fun st s' hst hs' => ?_
  obtain rfl : st = s := by have := hst.1; rw [hs.stored, Option.some.injEq] at this; exact this.symm
  exact hf s' ⟨hs', hst.2 ▸ hs.stored⟩

end Engine
end GatedFlow
