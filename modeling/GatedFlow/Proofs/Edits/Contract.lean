import GatedFlow.Edits.Interleaving
import GatedFlow.Proofs.Edits.Atomic
import GatedFlow.Proofs.Program.Contract

/-! # Edits under a contract

The rules for `Edit.Keeps` follow the parts an edit is made of. A store that lives up to a contract (`Contract.Served`)
keeps an invariant while such edits run, one alone (`Edit.Keeps.run`) or several in turns (`Edit.Keeps.runTogether`). -/

namespace GatedFlow

/-- A store with an invariant gives what a contract says and keeps the invariant, whether a call is served or fails; the
locks always give what the contract says. -/
structure Contract.Served (C : Contract EditCall) (I : Store → Prop) : Prop where
  counted : ∀ s kind, I s → I (s.counted kind)
  serve : ∀ {α : Type} (call : StoreCall α) (s : Store), C.Asks (.store call) → I s →
    C.Gives (.store call) (s.serve call).1 ∧ I (s.serve call).2
  outage : ∀ {α : Type} (call : StoreCall α) kind, C.Gives (.store call) (.error (.outage kind))
  acquire : ∀ thread, C.Gives (.acquire thread) ()
  release : ∀ thread, C.Gives (.release thread) ()
  activeLocks : ∀ n, C.Gives .activeLocks n

variable {C : Contract EditCall} {I : Store → Prop} {α β : Type}

theorem Contract.Served.answer (hC : C.Served I) (call : EditCall α) (s : Store) (hcall : C.Asks call) (hs : I s) :
    C.Gives call (call.answer s).1 ∧ I (call.answer s).2 := by
  cases call with
  | store call =>
    show C.Gives _ (s.answer call).1 ∧ I (s.answer call).2
    rcases s.answer_cases call with h | ⟨h, -⟩ <;> rw [h]
    · exact hC.serve call _ hcall (hC.counted s call.kind hs)
    · exact ⟨hC.outage call call.kind, hC.counted s call.kind hs⟩
  | acquire thread => exact ⟨hC.acquire thread, hs⟩
  | release thread => exact ⟨hC.release thread, hs⟩
  | activeLocks => exact ⟨hC.activeLocks 0, hs⟩

/-- An invariant that allowed calls keep, under a contract that promises nothing. -/
theorem Contract.served_of_serve (hgives : ∀ {α : Type} (call : EditCall α) (a : α), C.Gives call a)
    (hcounted : ∀ s kind, I s → I (s.counted kind))
    (hserve : ∀ {α : Type} (call : StoreCall α) (s : Store), C.Asks (.store call) → I s → I (s.serve call).2) :
    C.Served I where
  counted := hcounted
  serve call s hasks h := ⟨hgives _ _, hserve call s hasks h⟩
  outage _ _ := hgives _ _
  acquire _ := hgives _ _
  release _ := hgives _ _
  activeLocks _ := hgives _ _

theorem Contract.Served.and {J : Store → Prop} (hI : C.Served I) (hJ : C.Served J) : C.Served fun s => I s ∧ J s where
  counted s kind h := ⟨hI.counted s kind h.1, hJ.counted s kind h.2⟩
  serve call s hasks h :=
    ⟨(hI.serve call s hasks h.1).1, (hI.serve call s hasks h.1).2, (hJ.serve call s hasks h.2).2⟩
  outage := hI.outage
  acquire := hI.acquire
  release := hI.release
  activeLocks := hI.activeLocks

namespace Edit

variable {e : Edit α} {Q : α → Prop}

/-- An edit that keeps a contract, with a result of which `Q` holds unless it fails. -/
def Keeps (C : Contract EditCall) (Q : α → Prop) (e : Edit α) : Prop :=
  Program.Keeps C (fun r => ∀ a, r = .ok a → Q a) (ExceptT.run e)

namespace Keeps

theorem mono {Q' : α → Prop} (h : e.Keeps C Q) (hQ : ∀ a, Q a → Q' a) : e.Keeps C Q' :=
  Program.Keeps.mono h fun _ hr a ha => hQ a (hr a ha)

theorem ofExcept {r : Except StoreError α} (h : ∀ a, r = .ok a → Q a) : (ofExcept r).Keeps C Q := h

theorem pure {a : α} (h : Q a) : (pure a : Edit α).Keeps C Q := by
  rintro _ ⟨⟩
  exact h

theorem throw (p : StoreError) : (throw p : Edit α).Keeps C Q := by
  rintro _ ⟨⟩

theorem bind {R : β → Prop} {f : α → Edit β} (h : e.Keeps C Q) (hf : ∀ a, Q a → (f a).Keeps C R) :
    (e >>= f).Keeps C R := by
  refine Program.Keeps.bind h fun r hr => ?_
  cases r with
  | ok a => exact hf a (hr a rfl)
  | error p => rintro _ ⟨⟩

theorem map {R : β → Prop} (h : e.Keeps C Q) (f : α → β) (hf : ∀ a, Q a → R (f a)) : (f <$> e).Keeps C R := by
  rw [map_eq_pure_bind]
  exact h.bind fun a ha => .pure (hf a ha)

theorem ofCall {call : StoreCall α} (hasks : C.Asks (.store call)) (h : ∀ a, C.Gives (.store call) (.ok a) → Q a) :
    (ofCall call).Keeps C Q := by
  refine ⟨hasks, fun r hr a ha => h a ?_⟩
  rw [← ha]
  exact hr

theorem underLock {thread : String} (h : e.Keeps C Q) (hacquire : C.Asks (.acquire thread))
    (hrelease : C.Asks (.release thread)) : (underLock thread e).Keeps C Q := by
  show Program.Keeps C _ (.ask (.acquire thread) fun _ => ExceptT.run e >>= fun r => .ask (.release thread) fun _ => .done r)
  exact ⟨hacquire, fun _ _ => Program.Keeps.bind h fun r hr => ⟨hrelease, fun _ _ => hr⟩⟩

theorem tryLoad {key : String} (hasks : C.Asks (.store (.load key))) : (tryLoad key).Keeps C fun _ => True := by
  refine Program.Keeps.bind (ofCall (Q := fun _ => True) hasks fun _ _ => trivial) fun r _ => ?_
  split <;> exact fun _ _ => trivial

theorem run (h : e.Keeps C Q) (hC : C.Served I) {s : Store} (hs : I s) : I (e.run s).2 :=
  (Program.Keeps.run hC.answer h hs).2

end Keeps
end Edit

variable {Q : α → Prop} {i : Nat} {w : Store × Locks}

/-- What is left of an edit keeps a contract. -/
def Progress.Keeps (C : Contract EditCall) (Q : α → Prop) : Progress α → Prop
  | running rest => rest.Keeps C Q
  | serving call next => C.Asks (.store call) ∧ ∀ a, C.Gives (.store call) a → (next a).Keeps C Q
  | waiting _ next => (next ()).Keeps C Q
  | finished result => Q result

theorem Contract.Served.takeTurn (hC : C.Served I) {p : Program EditCall α} (h : p.Keeps C Q) (hw : I w.1) :
    (EditCall.takeTurn i p w).1.Keeps C Q ∧ I (EditCall.takeTurn i p w).2.1 := by
  induction p generalizing w with
  | done result => exact ⟨h, hw⟩
  | ask call next ih =>
    obtain ⟨s, l⟩ := w
    obtain ⟨hasks, hnext⟩ := h
    cases call with
    | store call =>
      have hcounted : I (s.counted call.kind) := hC.counted s call.kind hw
      rw [EditCall.takeTurn]
      dsimp only
      split
      · exact ih _ (hnext _ (hC.outage call call.kind)) hcounted
      split
      · exact ⟨⟨hasks, hnext⟩, hcounted⟩
      · obtain ⟨hgives, hserved⟩ := hC.serve call _ hasks hcounted
        exact ih _ (hnext _ hgives) hserved
    | acquire thread =>
      rw [EditCall.takeTurn]
      split
      · exact ih () (hnext () (hC.acquire thread)) hw
      · exact ⟨hnext () (hC.acquire thread), hw⟩
    | release thread => exact ih () (hnext () (hC.release thread)) hw
    | activeLocks => exact ih l.size (hnext _ (hC.activeLocks _)) hw

theorem Contract.Served.turn (hC : C.Served I) {p : Progress α} (h : p.Keeps C Q) (hw : I w.1) :
    (p.turn i w).1.Keeps C Q ∧ I (p.turn i w).2.1 := by
  cases p with
  | running rest => exact hC.takeTurn h hw
  | serving call next =>
    obtain ⟨hgives, hserved⟩ := hC.serve call _ h.1 hw
    exact hC.takeTurn (h.2 _ hgives) hserved
  | waiting thread next =>
    rw [Progress.turn]
    split
    · exact hC.takeTurn h hw
    · exact ⟨h, hw⟩
  | finished result => exact ⟨h, hw⟩

theorem Contract.Served.round (hC : C.Served I) {ps : List (Progress α)} (h : ∀ p ∈ ps, p.Keeps C Q) (hw : I w.1) :
    (∀ p ∈ (Progress.round i w ps).1, p.Keeps C Q) ∧ I (Progress.round i w ps).2.1 := by
  induction ps generalizing i w with
  | nil => exact ⟨h, hw⟩
  | cons p ps ih =>
    obtain ⟨hp, hps⟩ := List.forall_mem_cons.1 h
    obtain ⟨hp', hw'⟩ := hC.turn (i := i) hp hw
    obtain ⟨hps', hw''⟩ := ih (i := i + 1) hps hw'
    exact ⟨List.forall_mem_cons.2 ⟨hp', hps'⟩, hw''⟩

theorem Contract.Served.rounds (hC : C.Served I) (fuel : Nat) {ps : List (Progress α)} (h : ∀ p ∈ ps, p.Keeps C Q)
    (hw : I w.1) : I (Progress.rounds fuel ps w).2.1 := by
  induction fuel generalizing ps w with
  | zero => exact hw
  | succ fuel ih =>
    rw [Progress.rounds]
    split
    · exact hw
    · obtain ⟨hps, hw'⟩ := hC.round (i := 0) h hw
      exact ih hps hw'

/-- Edits that keep a contract keep it in turns as well: each goes on with answers that the others have left right. -/
theorem Edit.Keeps.runTogether {edits : List (Edit α)} (h : ∀ e ∈ edits, e.Keeps C Q) (hC : C.Served I) {s : Store}
    (hs : I s) : I (Edit.runTogether edits s).2 := by
  unfold Edit.runTogether
  refine hC.rounds (Q := fun r => ∀ a, r = Except.ok a → Q a) (w := (s, .empty)) _ (fun p hp => ?_) hs
  obtain ⟨e, he, rfl⟩ := List.mem_map.1 hp
  exact h e he

end GatedFlow
