import GatedFlow.Proofs.Edits.Version
import GatedFlow.Proofs.Run.Frontier
import GatedFlow.Proofs.Run.Rounds

/-! # What runs fail with

A run that is refused before it does anything fails with one of the errors of `FlowError.refuses`, and nothing has been
written (`seed_refused`, `prepare_refused_unwritten`). No part of a run that comes later fails with such an error
(`drive_fails`). Apart from that, what precedes the nodes fails only for the store, and so does pausing (`prepare_fails`,
`pause_fails`). -/

namespace GatedFlow

/-- Whether an error says that a run is not begun or taken up: there is no request or it is not approved, the stored state
is of another version, or the configuration is invalid. -/
def FlowError.refuses : FlowError → Bool
  | noRequest _ => true
  | approval (.notApproved ..) => true
  | store (.version _) => true
  | config _ => true
  | _ => false

/-- An error of the store, but no complaint about a version. -/
def FlowError.OfStore (e : FlowError) : Prop := ∃ p, e = .store p ∧ ∀ v, p ≠ .version v

theorem FlowError.OfStore.refuses {e : FlowError} (h : e.OfStore) : e.refuses = false := by
  obtain ⟨p, rfl, hp⟩ := h
  cases p with
  | version v => exact absurd rfl (hp v)
  | _ => rfl

/-- Nothing was written to a store. -/
structure Store.Unwritten (s s' : Store) : Prop where
  snapshots : s'.snapshots = s.snapshots
  ledgers : s'.ledgers = s.ledgers

theorem Store.Unwritten.refl (s : Store) : s.Unwritten s := ⟨rfl, rfl⟩

theorem Graph.refuses_of_execute {g : Graph} {node : String} {s : State} {e : FlowError} (h : g.execute node s = .error e) :
    e.refuses = false := by
  unfold execute at h
  split at h
  · cases h
    rfl
  · rename_i n _
    cases haction : n.action s with
    | ok update => rw [haction] at h; cases h
    | error text => rw [haction] at h; cases h; rfl

theorem Graph.refuses_of_next {g : Graph} {node : String} {s : State} {e : FlowError} (h : g.next node s = .error e) :
    e.refuses = false := by
  unfold next traversable outgoing require at h
  split at h
  · split at h <;> cases h
  · cases h
    rfl

namespace Engine

variable {E : Engine} {α β : Type} {P : FlowError → Prop} {thread node : String}

/-- Every error that a run may end with is of this kind. -/
def Fails (E : Engine) (P : FlowError → Prop) (p : Run α) : Prop :=
  ∀ c, E.wp p (fun _ r _ => ∀ e, r = some (.error e) → P e) c

namespace Fails

theorem mono {P' : FlowError → Prop} {p : Run α} (h : E.Fails P p) (hP : ∀ e, P e → P' e) : E.Fails P' p :=
  fun c => wp_mono (h c) fun _ _ _ h e he => hP e (h e he)

theorem bind {p : Run α} {f : α → Run β} (h : E.Fails P p) (hf : ∀ a, E.Fails P (f a)) : E.Fails P (p >>= f) := by
  intro c
  rw [wp_bind]
  refine wp_mono (h c) fun tr r c' h => ?_
  rcases r with _ | (e | a)
  · rintro _ ⟨⟩
  · rintro _ ⟨⟩
    exact h e rfl
  · exact hf a c'

theorem pure (a : α) : E.Fails P (pure a) := by
  intro c e h
  cases h

theorem throw {e : FlowError} (h : P e) : E.Fails P (throw e : Run α) := by
  rintro c _ ⟨⟩
  exact h

theorem ofExcept {r : Except FlowError α} (h : ∀ e, r = .error e → P e) : E.Fails P (Run.ofExcept r) := by
  intro c e he
  exact h e (Option.some.inj he)

theorem ofCall (call : RunCall α) : E.Fails P (Run.ofCall call) := by
  intro c e he
  change (Program.runWhile _ (.ask call _) c).1 = _ at he
  rw [Program.runWhile] at he
  split at he <;> cases he

theorem ofEdit {e : Edit α} (h : e.Unversioned) : E.Fails FlowError.OfStore (Run.ofEdit e) := by
  intro c
  rw [wp_ofEdit]
  have hresult := h c.world.store
  generalize (e.run c.world.store).1 = result at hresult
  rcases result with p | a
  · rintro _ ⟨⟩
    exact ⟨p, rfl, fun v hv => hresult v (congrArg _ hv)⟩
  · rintro _ ⟨⟩

/-- Where only the store can fail, a run is not refused any more. -/
theorem not_refused {p : Run α} {R : Course → Prop} (h : E.Fails FlowError.OfStore p) (c : Course) :
    E.wp p (fun _ r c' => ∀ e, r = some (.error e) → e.refuses = true → R c') c := by
  refine wp_mono (h c) fun _ _ _ h e he hrefuses => ?_
  rw [(h e he).refuses] at hrefuses
  cases hrefuses

theorem ofEdit_cases (e : Edit α) : E.Fails (fun e => e.OfStore ∨ e.refuses = true) (Run.ofEdit e) := by
  intro c
  rw [wp_ofEdit]
  generalize (e.run c.world.store).1 = result
  rcases result with p | a
  · rintro _ ⟨⟩
    by_cases h : ∃ v, p = .version v
    · obtain ⟨v, rfl⟩ := h
      exact .inr rfl
    · exact .inl ⟨p, rfl, fun v hv => h ⟨v, hv⟩⟩
  · rintro _ ⟨⟩

theorem ofTry {call : RunCall (Except FlowError α)} (h : ∀ c e, (call.answer E.rules E.registry c).1 = some (.error e) → P e) :
    E.Fails P (Run.ofTry call) := by
  intro c e he
  change (Program.runWhile _ (.ask call _) c).1 = _ at he
  rw [Program.runWhile] at he
  split at he
  · rename_i r s hanswer
    cases he
    exact h c e (by rw [hanswer])
  · cases he

end Fails

theorem binds_fails : Binds fun p => E.Fails P p := ⟨Fails.pure, Fails.bind⟩

theorem clearPending_fails : E.Fails FlowError.OfStore (E.clearPending thread) :=
  binds_fails.clearPending (.ofEdit (.ofCall _)) (.ofEdit (.deleteField _ _ _))

theorem settle_fails (request : Request) (kept? : Option (List String)) :
    E.Fails FlowError.OfStore (E.settle thread request kept?) :=
  binds_fails.settle (fun _ => .ofEdit (.setStatus _ _ _)) (.ofCall _) (.ofCall _)

theorem pause_fails (rest : List String) (request : Request) :
    E.Fails FlowError.OfStore (E.pause thread node rest request) :=
  binds_fails.pause (.ofEdit (.modify _ _ _)) (.ofEdit (.setStatus _ _ _)) (.ofCall _)

/-- At a gate a run may fail for the store or because it has waited too long. -/
theorem gate_fails (thread node : String) (s : State) (rest : List String) :
    E.Fails (fun e => e.refuses = false) (E.gate thread node s rest) := by
  refine binds_fails.gate (.ofCall _) (fun _ => .ofCall _)
    (fun request => (pause_fails rest request).mono fun _ h => h.refuses) fun request => ?_
  refine binds_fails.awaitDecision (.ofTry fun c e he => ?_) (.ofCall _) (.ofCall _)
  obtain ⟨ms, rfl⟩ := Course.eq_of_await he
  rfl

/-- A node that is carried out may fail in many ways, but it is too late to refuse the run. -/
theorem perform_fails (thread node : String) (s : State) : E.Fails (fun e => e.refuses = false) (E.perform thread node s) :=
  binds_fails.perform (fun _ => .ofCall _) (.ofTry fun _ _ he => Graph.refuses_of_execute (Option.some.inj he))
    (fun _ => (Fails.ofEdit (.modify _ _ _)).mono fun _ h => h.refuses)
    fun _ => .ofTry fun _ _ he => Graph.refuses_of_next (Option.some.inj he)

theorem Rounds.fails {left : Nat} {frontier visited : List String}
    {approved : Option String} {c c' : Course} {tr : List RunMoment} {r : Option (Except FlowError Outcome)}
    (h : E.Rounds thread left frontier approved visited c tr r c') : ∀ e, r = some (.error e) → e.refuses = false := by
  induction h with
  | @unread left frontier visited approved c p store hload =>
    rintro _ ⟨⟩
    have hload' := Edit.Unversioned.ofCall (.load thread) c.world.store
    cases p with
    | version v => exact absurd (congrArg Prod.fst hload) (hload' v)
    | _ => rfl
  | completed => rintro _ ⟨⟩
  | @stopped left node rest visited approved c c' s store r _ _ hgate =>
    rintro e rfl
    exact (wp_iff_of_outcome hgate).1 (gate_fails thread node s rest (c.withStore store)) e rfl
  | exhausted =>
    rintro _ ⟨⟩
    rfl
  | @broken left node rest visited approved c c₁ c' s tr e? _ hperform =>
    intro e he
    refine (wp_iff_of_outcome hperform).1 (perform_fails thread node s c₁) e ?_
    cases e? <;> cases he
    rfl
  | round _ _ _ ih => exact ih

/-- A run that has come to its nodes is not refused any more. -/
theorem drive_fails (left : Nat) (frontier : List String) (approved : Option String)
    (visited : List String) : E.Fails (fun e => e.refuses = false) (E.drive thread left frontier approved visited) :=
  fun c => wp_mono (drive_rounds left frontier approved visited c) fun _ _ _ h => h.fails

theorem checkConfig_fails : E.Fails (fun e => e.OfStore ∨ e.refuses = true) E.checkConfig := by
  refine .ofExcept fun e he => .inr ?_
  generalize E.config.validate = r at he
  cases r <;> cases he
  rfl

theorem seed_fails (thread : String) (initial : State) :
    E.Fails (fun e => e.OfStore ∨ e.refuses = true) (E.seed thread initial) :=
  checkConfig_fails.bind fun _ => (Fails.ofEdit (.saveState _ _ _)).mono fun _ h => .inl h

theorem claim_fails (thread : String) (request : Request) :
    E.Fails (fun e => e.OfStore ∨ e.refuses = true) (E.claim thread request) := by
  have hclear : E.Fails (fun e => e.OfStore ∨ e.refuses = true) (E.clearPending thread) :=
    clearPending_fails.mono fun _ h => .inl h
  unfold claim
  split
  · exact (Fails.ofEdit_cases _).bind fun s => (Fails.ofEdit_cases _).bind fun _ => hclear.bind fun _ => .pure _
  · exact hclear.bind fun _ => .pure _
  · exact .throw (.inr rfl)

theorem prepare_fails (thread : String) : E.Fails (fun e => e.OfStore ∨ e.refuses = true) (E.prepare thread) := by
  refine checkConfig_fails.bind fun _ => (Fails.ofCall _).bind fun request? => ?_
  split
  · exact .throw (.inr rfl)
  · exact (claim_fails _ _).bind fun kept? => (settle_fails _ kept?).mono fun _ h => .inl h

/-- A new run that is refused has written nothing. -/
theorem seed_refused (thread : String) (initial : State) (c : Course) : E.wp (E.seed thread initial) (fun _ r c' =>
    ∀ e, r = some (.error e) → e.refuses = true → c.world.store.Unwritten c'.world.store) c := by
  unfold seed
  rw [wp_bind, checkConfig, wp_ofExcept]
  rcases E.config.validate with p | u
  · exact fun _ _ _ => .refl _
  exact (Fails.ofEdit (.saveState _ _ _)).not_refused c

theorem claim_refused_unwritten (thread : String) (request : Request) (c : Course) :
    E.wp (E.claim thread request) (fun _ r c' =>
      ∀ e, r = some (.error e) → e.refuses = true → c.world.store.Unwritten c'.world.store) c := by
  unfold claim
  split
  · rw [wp_bind, wp_ofEdit]
    have hreads := Edit.loadForResume_reads E.rules.migrator thread E.config.version c.world.store
    rcases hrun : (Edit.loadForResume E.rules.migrator thread E.config.version).run c.world.store with ⟨p | s, store⟩
    · rw [hrun] at hreads
      exact fun _ _ _ => ⟨hreads.1, hreads.2⟩
    · exact ((Fails.ofEdit (.saveState _ _ _)).bind fun _ => clearPending_fails.bind fun _ => .pure _).not_refused _
  · exact (clearPending_fails.bind fun _ => .pure _).not_refused c
  · exact fun _ _ _ => .refl _

/-- Resuming a thread that is refused has written nothing. -/
theorem prepare_refused_unwritten (thread : String) (c : Course) : E.wp (E.prepare thread) (fun _ r c' =>
    ∀ e, r = some (.error e) → e.refuses = true → c.world.store.Unwritten c'.world.store) c := by
  refine wp_prepare (fun _ _ _ _ _ _ => .refl _) fun _ request _ _ => ?_
  rw [wp_bind]
  refine wp_mono (claim_refused_unwritten thread request c) fun tr r c₁ h => ?_
  rcases r with _ | (e | kept?)
  · rintro _ ⟨⟩
  · rintro _ ⟨⟩ hrefuses
    exact h e rfl hrefuses
  · exact (settle_fails request kept?).not_refused c₁

end Engine
end GatedFlow
