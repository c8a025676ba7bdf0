import GatedFlow.Proofs.Edits.Fields
import GatedFlow.Proofs.Run.Pause
import GatedFlow.Proofs.Session.Growth

/-! # What becomes of a kept frontier when calls fail

A frontier is kept in one field of the thread's stored state. Pausing puts it there with an edit of its own
(`gate_pending`), which may fail; resuming takes it out when the frontier is claimed, before the rest of what it has to do
(`prepare_pending`). Every other edit leaves the field alone, whether it ends well or not. -/

namespace GatedFlow

/-- What the stored state of a thread has in the field for the frontier. -/
def pendingIn (snapshots : Record State) (thread : String) : Option Value :=
  (snapshots.get? thread).bind (·.get? pendingField)

theorem pendingIn_of_get? {m : Record State} {thread : String} {st : State} (h : m.get? thread = some st) :
    pendingIn m thread = st.get? pendingField := storedIn_of_get? h

@[simp] theorem pendingIn_insert (m : Record State) (thread : String) (st : State) :
    pendingIn (m.insert thread st) thread = st.get? pendingField := storedIn_insert m thread st pendingField

theorem Edit.setStatus_pending {s : Store} {thread : String} {schema? : Option Schema} (status : String) :
    (setStatus schema? thread status).Does s False fun _ m => pendingIn m thread = pendingIn s.snapshots thread :=
  setStatus_storedIn status (by decide)

theorem Edit.deleteField_pending {s : Store} {thread : String} {schema? : Option Schema} :
    (deleteField schema? thread pendingField).Does s False fun _ m => pendingIn m thread = none :=
  (deleteField_storedIn pendingField).mono fun _ _ h => h.trans (if_pos rfl)

namespace Engine

variable {E : Engine} {c : Course} {thread node : String} {rest : List String} {request : Request}

/-- The edit by which a frontier is kept works on a store. -/
def Keeps (E : Engine) (thread : String) (frontier : List String) (s : Store) : Prop :=
  ∃ st, ((E.keep thread frontier).run s).1 = .ok st

theorem keep_pending (frontier : List String) {s : Store} : (E.keep thread frontier).Does s False fun _ m =>
    pendingIn m thread = some (frontierValue frontier) := by
  refine (Edit.does_modify False.elim).mono fun st' m h => ?_
  obtain ⟨st, -, rfl, rfl⟩ := h
  rw [pendingIn_insert]
  show (st.set pendingField (frontierValue frontier)).get? pendingField = _
  rw [State.get?_set, if_pos rfl]

/-- Pausing changes the field for the frontier only by the edit that keeps the frontier. -/
theorem pause_pending : E.wp (E.pause thread node rest request) (fun _ _ c' => c'.world.desk = c.world.desk ∧
    (E.Keeps thread (node :: rest) c.world.store →
      pendingIn c'.world.store.snapshots thread = some (frontierValue (node :: rest))) ∧
    (¬E.Keeps thread (node :: rest) c.world.store →
      pendingIn c'.world.store.snapshots thread = pendingIn c.world.store.snapshots thread)) c := by
  unfold pause
  refine wp_edit_cases (keep_pending (node :: rest)) (fun st s₁ hrun h₁ => ?_) fun p s₁ hrun h₁ _ => ?_
  · have hkeeps : E.Keeps thread (node :: rest) c.world.store := ⟨st, by rw [hrun]⟩
    refine wp_edit_cases (Edit.setStatus_pending pausedStatus) (fun b s₂ _ h₂ => ?_) fun p s₂ _ h₂ _ => ?_
    · exact ⟨rfl, fun _ => h₂.trans h₁, fun h => absurd hkeeps h⟩
    · exact ⟨rfl, fun _ => (congrArg (pendingIn · thread) h₂).trans h₁, fun h => absurd hkeeps h⟩
  · refine ⟨rfl, fun h => ?_, fun _ => congrArg (pendingIn · thread) h₁⟩
    obtain ⟨st, hst⟩ := h
    rw [hrun] at hst
    cases hst

/-- A run that pauses answers with its request, and keeps its frontier. -/
theorem pause_interrupts : E.wp (E.pause thread node rest request) (fun _ r c' => c'.world.desk = c.world.desk ∧
    ∀ outcome, r = some (.ok outcome) → outcome = .interrupted node (c.world.desk.latest request) ∧
      pendingIn c'.world.store.snapshots thread = some (frontierValue (node :: rest))) c := by
  unfold pause
  refine wp_edit_cases (keep_pending (node :: rest)) (fun st s₁ _ h₁ => ?_) fun p s₁ _ _ _ => ⟨rfl, ?_⟩
  · refine wp_edit_cases (Edit.setStatus_pending pausedStatus) (fun b s₂ _ h₂ => ?_) fun p s₂ _ _ _ => ⟨rfl, ?_⟩
    · rw [wp_bind, wp_latest]
      refine ⟨rfl, ?_⟩
      rintro _ ⟨⟩
      exact ⟨rfl, h₂.trans h₁⟩
    · rintro _ ⟨⟩
  · rintro _ ⟨⟩

/-- A run that stops before a node has made a request for it, the current one of the thread, and keeps its frontier if
the edit for that works. -/
theorem gate_pending {s : State} {reason : GateReason} (hmode : E.config.mode = .pause)
    (hreason : c.world.desk.policy.reason? s node = some reason) :
    E.wp (E.gate thread node s rest) (fun _ r c' => (∀ a, r = some (.ok a) → a.isSome) ∧
      (∃ request, c'.world.desk.Awaits thread node request ∧ request.record.id = c.world.desk.requests.length) ∧
      (E.Keeps thread (node :: rest) c.world.store →
        pendingIn c'.world.store.snapshots thread = some (frontierValue (node :: rest))) ∧
      (¬E.Keeps thread (node :: rest) c.world.store →
        pendingIn c'.world.store.snapshots thread = pendingIn c.world.store.snapshots thread)) c := by
  refine wp_gate_of_reason hmode hreason fun d request hawaits hid => ?_
  refine wp_mono (pause_pending (c := c.withDesk d)) fun tr r c' h asked _ => ?_
  obtain ⟨hdesk, hkeeps⟩ := h
  have hrequest : ∃ request, c'.world.desk.Awaits thread node request ∧
      request.record.id = c.world.desk.requests.length := ⟨request, by rw [hdesk]; exact hawaits, hid⟩
  refine ⟨fun a h => ?_, hrequest, hkeeps⟩
  rcases r with _ | (e | outcome) <;> cases h
  rfl

theorem drive_pending {s : State} {reason : GateReason} {left : Nat} {approved : Option String} {visited : List String}
    {store : Store} (hmode : E.config.mode = .pause) (happroved : approved ≠ some node)
    (hload : (Edit.loadState thread).run c.world.store = (.ok s, store))
    (hreason : c.world.desk.policy.reason? s node = some reason) :
    E.wp (E.drive thread left (node :: rest) approved visited) (fun _ _ c' =>
      (∃ request, c'.world.desk.Awaits thread node request ∧ request.record.id = c.world.desk.requests.length) ∧
      (E.Keeps thread (node :: rest) store →
        pendingIn c'.world.store.snapshots thread = some (frontierValue (node :: rest))) ∧
      (¬E.Keeps thread (node :: rest) store →
        pendingIn c'.world.store.snapshots thread = s.get? pendingField)) c := by
  unfold drive
  refine wp_edit_cases (Edit.does_loadState False.elim) (fun st s₁ hrun h₁ => ?_) fun p s₁ hrun _ _ => ?_
  · rw [hload] at hrun
    cases hrun
    obtain ⟨hstored, hsnapshots⟩ := h₁
    have hfree : (approved == some node) = false := beq_eq_false_iff_ne.2 happroved
    dsimp only
    rw [hfree, wp_bind]
    refine wp_mono (gate_pending (c := c.withStore store) hmode hreason) fun tr r c' h => ?_
    obtain ⟨hsome, hrequest, hkeeps, hfails⟩ := h
    have hfails : ¬E.Keeps thread (node :: rest) store →
        pendingIn c'.world.store.snapshots thread = s.get? pendingField := fun h => by
      rw [hfails h, Course.withStore_store, hsnapshots, pendingIn_of_get? hstored]
    rcases r with _ | (e | (_ | outcome))
    · exact ⟨hrequest, hkeeps, hfails⟩
    · exact ⟨hrequest, hkeeps, hfails⟩
    · cases hsome none rfl
    · exact ⟨hrequest, hkeeps, hfails⟩
  · rw [hload] at hrun
    cases hrun

theorem clearPending_pending : E.wp (E.clearPending thread) (fun _ r c' => match r with
    | some (.ok _) => pendingIn c'.world.store.snapshots thread = none
    | _ => pendingIn c'.world.store.snapshots thread = pendingIn c.world.store.snapshots thread) c := by
  unfold clearPending
  refine wp_edit_cases (Edit.does_loadState False.elim) (fun st s₁ _ h₁ => ?_) fun p s₁ _ h₁ _ =>
    congrArg (pendingIn · thread) h₁
  have hpending : pendingIn s₁.snapshots thread = st.get? pendingField := by rw [h₁.2, pendingIn_of_get? h₁.1]
  split
  · refine wp_edit_cases Edit.deleteField_pending (fun _ s₂ _ h₂ => h₂) fun p s₂ _ h₂ _ => ?_
    show pendingIn s₂.snapshots thread = _
    rw [h₂, Course.withStore_store, h₁.2]
  · rename_i hcontains
    show pendingIn s₁.snapshots thread = none
    rw [hpending]
    exact Option.not_isSome_iff_eq_none.1 hcontains

/-- What comes of a claim: the field for the frontier is empty and the answer was read from it, or the claim failed and
the field is as it was `before`. -/
def Claimed (thread : String) (before : Option Value) (r : Option (Except FlowError (Option (List String))))
    (c' : Course) : Prop :=
  match r with
  | some (.ok kept?) => pendingIn c'.world.store.snapshots thread = none ∧ ∀ kept, kept? = some kept → kept = keptOf before
  | _ => pendingIn c'.world.store.snapshots thread = before

theorem clearPending_claimed {before : Option Value} {kept? : Option (List String)}
    (hbefore : pendingIn c.world.store.snapshots thread = before)
    (hkept : ∀ kept, kept? = some kept → kept = keptOf before) :
    E.wp (E.clearPending thread >>= fun _ => pure kept?) (fun _ => Claimed thread before) c := by
  rw [wp_bind]
  refine wp_mono clearPending_pending fun tr r c' h => ?_
  rcases r with _ | (e | u)
  · exact h.trans hbefore
  · exact h.trans hbefore
  · exact ⟨h, hkept⟩

theorem claim_pending : E.wp (E.claim thread request)
    (fun _ => Claimed thread (pendingIn c.world.store.snapshots thread)) c := by
  unfold claim
  split
  · refine wp_edit_cases (Edit.does_loadForResume False.elim) (fun st s₁ _ h₁ => ?_) fun p s₁ _ h₁ _ =>
      congrArg (pendingIn · thread) h₁
    obtain ⟨st₀, hst₀, hmigrate, h₁⟩ := h₁
    -- neither the migration nor saving its result touches the field
    have hst : st.get? pendingField = pendingIn c.world.store.snapshots thread := by
      rw [Migrator.migrate_get? hmigrate (by decide), pendingIn_of_get? hst₀]
    refine wp_edit_cases (Edit.does_saveState False.elim) (fun _ s₂ _ h₂ => ?_) fun p s₂ _ h₂ _ => ?_
    · have h₂ : pendingIn s₂.snapshots thread = pendingIn c.world.store.snapshots thread := by
        rw [h₂, pendingIn_insert, hst]
      refine clearPending_claimed h₂ ?_
      rintro _ ⟨⟩
      rw [keptFrontier_eq, hst]
    · show pendingIn s₂.snapshots thread = _
      rw [h₂, Course.withStore_store, h₁]
  · refine clearPending_claimed rfl ?_
    rintro _ ⟨⟩
  · exact rfl

theorem settle_pending {kept? : Option (List String)} : E.wp (E.settle thread request kept?) (fun _ r c' =>
    pendingIn c'.world.store.snapshots thread = pendingIn c.world.store.snapshots thread ∧
    ∀ node' frontier, r = some (.ok (.ready node' frontier)) → node' = request.record.node ∧
      ∃ kept, kept? = some kept ∧ frontier = if kept.isEmpty then [node'] else kept) c := by
  cases kept? with
  | some kept =>
    refine wp_edit_cases (Edit.setStatus_pending runningStatus) (fun b s₁ _ h₁ => ?_) fun p s₁ _ h₁ _ => ?_
    · refine ⟨h₁, ?_⟩
      rintro _ _ ⟨⟩
      exact ⟨rfl, kept, rfl, rfl⟩
    · refine ⟨congrArg (pendingIn · thread) h₁, ?_⟩
      rintro _ _ ⟨⟩
  | none =>
    refine wp_edit_cases (Edit.setStatus_pending rejectedStatus) (fun b s₁ _ h₁ => ?_) fun p s₁ _ h₁ _ => ?_
    · refine ⟨h₁, ?_⟩
      rintro _ _ ⟨⟩
    · refine ⟨congrArg (pendingIn · thread) h₁, ?_⟩
      rintro _ _ ⟨⟩

/-- Resuming a thread gets as far as taking the kept frontier out of its state. -/
def Claims (E : Engine) (thread : String) (c : Course) : Prop := E.config.validate = .ok () ∧
  ∃ request kept?, c.world.desk.current? thread = some request ∧
    (E.outcome (E.claim thread request) c).1 = some (.ok kept?)

/-- Before any node, a resumed thread's kept frontier is taken out exactly if it is claimed, and a run that goes on goes
on with what was kept. -/
theorem prepare_pending : E.wp (E.prepare thread) (fun _ r c' =>
    (¬E.Claims thread c → pendingIn c'.world.store.snapshots thread = pendingIn c.world.store.snapshots thread) ∧
    (E.Claims thread c → pendingIn c'.world.store.snapshots thread = none) ∧
    ∀ node' frontier, r = some (.ok (.ready node' frontier)) → ∃ request kept,
      c.world.desk.current? thread = some request ∧ node' = request.record.node ∧
      kept = keptOf (pendingIn c.world.store.snapshots thread) ∧
      frontier = if kept.isEmpty then [node'] else kept) c := by
  refine wp_prepare (fun _ _ hnone => ⟨fun _ => rfl, fun h => ?_, fun _ _ h => by cases h⟩) fun _ request hvalid hcurrent => ?_
  · obtain ⟨hvalid, request, -, hcurrent, -⟩ := h
    exact absurd hcurrent (hnone request hvalid)
  have hclaims : E.Claims thread c ↔ ∃ kept?, (E.outcome (E.claim thread request) c).1 = some (.ok kept?) := by
    constructor
    · rintro ⟨-, request', kept?, hrequest, hclaim⟩
      rw [hcurrent, Option.some.injEq] at hrequest
      exact ⟨kept?, hrequest ▸ hclaim⟩
    · rintro ⟨kept?, hclaim⟩
      exact ⟨hvalid, request, kept?, hcurrent, hclaim⟩
  rw [wp_bind]
  have hended : E.wp (E.claim thread request) (fun _ r _ => r = (E.outcome (E.claim thread request) c).1) c := rfl
  refine wp_mono (wp_and claim_pending hended) fun tr r c₁ h => ?_
  obtain ⟨h, hr⟩ := h
  rw [← hr] at hclaims
  rcases r with _ | (e | kept?)
  · refine ⟨fun _ => h, fun hc => ?_, fun _ _ h => (by cases h)⟩
    obtain ⟨_, hok⟩ := hclaims.1 hc
    cases hok
  · refine ⟨fun _ => h, fun hc => ?_, fun _ _ h => (by cases h)⟩
    obtain ⟨_, hok⟩ := hclaims.1 hc
    cases hok
  obtain ⟨hnone, hkept⟩ := h
  refine wp_mono settle_pending fun tr' r c' h => ?_
  obtain ⟨hpending, hready⟩ := h
  refine ⟨fun hc => absurd (hclaims.2 ⟨kept?, rfl⟩) hc, fun _ => hpending.trans hnone, fun node' frontier hr => ?_⟩
  obtain ⟨hnode, kept, hsome, hfrontier⟩ := hready node' frontier hr
  exact ⟨request, kept, hcurrent, hnode, hkept kept hsome, hfrontier⟩

/-- Once a thread is resumed no frontier is kept. -/
theorem prepare_cleared : E.wp (E.prepare thread) (fun _ r c' => ∀ resumption, r = some (.ok resumption) →
    pendingIn c'.world.store.snapshots thread = none) c := by
  refine wp_prepare (fun _ _ _ _ h => by cases h) fun _ request _ _ => ?_
  refine wp_bind_of_ok claim_pending fun _ kept? c₁ h => ?_
  exact wp_mono settle_pending fun _ r c' h' _ _ => h'.1.trans h.1

end Engine
end GatedFlow
