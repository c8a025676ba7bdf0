import GatedFlow.Proofs.Run.Frontier
import GatedFlow.Proofs.Run.Stops

/-! # Runs that are refused

A run is refused in two places. Resuming a thread whose request is rejected ends the run and leaves nothing of it behind
(`prepare_refused`); a run that waits at a gate ends when its wait answers anything but an approval, and leaves the world
as the wait left it (`drive_refused`). -/

namespace GatedFlow

/-- A status that a thread's stored state has room for is this one. -/
def Marked (schema? : Option Schema) (snapshots : Record State) (thread status : String) : Prop :=
  ∀ st, snapshots.get? thread = some st → Edit.supportsStatus schema? st = true → st.status? = some status

theorem Edit.setStatus_marks {schema? : Option Schema} {s : Store} {thread : String} (status : String) :
    (setStatus schema? thread status).Does s False fun _ m => Marked schema? m thread status := by
  refine (does_setStatus False.elim).mono fun b m h st hst hsupports => ?_
  obtain ⟨st₀, hst₀, hb, rfl⟩ := h
  split at hst
  · rw [Record.get?_insert, if_pos rfl, Option.some.injEq] at hst
    rw [← hst, State.status?, State.get?_set, if_pos rfl]
    rfl
  · rename_i hnot
    obtain rfl : st = st₀ := Option.some.inj (hst.symm.trans hst₀)
    rw [hb, hsupports] at hnot
    exact absurd rfl hnot

namespace Engine

variable {E : Engine} {c : Course} {thread node : String} {request : Request}

/-- A run that waited goes on after an approval, whose request it withdraws, and else ends with what the wait left. -/
theorem awaitDecision_spec : E.wp (awaitDecision thread node request) (fun tr r c' =>
    match r with
    | some (.ok none) => c' = (c.await E.rules request none).2.withDesk
        ((c.await E.rules request none).2.world.desk.cancelRequest thread).2
    | some (.ok (some outcome)) => ∃ status, c.await E.rules request none = (some (.ok status), c') ∧
        status ≠ .approved ∧ ⟨.await request none, some (.ok status), c⟩ ∈ tr ∧
        outcome = .rejected node (c'.world.desk.latest request)
    | _ => c' = (c.await E.rules request none).2) c := by
  unfold awaitDecision
  rw [wp_bind, wp_await]
  rcases hawait : c.await E.rules request none with ⟨_ | (e | status), c₁⟩
  · rfl
  · rfl
  dsimp only
  by_cases hstatus : status = .approved
  · subst hstatus
    rw [wp_bind, wp_cancelRequest]
    rfl
  · split
    · exact absurd rfl hstatus
    · rw [wp_bind, wp_latest]
      exact ⟨status, rfl, hstatus, List.mem_append_left _ (List.mem_singleton_self _), rfl⟩

/-- The end of a run that waited for a decision about a node and was refused. -/
structure Refused (E : Engine) (thread node : String) (r₀ request : Request) (tr : List RunMoment) (c c' : Course) : Prop where
  mode : E.config.mode = .wait
  asked : c.world.desk.Awaits thread node r₀
  answered : c.await E.rules r₀ none = (some (.ok request.status), c')
  moment : ⟨.await r₀ none, some (.ok request.status), c⟩ ∈ tr
  notApproved : request.status ≠ .approved
  found : c'.world.desk.request? r₀.record.id = some request

theorem gate_refused {s : State} {rest : List String} : E.wp (E.gate thread node s rest) (fun tr r c' =>
    ∀ node' request, r = some (.ok (some (.rejected node' request))) →
      ∃ d r₀, E.Refused thread node' r₀ request tr (c.withDesk d) c') c := by
  refine wp_gate (fun _ tr d _ _ => ?_) (fun _ tr d r₀ _ => ?_) fun hmode tr d r₀ hasked => ?_
  · rintro _ _ ⟨⟩
  · refine wp_mono pause_interrupts fun tr' r c' h node' request hr => ?_
    obtain ⟨-, h⟩ := h
    rcases r with _ | (e | outcome)
    · cases hr
    · cases hr
    · rw [(h outcome rfl).1] at hr
      cases hr
  · refine wp_mono awaitDecision_spec fun tr' r c' h node' request hr => ?_
    subst hr
    obtain ⟨status, hawait, hstatus, hmoment, houtcome⟩ := h
    obtain ⟨rfl, rfl⟩ := Outcome.rejected.inj houtcome
    -- the request that is read after the wait stands as the wait has answered
    have hfirst : ((c.withDesk d).await E.rules r₀ none).1 = some (.ok status) := by rw [hawait]
    obtain ⟨request, hfound, hrequest, -⟩ := World.decision?_eq_some_iff.1 (Course.await_decision hfirst)
    rw [hawait] at hfound
    have hlatest : c'.world.desk.latest r₀ = request := by
      rw [Desk.latest, hfound]
      rfl
    rw [hlatest]
    subst hrequest
    exact ⟨d, r₀, hmode, hasked.toAwaits, hawait, List.mem_append_right _ hmoment, hstatus, hfound⟩

/-- A run is refused at a gate at which it waits. -/
theorem drive_refused {I : Course → Prop} (hI : E.Kept thread I) (left : Nat) (frontier : List String)
    {approved : Option String} {visited : List String} (hc : I c) :
    E.wp (E.drive thread left frontier approved visited) (fun tr r c' =>
      ∀ node request, r = some (.ok (.rejected node request)) →
        ∃ c₀ d r₀, I c₀ ∧ E.Refused thread node r₀ request tr (c₀.withDesk d) c') c := by
  refine wp_mono (drive_ends hI left frontier hc) fun tr r c' h node request hr => ?_
  cases h with
  | between h hended =>
    obtain ⟨s, visited, houtcome⟩ := hended _ hr
    cases houtcome
  | @atGate tr₀ _ node' s rest c₀ _ h hgate =>
    subst hr
    obtain ⟨d, r₀, hrefused⟩ := (wp_iff_of_outcome hgate).1 gate_refused node request rfl
    exact ⟨c₀, d, r₀, h, { hrefused with moment := List.mem_append_right _ hrefused.moment }⟩

theorem claim_refused : E.wp (E.claim thread request) (fun _ r _ => r = some (.ok none) → request.status = .rejected) c := by
  unfold claim
  split
  · refine wp_edit_cases (Edit.does_loadForResume False.elim) (fun st s₁ _ _ => ?_) fun _ _ _ _ _ => ?_
    · refine wp_edit_cases (Edit.does_saveState False.elim) (fun _ s₂ _ _ => ?_) fun _ _ _ _ _ => ?_
      · rw [wp_bind]
        refine wp_mono (Q := fun _ _ _ => True) trivial fun tr r c' _ => ?_
        rcases r with _ | (e | u) <;> rintro ⟨⟩
      · rintro ⟨⟩
    · rintro ⟨⟩
  · rename_i hstatus
    exact fun _ => hstatus
  · rintro ⟨⟩

theorem settle_refused {kept? : Option (List String)} : E.wp (E.settle thread request kept?) (fun _ r c' =>
    ∀ outcome, r = some (.ok (.ended outcome)) → kept? = none ∧
      outcome = .rejected request.record.node (c'.world.desk.latest request) ∧
      c'.world.desk = (c.world.desk.cancelRequest thread).2 ∧
      Marked E.rules.schema c'.world.store.snapshots thread rejectedStatus) c := by
  cases kept? with
  | none =>
    refine wp_edit_cases (Edit.setStatus_marks rejectedStatus) (fun b s₁ _ hmarked => ?_) fun _ _ _ _ _ => ?_
    · rw [wp_bind, wp_cancelRequest]
      dsimp only
      rw [wp_bind, wp_latest]
      rintro _ ⟨⟩
      exact ⟨rfl, rfl, rfl, hmarked⟩
    · rintro _ ⟨⟩
  | some kept =>
    refine wp_edit_cases (Edit.setStatus_marks runningStatus) (fun b s₁ _ _ => ?_) fun _ _ _ _ _ => ?_
    · rw [wp_bind, wp_cancelRequest]
      rintro _ ⟨⟩
    · rintro _ ⟨⟩

/-- Where resuming a thread ends its run before any node, its request was rejected and is withdrawn, and the thread is
marked. -/
theorem prepare_refused : E.wp (E.prepare thread) (fun _ r c' => ∀ outcome, r = some (.ok (.ended outcome)) →
    ∃ request, c.world.desk.current? thread = some request ∧ request.status = .rejected ∧
      outcome = .rejected request.record.node (c'.world.desk.latest request) ∧
      c'.world.desk = (c.world.desk.cancelRequest thread).2 ∧
      Marked E.rules.schema c'.world.store.snapshots thread rejectedStatus) c := by
  refine wp_prepare (fun _ _ _ _ h => by cases h) fun _ request _ hcurrent => ?_
  rw [wp_bind]
  refine wp_mono (wp_and claim_refused ((edits_claim thread request).edits c)) fun tr r c₁ h => ?_
  obtain ⟨hstatus, hdesk, -⟩ := h
  rcases r with _ | (e | kept?)
  · rintro _ ⟨⟩
  · rintro _ ⟨⟩
  · refine wp_mono settle_refused fun tr' r c' h outcome hr => ?_
    obtain ⟨rfl, houtcome, hcancelled, hmarked⟩ := h _ hr
    exact ⟨request, hcurrent, hstatus rfl, houtcome, by rw [hcancelled, hdesk], hmarked⟩

end Engine

/-- A command that puts no frontier into the state of a thread. -/
def Command.Spares (rules : EditRules) (thread : String) (command : Command) : Prop :=
  ∀ w, pendingIn w.store.snapshots thread = none → pendingIn (command.run rules w).2.store.snapshots thread = none

/-- No frontier is kept for a thread, and only these commands are still to come. -/
structure Course.Unkept (thread : String) (commands : List Command) (c : Course) : Prop where
  pending : pendingIn c.world.store.snapshots thread = none
  agenda : ∀ a ∈ c.agenda, a.command ∈ commands

theorem Course.Unkept.await {rules : EditRules} {thread : String} {commands : List Command} {r : Request} {c : Course}
    (hcommands : ∀ command ∈ commands, command.Spares rules thread) (hc : c.Unkept thread commands) (limit : Option Nat) :
    (c.await rules r limit).2.Unkept thread commands where
  pending := Course.await_keeps (J := fun w => pendingIn w.store.snapshots thread = none)
    (fun a ha w hw => hcommands _ (hc.agenda a ha) w hw) (fun _ _ h => h) (fun _ h => h) hc.pending
  agenda a ha := hc.agenda a (Course.agenda_of_await ha)

namespace Engine

variable {E : Engine} {c : Course} {thread node : String} {commands : List Command}

theorem mergeUpdate_unkept {s : State} {update : Fields} (hupdate : update.get? pendingField = none)
    (hc : c.Unkept thread commands) :
    E.wp (E.mergeUpdate thread s update) (fun _ _ c' => c'.Unkept thread commands) c := by
  unfold mergeUpdate
  split
  · exact hc
  · have hdoes : (Edit.modify E.rules.schema thread update).Does c.world.store False _ := Edit.does_modify False.elim
    rw [← bind_pure (Run.ofEdit _)]
    refine wp_edit_cases hdoes (fun st store _ h => ⟨?_, hc.agenda⟩) fun p store _ h _ => ⟨?_, hc.agenda⟩
    · obtain ⟨s₀, hs₀, rfl, hsnapshots⟩ := h
      show pendingIn store.snapshots thread = none
      rw [hsnapshots, pendingIn_insert, ← hc.pending, pendingIn_of_get? hs₀]
      exact Record.get?_merge_of_none hupdate
    · exact (congrArg (pendingIn · thread) h).trans hc.pending

/-- A run whose nodes do not write the field for the frontier keeps it empty from gate to gate. -/
theorem kept_unkept (hupdates : ∀ node s update, E.graph.execute node s = .ok update → update.get? pendingField = none)
    (hcommands : E.config.mode = .wait → ∀ command ∈ commands, command.Spares E.rules thread) :
    E.Kept thread fun c => c.Unkept thread commands where
  load c hc := by
    have hload : E.wp (Run.ofEdit (Edit.loadState thread) >>= pure) (fun _ _ c' => c'.Unkept thread commands) c :=
      wp_edit_cases (Edit.does_loadState False.elim) (fun _ _ _ h => ⟨h.2 ▸ hc.pending, hc.agenda⟩)
        fun _ _ _ h _ => ⟨(congrArg (pendingIn · thread) h).trans hc.pending, hc.agenda⟩
    rw [bind_pure] at hload
    exact hload
  pass node s rest c hc := by
    refine wp_gate (fun _ _ _ _ _ _ => ⟨hc.pending, hc.agenda⟩) (fun _ _ d r₀ _ => ?_) fun hwait _ d r₀ _ => ?_
    · refine wp_mono pause_interrupts fun _ r _ _ hr => ?_
      rcases r with _ | (e | outcome) <;> cases hr
    · refine wp_mono awaitDecision_spec fun _ r c' h hr => ?_
      subst hr
      have hd : (c.withDesk d).Unkept thread commands := ⟨hc.pending, hc.agenda⟩
      have hawait := hd.await (r := r₀) (hcommands hwait) none
      dsimp only at h
      rw [h]
      exact ⟨hawait.pending, hawait.agenda⟩
  perform node s c hc := by
    unfold perform
    rw [wp_bind, wp_tell]
    dsimp only
    rw [wp_bind, wp_execute]
    rcases hexecute : E.graph.execute node s with e | update
    · exact ⟨hc.pending, hc.agenda⟩
    dsimp only
    rw [wp_bind]
    refine wp_mono (mergeUpdate_unkept (hupdates node s update hexecute) ⟨hc.pending, hc.agenda⟩) fun _ r c₁ h => ?_
    rcases r with _ | (e | s')
    · exact h
    · exact h
    dsimp only
    rw [wp_bind, wp_tell]
    dsimp only
    rw [wp_bind, wp_next]
    rcases E.graph.next node s' with e | targets
    · exact ⟨h.pending, h.agenda⟩
    · dsimp only
      rw [wp_bind, wp_tell]
      exact ⟨h.pending, h.agenda⟩

end Engine
end GatedFlow
