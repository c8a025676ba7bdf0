import GatedFlow.Proofs.Run.Failures
import GatedFlow.Proofs.State.Version
import Mathlib

/-! # The version of a state that is resumed

Under the strict migrator, what resuming does before any node leaves the stored version alone or stamps a state whose
version is no string, at each of its steps (`Engine.Stamps`). What is saved is what the migrator made of the state that was
loaded, so a run that comes to its nodes comes to a state of the wanted version (`prepare_wanted`). A resumed run that is
refused for a version has done nothing (`Engine.RefusedFor`). -/

namespace GatedFlow

/-- The version that the stored state of a thread names. -/
def versionIn (snapshots : Record State) (thread : String) : Option Value := storedIn snapshots thread versionField

/-- What loading a thread's state for a resumed run comes to where the store holds the state and does not fail. -/
theorem Edit.loadForResume_eq {migrator : Migrator} {thread version : String} {s : Store} {st : State} (hs : s.Holds thread st) :
    ((loadForResume migrator thread version).run s).1 = (migrator.migrate st version).mapError .version := by
  have hload : ((loadState thread).run s).1 = .ok st := by
    have hdoes : (loadState thread).Does s True _ := does_loadState fun _ => by rw [hs.stored]; rfl
    unfold Does at hdoes
    rcases hrun : (loadState thread).run s with ⟨p | st', s'⟩
    · rw [hrun] at hdoes
      exact absurd ⟨hs.reliable, trivial⟩ hdoes.2
    · rw [hrun] at hdoes
      obtain rfl : st = st' := by
        have hstored := hdoes.1
        rwa [hs.stored, Option.some.injEq] at hstored
      rfl
  rw [loadForResume, run_bind]
  rcases hrun : (loadState thread).run s with ⟨p | st', s'⟩
  · rw [hrun] at hload
    cases hload
  · rw [hrun] at hload
    cases hload
    rfl

theorem Edit.foreign_of_loadForResume {migrator : Migrator} {thread version : String} {s : Store} {p : VersionProblem}
    (h : ((loadForResume migrator thread version).run s).1 = .error (.version p)) :
    ∃ st, s.snapshots.get? thread = some st ∧ migrator.migrate st version = .error p := by
  have hdoes : (loadState thread).Does s False _ := does_loadState False.elim
  have hload := Unversioned.ofCall (.load thread) s
  change ∀ p, ((loadState thread).run s).1 ≠ .error (.version p) at hload
  unfold Does at hdoes
  rw [loadForResume, run_bind] at h
  rcases hrun : (loadState thread).run s with ⟨q | st, s'⟩
  · rw [hrun] at h hload
    exact absurd h (hload p)
  · rw [hrun] at h hdoes
    refine ⟨st, hdoes.1, ?_⟩
    change (migrator.migrate st version).mapError StoreError.version = _ at h
    cases hmigrate : migrator.migrate st version with
    | ok st' =>
      rw [hmigrate] at h
      cases h
    | error q =>
      rw [hmigrate] at h
      cases h
      rfl

namespace Engine

variable {α β : Type} {E : Engine} {c : Course} {thread : String} {request : Request}

/-- At each of its moments and in the end, a part of a run has left the stored version of a thread alone or has stamped
the state. -/
def Stamps (E : Engine) (thread : String) (p : Run α) (c : Course) : Prop :=
  E.wp p (fun tr _ c' =>
    (∀ m ∈ tr, Stamped E.config.version (versionIn c.world.store.snapshots thread)
      (versionIn m.before.world.store.snapshots thread)) ∧
    Stamped E.config.version (versionIn c.world.store.snapshots thread) (versionIn c'.world.store.snapshots thread)) c

namespace Stamps

theorem pure (a : α) : E.Stamps thread (pure a) c := ⟨fun _ h => (by cases h), .refl _⟩

theorem throw (e : FlowError) : E.Stamps thread (throw e : Run α) c := ⟨fun _ h => (by cases h), .refl _⟩

theorem ofExcept (r : Except FlowError α) : E.Stamps thread (Run.ofExcept r) c := ⟨fun _ h => (by cases h), .refl _⟩

theorem ofEdit {e : Edit α} (h : e.Does c.world.store False fun _ m =>
      Stamped E.config.version (versionIn c.world.store.snapshots thread) (versionIn m thread)) :
    E.Stamps thread (Run.ofEdit e) c := by
  have hmoments : ∀ r, ∀ m ∈ [(⟨.edit e, r, c⟩ : RunMoment)], Stamped E.config.version
      (versionIn c.world.store.snapshots thread) (versionIn m.before.world.store.snapshots thread) := by
    intro r m hm
    rw [List.mem_singleton.1 hm]
    exact .refl _
  refine wp_edit h (fun a s' _ hstamped => ⟨hmoments _, hstamped⟩) fun p s' _ hstore _ => ⟨hmoments _, ?_⟩
  exact .inl (congrArg (versionIn · thread) hstore)

theorem ofCall {call : RunCall α} (h : (call.answer E.rules E.registry c).2.world.store = c.world.store) :
    E.Stamps thread (Run.ofCall call) c := by
  have hend : (Program.runWhile (RunCall.answer E.rules E.registry) (ExceptT.run (Run.ofCall call)) c).2.world.store =
      c.world.store := by
    change (Program.runWhile _ (.ask call _) c).2.world.store = _
    rw [Program.runWhile]
    split <;> rename_i hanswer <;> rw [hanswer] at h <;> exact h
  refine ⟨fun m hm => ?_, .inl (congrArg (fun s => versionIn s.snapshots thread) hend)⟩
  change m ∈ Program.trace _ (.ask call _) c at hm
  simp only [Program.trace] at hm
  split at hm <;> rw [List.mem_singleton.1 hm] <;> exact .refl _

/-- The second part of a sequence begins with the version that the first part has left. -/
theorem bind_at {p : Run α} {f : α → Run β} (hp : E.Stamps thread p c)
    (hf : E.wp p (fun _ r c₁ => ∀ a, r = some (.ok a) → E.Stamps thread (f a) c₁) c) : E.Stamps thread (p >>= f) c := by
  rw [Stamps, wp_bind]
  refine wp_mono (wp_and hp hf) fun tr r c₁ h => ?_
  obtain ⟨⟨hmoments, hend⟩, hf⟩ := h
  rcases r with _ | (e | a)
  · exact ⟨hmoments, hend⟩
  · exact ⟨hmoments, hend⟩
  · refine wp_mono (hf a rfl) fun tr' r' c' h => ?_
    obtain ⟨hmoments', hend'⟩ := h
    refine ⟨fun m hm => ?_, hend.trans hend'⟩
    rcases List.mem_append.1 hm with hm | hm
    · exact hmoments m hm
    · exact hend.trans (hmoments' m hm)

theorem bind {p : Run α} {f : α → Run β} (hp : E.Stamps thread p c) (hf : ∀ a c, E.Stamps thread (f a) c) :
    E.Stamps thread (p >>= f) c :=
  hp.bind_at fun a _ => hf a _

end Stamps

theorem composes_stamps : Composes fun p => ∀ c, E.Stamps thread p c where
  ofExcept r _ := .ofExcept r
  bind hp hf c := (hp c).bind hf

theorem clearPending_stamps : E.Stamps thread (E.clearPending thread) c := by
  refine composes_stamps.binds.clearPending (fun c => ?_) (fun c => ?_) c
  · exact .ofEdit ((Edit.does_loadState False.elim).mono fun _ m h => .inl (congrArg (versionIn · thread) h.2))
  · have hdoes : (Edit.deleteField E.rules.schema thread pendingField).Does c.world.store False fun _ m =>
        versionIn m thread = if pendingField = versionField then none else versionIn c.world.store.snapshots thread :=
      Edit.deleteField_storedIn pendingField
    exact .ofEdit (hdoes.mono fun _ m h => .inl (h.trans (if_neg (by decide))))

theorem settle_stamps {kept? : Option (List String)} : E.Stamps thread (E.settle thread request kept?) c := by
  refine composes_stamps.binds.settle (fun status c => ?_) (fun _ => .ofCall rfl) (fun _ => .ofCall rfl) c
  exact .ofEdit ((Edit.setStatus_storedIn status (by decide)).mono fun _ m h => .inl h)

/-- A claim saves what the migrator made of the stored state, and nothing has changed that state in between. -/
theorem claim_stamps (hstrict : E.rules.migrator = .strict) : E.Stamps thread (E.claim thread request) c := by
  unfold claim
  split
  · have hload : (Edit.loadForResume E.rules.migrator thread E.config.version).Does c.world.store False _ :=
      Edit.does_loadForResume False.elim
    refine .bind_at (.ofEdit (hload.mono fun st m h => ?_)) (wp_edit hload (fun st store _ h => ?_) fun p store _ _ _ => ?_)
    · obtain ⟨-, -, -, hm⟩ := h
      exact .inl (congrArg (versionIn · thread) hm)
    · rintro _ ⟨⟩
      obtain ⟨st₀, hst₀, hmigrate, hstore⟩ := h
      rw [hstrict] at hmigrate
      have hbefore : versionIn store.snapshots thread = st₀.get? versionField := by
        rw [hstore]
        exact storedIn_of_get? hst₀
      refine .bind (.ofEdit ((Edit.does_saveState False.elim).mono fun _ m hm => ?_)) fun _ _ =>
        clearPending_stamps.bind fun _ _ => .pure _
      show Stamped _ (versionIn store.snapshots thread) _
      rw [hbefore, hm, versionIn, storedIn_insert]
      exact Migrator.strict_stamped hmigrate
    · rintro _ ⟨⟩
  · exact clearPending_stamps.bind fun _ _ => .pure _
  · exact .throw _

theorem prepare_stamps (hstrict : E.rules.migrator = .strict) : E.Stamps thread (E.prepare thread) c :=
  composes_stamps.prepare (fun _ => .ofCall rfl) (fun _ _ => claim_stamps hstrict) (fun _ _ _ => settle_stamps) c

/-- A part of a run that leaves the version alone leaves the one wanted. -/
theorem Stamps.kept {p : Run α} (h : E.Stamps thread p c)
    (hversion : versionIn c.world.store.snapshots thread = some (.string E.config.version)) :
    E.wp p (fun _ _ c' => versionIn c'.world.store.snapshots thread = some (.string E.config.version)) c := by
  refine wp_mono h fun _ _ c' h => ?_
  obtain ⟨-, hend⟩ := h
  rw [hversion] at hend
  exact hend.eq_of_string

/-- A frontier that was claimed is that of a state of the wanted version. -/
theorem claim_wanted (hstrict : E.rules.migrator = .strict) : E.wp (E.claim thread request) (fun _ r c' =>
    ∀ kept, r = some (.ok (some kept)) →
      versionIn c'.world.store.snapshots thread = some (.string E.config.version)) c := by
  unfold claim
  split
  · refine wp_edit_cases (Edit.does_loadForResume False.elim) (fun st s₁ _ h₁ => ?_) fun _ _ _ _ _ _ h => by cases h
    obtain ⟨st₀, -, hmigrate, -⟩ := h₁
    rw [hstrict] at hmigrate
    refine wp_edit_cases (Edit.does_saveState False.elim) (fun _ s₂ _ h₂ => ?_) fun _ _ _ _ _ _ h => by cases h
    have hsaved : versionIn s₂.snapshots thread = some (.string E.config.version) := by
      rw [h₂, versionIn, storedIn_insert]
      exact Migrator.strict_version hmigrate
    refine wp_mono (Stamps.kept ?_ hsaved) fun _ _ _ h _ _ => h
    exact clearPending_stamps.bind fun _ _ => .pure _
  · rw [wp_bind]
    refine wp_mono (Q := fun _ _ _ => True) trivial fun _ r c₁ _ => ?_
    rcases r with _ | (e | u)
    · rintro _ ⟨⟩
    · rintro _ ⟨⟩
    · rintro _ ⟨⟩
  · rintro _ ⟨⟩

/-- A run that comes to its nodes comes to a state of the wanted version. -/
theorem prepare_wanted (hstrict : E.rules.migrator = .strict) : E.wp (E.prepare thread) (fun _ r c' =>
    ∀ node frontier, r = some (.ok (.ready node frontier)) →
      versionIn c'.world.store.snapshots thread = some (.string E.config.version)) c := by
  refine wp_prepare (fun _ _ _ _ _ h => by cases h) fun _ request _ _ => ?_
  rw [wp_bind]
  refine wp_mono (claim_wanted hstrict) fun _ r c₁ h => ?_
  rcases r with _ | (e | kept?)
  · rintro _ _ ⟨⟩
  · rintro _ _ ⟨⟩
  · cases kept? with
    | some kept => exact wp_mono (settle_stamps.kept (h kept rfl)) fun _ _ _ h _ _ _ => h
    | none =>
      refine wp_mono settle_pending fun _ r c' h => ?_
      intro node frontier hr
      obtain ⟨-, kept, hkept, -⟩ := h.2 node frontier hr
      cases hkept

/-- A resumed run was refused for the version of its state, and nothing has come of it: the approved request and all that
is stored are still there. -/
structure RefusedFor (E : Engine) (thread : String) (p : VersionProblem) (c c' : Course) : Prop where
  wanted : p.wanted = E.config.version
  found : versionIn c.world.store.snapshots thread = some (.string p.found)
  other : p.found ≠ E.config.version
  approved : ∃ request, c.world.desk.current? thread = some request ∧ request.status = .approved
  unwritten : c.world.store.Unwritten c'.world.store
  desk : c'.world.desk = c.world.desk

theorem Fails.not_version {p : Run α} {Q : VersionProblem → Course → Prop} (h : E.Fails FlowError.OfStore p) (c : Course) :
    E.wp p (fun _ r c' => ∀ v, r = some (.error (.store (.version v))) → Q v c') c := by
  refine wp_mono (h c) fun _ _ _ h v hv => ?_
  obtain ⟨p, heq, hp⟩ := h _ hv
  cases heq
  exact absurd rfl (hp v)

theorem claim_refusedFor (hstrict : E.rules.migrator = .strict)
    (hcurrent : c.world.desk.current? thread = some request) : E.wp (E.claim thread request) (fun _ r c' =>
      ∀ p, r = some (.error (.store (.version p))) → E.RefusedFor thread p c c') c := by
  unfold claim
  split
  · rename_i hstatus
    rw [wp_bind, wp_ofEdit]
    have hreads := Edit.loadForResume_reads E.rules.migrator thread E.config.version c.world.store
    have hforeign := @Edit.foreign_of_loadForResume E.rules.migrator thread E.config.version c.world.store
    rcases hrun : (Edit.loadForResume E.rules.migrator thread E.config.version).run c.world.store with ⟨q | st, store⟩
    · rintro p ⟨⟩
      rw [hrun] at hreads hforeign
      obtain ⟨st, hst, hmigrate⟩ := hforeign rfl
      rw [hstrict] at hmigrate
      obtain ⟨hfound, hother, hwanted⟩ := Migrator.strict_error_iff.1 hmigrate
      exact ⟨hwanted, (storedIn_of_get? hst).trans hfound, hother, ⟨request, hcurrent, hstatus⟩,
        ⟨hreads.1, hreads.2⟩, rfl⟩
    · exact ((Fails.ofEdit (.saveState _ _ _)).bind fun _ => clearPending_fails.bind fun _ => .pure _).not_version _
  · exact (clearPending_fails.bind fun _ => .pure _).not_version c
  · rintro _ ⟨⟩

theorem prepare_refusedFor (hstrict : E.rules.migrator = .strict) : E.wp (E.prepare thread) (fun _ r c' =>
    ∀ p, r = some (.error (.store (.version p))) → E.RefusedFor thread p c c') c := by
  unfold prepare
  rw [wp_bind, checkConfig, wp_ofExcept]
  rcases E.config.validate with p | u
  · rintro _ ⟨⟩
  show E.wp _ _ c
  rw [wp_bind, wp_currentRequest]
  rcases hcurrent : c.world.desk.current? thread with _ | request
  · rintro _ ⟨⟩
  dsimp only
  rw [wp_bind]
  refine wp_mono (claim_refusedFor hstrict hcurrent) fun _ r c₁ h => ?_
  rcases r with _ | (e | kept?)
  · rintro _ ⟨⟩
  · rintro p ⟨⟩
    exact h p rfl
  · exact (settle_fails request kept?).not_version c₁

/-- Once a resumed run has come to its nodes, it is not refused for a version any more. -/
theorem resume_refusedFor (hstrict : E.rules.migrator = .strict) : E.wp (E.resume thread) (fun _ r c' =>
    ∀ p, r = some (.error (.store (.version p))) → E.RefusedFor thread p c c') c := by
  rw [resume, wp_bind]
  refine wp_mono (prepare_refusedFor hstrict) fun _ r c₁ h => ?_
  rcases r with _ | (e | resumption)
  · rintro _ ⟨⟩
  · rintro p ⟨⟩
    exact h p rfl
  · cases resumption with
    | ended outcome => rintro _ ⟨⟩
    | ready node frontier =>
      refine wp_mono (drive_fails E.config.maxSteps frontier (some node) [] c₁) fun _ r' _ h p hp => ?_
      cases h _ hp

/-- An approved thread with a state of another version is refused for it. -/
theorem resume_foreign (hstrict : E.rules.migrator = .strict) (hvalid : E.config.validate = .ok ()) {st : State} {found : String}
    (hcurrent : c.world.desk.current? thread = some request) (hstatus : request.status = .approved)
    (hst : c.world.store.Holds thread st) (hfound : st.get? versionField = some (.string found))
    (hother : found ≠ E.config.version) :
    (E.outcome (E.resume thread) c).1 = some (.error (.store (.version ⟨E.config.version, found⟩))) := by
  have hload : ((Edit.loadForResume E.rules.migrator thread E.config.version).run c.world.store).1 =
      .error (.version ⟨E.config.version, found⟩) := by
    rw [Edit.loadForResume_eq hst, hstrict, Migrator.strict_of_string hfound, if_neg hother]
    rfl
  show E.wp (E.resume thread) (fun _ r _ => r = _) c
  rw [resume, wp_bind, prepare, wp_bind, checkConfig, wp_ofExcept, hvalid]
  show E.wp _ _ c
  rw [wp_bind, wp_currentRequest, hcurrent]
  dsimp only
  rw [claim, hstatus]
  dsimp only
  rw [wp_bind, wp_bind, wp_ofEdit, hload]
  rfl

end Engine

/-- Under the strict migrator a state is loaded for a resumed run exactly if its version is not a string other than the one
wanted. It comes as it is if it has the wanted version, and else stamped with it in place of what is no string; loading it
again for the same version then changes nothing. At each step that resuming takes before any node, and in the end, the
stored version is what it was, or it was no string and is now the one wanted; a run that comes to its nodes comes to a state
of the wanted version, and began with one that is not of another. A resumed run that is refused for a version leaves all
that is stored and the approved request in place; it is refused so if the state of an approved thread is of another version. -/
theorem resumed_version {E : Engine} (hstrict : E.rules.migrator = .strict) (thread : String) :
    (∀ (wanted : String) (s : Store) (st : State), s.Holds thread st →
      ((∃ st', ((Edit.loadForResume E.rules.migrator thread wanted).run s).1 = .ok st') ↔
        ¬Foreign wanted (st.get? versionField)) ∧
      ∀ st', ((Edit.loadForResume E.rules.migrator thread wanted).run s).1 = .ok st' →
        (st.get? versionField = some (.string wanted) ∧ st' = st ∨
          (∀ found, st.get? versionField ≠ some (.string found)) ∧ st' = st.set versionField (.string wanted)) ∧
        E.rules.migrator.migrate st' wanted = .ok st') ∧
    (∀ c, E.Stamps thread (E.prepare thread) c ∧ E.wp (E.prepare thread) (fun _ r c' =>
      ∀ node frontier, r = some (.ok (.ready node frontier)) →
        versionIn c'.world.store.snapshots thread = some (.string E.config.version) ∧
        ¬Foreign E.config.version (versionIn c.world.store.snapshots thread)) c) ∧
    (∀ c, E.wp (E.resume thread) (fun _ r c' =>
      ∀ p, r = some (.error (.store (.version p))) → E.RefusedFor thread p c c') c) ∧
    ∀ c request st found, E.config.validate = .ok () → c.world.desk.current? thread = some request →
      request.status = .approved → c.world.store.Holds thread st → st.get? versionField = some (.string found) →
      found ≠ E.config.version →
      (E.outcome (E.resume thread) c).1 = some (.error (.store (.version ⟨E.config.version, found⟩))) := by
  refine ⟨fun wanted s st hst => ?_, fun c => ⟨Engine.prepare_stamps hstrict, ?_⟩,
    fun c => Engine.resume_refusedFor hstrict, fun c request st found hvalid hcurrent hstatus hst hfound hother =>
      Engine.resume_foreign hstrict hvalid hcurrent hstatus hst hfound hother⟩
  · have hload : ∀ st', ((Edit.loadForResume E.rules.migrator thread wanted).run s).1 = .ok st' ↔
        Migrator.strict.migrate st wanted = .ok st' := by
      intro st'
      rw [Edit.loadForResume_eq hst, hstrict]
      cases Migrator.strict.migrate st wanted with
      | ok st₀ => simp [Except.mapError]
      | error p => simp [Except.mapError]
    simp only [hload]
    rw [hstrict]
    exact ⟨Migrator.strict_takes_iff, fun st' h => ⟨Migrator.strict_ok_iff.1 h, Migrator.strict_again h⟩⟩
  · have hstamps : E.Stamps thread (E.prepare thread) c := Engine.prepare_stamps hstrict
    refine Engine.wp_mono (Engine.wp_and hstamps (Engine.prepare_wanted hstrict)) fun _ r c' h node frontier hr => ?_
    obtain ⟨⟨-, hend⟩, hwanted⟩ := h
    have hversion := hwanted node frontier hr
    rw [hversion] at hend
    exact ⟨hversion, hend.not_foreign⟩

/-- One node, and states of version `1` are wanted. -/
def strictNode : Engine where
  graph := .ofParts [⟨"a", .idle, .empty⟩] [] "a" .empty .empty
  config := .standard
  rules := ⟨none, .strict⟩
  registry := 0

/-- A thread whose state names a version; the request for its node is approved. -/
def versionedCourse (version : Value) : Course :=
  let asked := (World.fresh [] [] none).desk.createRequest "t" "a" "check" none
  .start patience {
    store := ⟨Record.empty.insert "t" (State.empty.set versionField version), .empty, .none⟩
    desk := (asked.2.resolve 0 (.approve "alice" none)).2 } []

theorem holds_versionedCourse (version : Value) :
    (versionedCourse version).world.store.Holds "t" (State.empty.set versionField version) where
  reliable := by
    intro kind n
    cases kind <;> rfl
  stored := rfl

theorem resumed_version_strictNode : strictNode.rules.migrator = .strict ∧
    (strictNode.outcome (strictNode.resume "t") (versionedCourse (.string "0"))).1 =
      some (.error (.store (.version ⟨"1", "0"⟩))) ∧
    strictNode.RefusedFor "t" ⟨"1", "0"⟩ (versionedCourse (.string "0"))
      (strictNode.outcome (strictNode.resume "t") (versionedCourse (.string "0"))).2 := by
  obtain ⟨-, -, hrefused, hforeign⟩ := resumed_version (E := strictNode) rfl "t"
  obtain ⟨request, hcurrent, hstatus⟩ : ∃ request,
      (versionedCourse (.string "0")).world.desk.current? "t" = some request ∧ request.status = .approved :=
    ⟨_, rfl, rfl⟩
  have hresult := hforeign (versionedCourse (.string "0")) request _ "0" (by cbv) hcurrent hstatus
    (holds_versionedCourse _) rfl (by decide)
  exact ⟨rfl, hresult, hrefused _ _ hresult⟩

/-- A version that is a number is taken for none: the state is loaded whatever version is wanted, and resuming its thread
puts the wanted version in place of the one that is there. -/
theorem not_version_strictNode :
    (¬∀ (wanted : String) (s : Store) (st : State), s.Holds "t" st →
      ((∃ st', ((Edit.loadForResume .strict "t" wanted).run s).1 = .ok st') ↔
        st.get? versionField = none ∨ st.get? versionField = some (.string wanted))) ∧
    ¬∀ (c : Course) (version : Value), versionIn c.world.store.snapshots "t" = some version →
      versionIn (strictNode.outcome (strictNode.prepare "t") c).2.world.store.snapshots "t" = some version := by
  constructor
  · intro h
    have hloads : ∃ st', ((Edit.loadForResume .strict "t" "1").run (versionedCourse (.int 2)).world.store).1 = .ok st' := by
      rw [Edit.loadForResume_eq (holds_versionedCourse _)]
      exact ⟨_, rfl⟩
    rcases (h "1" _ _ (holds_versionedCourse (.int 2))).1 hloads with hnone | hstring
    · cases hnone
    · cases hstring
  · intro h
    have hrelabelled : versionIn (strictNode.outcome (strictNode.prepare "t") (versionedCourse (.int 2))).2.world.store.snapshots
        "t" = some (.string "1") := by cbv
    have hkept := h (versionedCourse (.int 2)) (.int 2) rfl
    rw [hrelabelled] at hkept
    cases hkept

end GatedFlow
