import GatedFlow.Proofs.Edits.Fields
import GatedFlow.Proofs.Program.Among
import GatedFlow.Proofs.Run.Parts
import GatedFlow.Proofs.Run.Trace
import GatedFlow.Proofs.State.Records

/-! # Edits made while a thread is being resumed

What resuming does before any node is one call after the other, and between them others may edit the thread
(`Engine.Amid`). One of these calls loads the whole state and the next saves it; the others spare every field that is not
for the run's own use (`Engine.Spares`). So wherever the run stands, a field will hold what it holds there when the run
comes to its nodes, except between the load and the save, where it will hold what was loaded
(`Engine.yields_of_amid_prepare`). An edit made there is lost, and every other edit stays (`edited_meanwhile`). -/

namespace GatedFlow

/-- What the stored state of a thread has in a field in a course of events. -/
def Course.held (thread field : String) (c : Course) : Option Value := storedIn c.world.store.snapshots thread field

theorem Edit.modify_storedIn {schema? : Option Schema} {thread : String} {updates : Fields} {s s' : Store} {st : State}
    (h : (modify schema? thread updates).run s = (.ok st, s')) {e : String × Value} (he : e ∈ updates.entries) :
    storedIn s'.snapshots thread e.1 = some e.2 := by
  have hdoes : (modify schema? thread updates).Does s False _ := does_modify False.elim
  unfold Does at hdoes
  rw [h] at hdoes
  obtain ⟨before, -, rfl, hsnapshots⟩ := hdoes
  have hfound : findEntry e.1 updates.entries = some e.2 := updates.sorted.findEntry_eq_some_iff.2 he
  rw [hsnapshots, storedIn_insert]
  show (before.fields.merge updates).get? e.1 = some e.2
  exact Record.get?_merge_of_some hfound

/-- A state that is loaded for a resumed run has in a field, other than its version, what the stored one has. -/
theorem Course.get?_of_loaded {m : Migrator} {thread field version : String} {c : Course} {st : State} {P : Prop}
    (hfield : field ≠ versionField)
    (h : ∃ st₀, c.world.store.snapshots.get? thread = some st₀ ∧ m.migrate st₀ version = .ok st ∧ P) :
    st.get? field = c.held thread field := by
  obtain ⟨st₀, hst₀, hmigrate, -⟩ := h
  rw [Migrator.migrate_get? hmigrate hfield]
  exact (storedIn_of_get? hst₀).symm

namespace Engine

variable {α β : Type} {E : Engine} {thread field : String} {others : Course → Course → Prop} {request : Request}

/-- A part of a run has made a number of calls and has `p'` left to do, while others have acted in between. -/
def Amid (E : Engine) (others : Course → Course → Prop) (n : Nat) (p : Run α) (c : Course) (p' : Run α) (c' : Course) : Prop :=
  Program.Among (RunCall.answer E.rules E.registry) others n (ExceptT.run p) c (ExceptT.run p') c'

/-! ## Calls that spare a field -/

/-- The calls that leave a field of a thread's stored state alone, whatever they answer. -/
def sparing (E : Engine) (thread field : String) : Contract RunCall where
  Asks call := ∀ c, (call.answer E.rules E.registry c).2.held thread field = c.held thread field
  Gives _ _ := True

/-- A part of a run that makes such calls only. -/
def Spares (E : Engine) (thread field : String) (p : Run α) : Prop :=
  (ExceptT.run p).Keeps (E.sparing thread field) fun _ => True

namespace Spares

theorem bind {p : Run α} {f : α → Run β} (hp : E.Spares thread field p) (hf : ∀ a, E.Spares thread field (f a)) :
    E.Spares thread field (p >>= f) := by
  refine Program.Keeps.bind hp fun r _ => ?_
  cases r with
  | ok a => exact hf a
  | error e => exact trivial

theorem ofEdit {e : Edit α} (h : ∀ s, e.Does s False fun _ m => storedIn m thread field = storedIn s.snapshots thread field) :
    E.Spares thread field (Run.ofEdit e) := by
  refine ⟨fun c => ?_, fun _ _ => trivial⟩
  have hdoes := h c.world.store
  unfold Edit.Does at hdoes
  show storedIn (e.run c.world.store).2.snapshots thread field = _
  rcases hrun : e.run c.world.store with ⟨p | a, s⟩
  · rw [hrun] at hdoes
    exact congrArg (storedIn · thread field) hdoes.1
  · rw [hrun] at hdoes
    exact hdoes

end Spares

theorem composes_spares : Composes (E.Spares thread field) := ⟨fun _ => trivial, Spares.bind⟩

theorem clearPending_sparing (hpending : field ≠ pendingField) : E.Spares thread field (E.clearPending thread) := by
  refine composes_spares.binds.clearPending (.ofEdit fun s => ?_) (.ofEdit fun s => ?_)
  · exact (Edit.does_loadState False.elim).mono fun _ _ h => congrArg (storedIn · thread field) h.2
  · have hdelete : (Edit.deleteField E.rules.schema thread pendingField).Does s False fun _ m =>
        storedIn m thread field = if pendingField = field then none else storedIn s.snapshots thread field :=
      Edit.deleteField_storedIn pendingField
    rwa [if_neg hpending.symm] at hdelete

theorem setStatus_sparing (hstatus : field ≠ statusField) (status : String) :
    E.Spares thread field (Run.ofEdit (Edit.setStatus E.rules.schema thread status)) :=
  .ofEdit fun _ => Edit.setStatus_storedIn status hstatus

theorem settle_sparing (hstatus : field ≠ statusField) (kept? : Option (List String)) :
    E.Spares thread field (E.settle thread request kept?) :=
  composes_spares.binds.settle (setStatus_sparing hstatus) ⟨fun _ => rfl, fun _ _ => trivial⟩
    ⟨fun _ => rfl, fun _ _ => trivial⟩

/-- A refused run is not ready for its nodes. -/
theorem settle_none_keeps (hstatus : field ≠ statusField) : (ExceptT.run (E.settle thread request none)).Keeps
    (E.sparing thread field) fun r => ∀ node frontier, r ≠ .ok (.ready node frontier) := by
  refine Program.Keeps.bind (setStatus_sparing hstatus rejectedStatus) fun r _ => ?_
  cases r with
  | error e => exact fun _ _ h => (by cases h)
  | ok b => exact ⟨fun _ => rfl, fun _ _ => ⟨fun _ => rfl, fun _ _ _ _ h => (by cases h)⟩⟩

/-- What resuming does once it has asked for the thread's request. -/
def consult (E : Engine) (thread : String) : Option Request → Run Resumption
  | none => throw (.noRequest thread)
  | some request => E.claim thread request >>= E.settle thread request

theorem prepare_eq_of_valid {u : Unit} (h : E.config.validate = .ok u) :
    E.prepare thread = Run.ofCall (.currentRequest thread) >>= E.consult thread := by
  rw [prepare, checkConfig, h]
  show (Run.ofCall (.currentRequest thread) >>= fun _ => _) = _
  refine congrArg (Run.ofCall (.currentRequest thread) >>= ·) (funext fun request? => ?_)
  cases request? <;> rfl

/-! ## What a field holds when the run comes to its nodes -/

/-- If a part of a run that begins in a course comes to its nodes, a field of the thread's state then holds this. -/
def Yields (E : Engine) (others : Course → Course → Prop) (thread field : String) (p : Run Resumption) (c : Course)
    (value? : Option Value) : Prop :=
  ∀ n node frontier c', E.Amid others n p c (pure (.ready node frontier)) c' → c'.held thread field = value?

section

variable (hothers : ∀ c c', others c c' → c'.held thread field = c.held thread field)

include hothers

theorem Amid.of_sparing {n : Nat} {p p' : Run α} {c c' : Course} {Q : Except FlowError α → Prop}
    (h : E.Amid others n p c p' c') (hp : (ExceptT.run p).Keeps (E.sparing thread field) Q) :
    (ExceptT.run p').Keeps (E.sparing thread field) Q ∧ c'.held thread field = c.held thread field := by
  refine Program.Among.of_keeps hothers (fun call c b c₁ hasks hanswer => ⟨trivial, ?_⟩) hp h
  have hspared := hasks c
  rwa [hanswer] at hspared

/-- A run that is about to make an edit still is, or the edit was made on what the course had in the field. -/
theorem Amid.edit_cases {n : Nat} {e : Edit β} {f : β → Run α} {p' : Run α} {c c' : Course}
    {Q : Store → β → Record State → Prop}
    (he : ∀ s, e.Does s False (Q s)) (h : E.Amid others n (Run.ofEdit e >>= f) c p' c') :
    n = 0 ∧ p' = (Run.ofEdit e >>= f) ∨ ∃ m, n = m + 1 ∧
      ((∃ q, p' = throw (.store q)) ∨ ∃ (c₁ : Course) (b : β) (s : Store), c₁.held thread field = c.held thread field ∧
        Q c₁.world.store b s.snapshots ∧ E.Amid others m (f b) (c₁.withStore s) p' c') := by
  rcases Program.Among.ask_cases hothers h with ⟨hn, hp', -⟩ | ⟨m, c₁, r, c₂, hn, hheld, hanswer, hrest⟩
  · exact .inl ⟨hn, hp'⟩
  have hmade : r = (e.run c₁.world.store).1 ∧ c₂ = c₁.withStore (e.run c₁.world.store).2 := by
    cases hanswer
    exact ⟨rfl, rfl⟩
  have hdoes := he c₁.world.store
  unfold Edit.Does at hdoes
  refine .inr ⟨m, hn, ?_⟩
  rcases hrun : e.run c₁.world.store with ⟨q | b, s⟩
  all_goals
    rw [hrun] at hdoes hmade
    obtain ⟨rfl, rfl⟩ := hmade
  · exact .inl ⟨q, (Program.Among.done_cases hothers hrest).1⟩
  · exact .inr ⟨c₁, b, s, hheld, hdoes, hrest⟩

namespace Yields

theorem throw (e : FlowError) (c : Course) (value? : Option Value) :
    E.Yields others thread field (throw e) c value? := fun n node frontier c' h => by
  cases (Program.Among.done_cases hothers h).1

theorem of_spares {p : Run Resumption} (hp : E.Spares thread field p) (c : Course) :
    E.Yields others thread field p c (c.held thread field) := fun _ _ _ _ h =>
  (h.of_sparing hothers hp).2

theorem of_unready {p : Run Resumption} (hp : (ExceptT.run p).Keeps (E.sparing thread field) fun r =>
      ∀ node frontier, r ≠ .ok (.ready node frontier)) (c : Course) (value? : Option Value) :
    E.Yields others thread field p c value? := fun _ node frontier _ h =>
  absurd rfl ((h.of_sparing hothers hp).1 node frontier)

/-- A state that is to be saved yields its own value, whatever the field holds before. -/
theorem save {st : State} {f : Unit → Run Resumption} (hf : E.Spares thread field (f ())) (c : Course) :
    E.Yields others thread field (Run.ofEdit (Edit.saveState E.rules.schema thread st) >>= f) c (st.get? field) := by
  intro n node frontier c' h
  rcases h.edit_cases hothers fun _ => Edit.does_saveState False.elim with
    ⟨-, hp'⟩ | ⟨m, -, ⟨q, hp'⟩ | ⟨c₁, u, s, -, hs, hrest⟩⟩
  · cases hp'
  · cases hp'
  · refine (of_spares hothers hf _ m node frontier c' hrest).trans ?_
    show storedIn s.snapshots thread field = st.get? field
    rw [hs, storedIn_insert]

end Yields

variable (hversion : field ≠ versionField)

include hversion

theorem Yields.load {f : State → Run Resumption} (hf : ∀ st c, E.Yields others thread field (f st) c (st.get? field))
    (c : Course) : E.Yields others thread field
      (Run.ofEdit (Edit.loadForResume E.rules.migrator thread E.config.version) >>= f) c (c.held thread field) := by
  intro n node frontier c' h
  rcases h.edit_cases hothers fun _ => Edit.does_loadForResume False.elim with
    ⟨-, hp'⟩ | ⟨m, -, ⟨q, hp'⟩ | ⟨c₁, st, s, hheld, hloaded, hrest⟩⟩
  · cases hp'
  · cases hp'
  · rw [← hheld, ← Course.get?_of_loaded hversion hloaded]
    exact hf st _ m node frontier c' hrest

variable (hpending : field ≠ pendingField) (hstatus : field ≠ statusField)

include hpending hstatus

/-- What is left of a resumed run once its request is known yields what the field holds by then, except between the load
and the save, where it yields what was loaded. -/
theorem yields_of_amid_claim {n : Nat} {c c₁ : Course} {p : Run Resumption}
    (h : E.Amid others n (E.claim thread request >>= E.settle thread request) c p c₁) (c₂ : Course) :
    E.Yields others thread field p c₂ (if n = 1 then c.held thread field else c₂.held thread field) := by
  have hfinish : ∀ kept? : Option (List String), E.Spares thread field
      (E.clearPending thread >>= fun _ => pure kept? >>= E.settle thread request) := fun kept? =>
    composes_spares.bind (clearPending_sparing hpending) fun _ => settle_sparing hstatus kept?
  unfold claim at h
  split at h
  · simp only [bind_assoc] at h
    rcases h.edit_cases hothers fun _ => Edit.does_loadForResume False.elim with
      ⟨rfl, rfl⟩ | ⟨m, rfl, ⟨q, rfl⟩ | ⟨c₃, st, s, hheld, hloaded, h⟩⟩
    · exact .load hothers hversion (fun st => .save hothers (hfinish _)) c₂
    · exact .throw hothers _ _ _
    · rcases h.edit_cases hothers fun _ => Edit.does_saveState False.elim with
        ⟨rfl, rfl⟩ | ⟨m, rfl, ⟨q, rfl⟩ | ⟨c₄, u, s, -, -, h⟩⟩
      · -- whatever is done to the field from here on, the save undoes it
        rw [if_pos rfl, ← hheld, ← Course.get?_of_loaded hversion hloaded]
        exact .save hothers (hfinish _) c₂
      · exact .throw hothers _ _ _
      · rw [if_neg (by omega)]
        exact .of_spares hothers (h.of_sparing hothers (hfinish _)).1 c₂
  · have hrefused : (ExceptT.run (E.clearPending thread >>= fun _ => E.settle thread request none)).Keeps
        (E.sparing thread field) fun r => ∀ node frontier, r ≠ .ok (.ready node frontier) := by
      refine Program.Keeps.bind (clearPending_sparing hpending) fun r _ => ?_
      cases r with
      | error e => exact fun _ _ h => (by cases h)
      | ok u => exact settle_none_keeps hstatus
    rw [bind_assoc] at h
    exact .of_unready hothers (h.of_sparing hothers hrefused).1 c₂ _
  · obtain ⟨rfl, -⟩ := Program.Among.done_cases hothers h
    exact .throw hothers _ _ _

theorem yields_of_amid_consult {request? : Option Request} {n : Nat} {c c₁ : Course} {p : Run Resumption}
    (h : E.Amid others n (E.consult thread request?) c p c₁) (c₂ : Course) :
    E.Yields others thread field p c₂ (if n = 1 then c.held thread field else c₂.held thread field) := by
  cases request? with
  | none =>
    obtain ⟨rfl, -⟩ := Program.Among.done_cases hothers h
    exact .throw hothers _ _ _
  | some request => exact yields_of_amid_claim hothers hversion hpending hstatus h c₂

/-- The same of resuming as a whole, where one call asks for the request before the load. -/
theorem yields_of_amid_prepare {n : Nat} {c c₁ : Course} {p : Run Resumption} (h : E.Amid others n (E.prepare thread) c p c₁)
    (c₂ : Course) : E.Yields others thread field p c₂ (if n = 2 then c.held thread field else c₂.held thread field) := by
  rcases hvalid : E.config.validate with q | u
  · rw [prepare, checkConfig, hvalid] at h
    obtain ⟨rfl, -⟩ := Program.Among.done_cases hothers h
    exact .throw hothers _ _ _
  rw [prepare_eq_of_valid hvalid] at h
  rcases Program.Among.ask_cases hothers h with ⟨rfl, rfl, -⟩ | ⟨m, c₃, request?, c₄, rfl, hheld, hanswer, hrest⟩
  · intro n node frontier c' h'
    rcases Program.Among.ask_cases hothers h' with ⟨-, hp', -⟩ | ⟨m, c₃, request?, c₄, -, hheld, hanswer, hrest⟩
    · cases hp'
    · cases hanswer
      have hyields := yields_of_amid_consult hothers hversion hpending hstatus
        (.start (E.consult thread (c₃.world.desk.current? thread)) c₃) c₃
      exact (hyields m node frontier c' hrest).trans hheld
  · cases hanswer
    have hyields := yields_of_amid_consult hothers hversion hpending hstatus hrest c₂
    rw [hheld] at hyields
    simpa only [Nat.reduceEqDiff] using hyields

end
end Engine

/-- While a thread is being resumed, others edit it: between two of the calls that are made before any node, one of them
sets some fields, and everybody else leaves these fields alone. If the run comes to its nodes, the stored state then has in
them what was set, unless the edit was made after two calls: the state had been loaded by then and was about to be saved, and
the fields have what they had when resuming began. -/
theorem edited_meanwhile (E : Engine) (thread : String) {others : Course → Course → Prop} (schema? : Option Schema)
    (updates : Fields) (hfields : ∀ e ∈ updates.entries, e.1 ≠ versionField ∧ e.1 ≠ pendingField ∧ e.1 ≠ statusField)
    (hothers : ∀ c c', others c c' → ∀ e ∈ updates.entries, c'.held thread e.1 = c.held thread e.1)
    {before after : Nat} {p : Run Resumption} {c c₁ c' : Course} {st : State} {s : Store} {node : String}
    {frontier : List String}
    (hbefore : E.Amid others before (E.prepare thread) c p c₁)
    (hedit : (Edit.modify schema? thread updates).run c₁.world.store = (.ok st, s))
    (hafter : E.Amid others after p (c₁.withStore s) (pure (.ready node frontier)) c') :
    ∀ e ∈ updates.entries, c'.held thread e.1 = if before = 2 then c.held thread e.1 else some e.2 := by
  intro e he
  obtain ⟨hversion, hpending, hstatus⟩ := hfields e he
  have hset : (c₁.withStore s).held thread e.1 = some e.2 := Edit.modify_storedIn hedit he
  have hyields := Engine.yields_of_amid_prepare (fun c c' h => hothers c c' h e he) hversion hpending hstatus hbefore
    (c₁.withStore s) after node frontier c' hafter
  rw [hyields, hset]

/-- One node, and a migrator that takes every state as it is. -/
def lenientNode : Engine where
  graph := .ofParts [⟨"a", .idle, .empty⟩] [] "a" .empty .empty
  config := .standard
  rules := ⟨none, .lenient⟩
  registry := 0

/-- A thread that is paused before the node, with a field `x`; the request is approved. -/
def pausedCourse : Course :=
  let st := ((State.empty.set "x" (.int 1)).set statusField (.string pausedStatus)).set pendingField (frontierValue ["a"])
  let asked := (World.fresh [] [] none).desk.createRequest "t" "a" "check" none
  .start patience {
    store := ⟨Record.empty.insert "t" st, .empty, .none⟩
    desk := (asked.2.resolve 0 (.approve "alice" none)).2 } []

def correction : Fields := Record.empty.insert "x" (.int 2)

/-- The thread has been corrected after a number of calls, and the run that is resumed has come to its node. -/
def CorrectedAfter (calls : Nat) (c' : Course) : Prop :=
  ∃ p c₁ st s after, lenientNode.Amid (fun _ _ => False) calls (lenientNode.prepare "t") pausedCourse p c₁ ∧
    (Edit.modify none "t" correction).run c₁.world.store = (.ok st, s) ∧
    lenientNode.Amid (fun _ _ => False) after p (c₁.withStore s) (pure (.ready "a" ["a"])) c'

theorem correctedAfter_save : ∃ c', CorrectedAfter 3 c' :=
  ⟨_, _, _, _, _, _, .call rfl (.call rfl (.call rfl (.start _ _))), rfl,
    .call rfl (.call rfl (.call rfl (.call rfl (.start _ _))))⟩

theorem edited_meanwhile_correction : ∃ c', CorrectedAfter 3 c' ∧ c'.held "t" "x" = some (.int 2) := by
  obtain ⟨c', p, c₁, st, s, after, hbefore, hedit, hafter⟩ := correctedAfter_save
  have hkept := edited_meanwhile lenientNode "t" none correction (by decide) (fun _ _ h => h.elim) hbefore hedit hafter
  exact ⟨c', ⟨p, c₁, st, s, after, hbefore, hedit, hafter⟩, hkept ("x", .int 2) (.head _)⟩

/-- A correction that is made between the load and the save is lost, although it has ended well. -/
theorem not_kept_correction : ¬∀ calls c', CorrectedAfter calls c' → c'.held "t" "x" = some (.int 2) := by
  intro h
  obtain ⟨c', hcorrected, hheld⟩ : ∃ c', CorrectedAfter 2 c' ∧ c'.held "t" "x" = some (.int 1) :=
    ⟨_, ⟨_, _, _, _, _, .call rfl (.call rfl (.start _ _)), rfl,
      .call rfl (.call rfl (.call rfl (.call rfl (.call rfl (.start _ _)))))⟩, rfl⟩
  rw [h 2 c' hcorrected] at hheld
  cases hheld

end GatedFlow
