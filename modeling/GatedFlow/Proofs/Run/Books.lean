import GatedFlow.Pattern.Engine
import GatedFlow.Proofs.Edits.Fields
import GatedFlow.Proofs.Expression.Dependence
import GatedFlow.Proofs.Run.Edits
import GatedFlow.Proofs.Run.Parts
import Mathlib.Logic.Relation

/-! # Conditions and the books of the engine

The engine writes into a thread's state on its own account: it keeps the frontier of a paused run there and takes it out
again, marks the thread with a status and stamps the version (`Bookkeeping`). Pausing a run and preparing to resume it do
nothing else to the state, wherever they fail (`pause_bookkept`, `prepare_bookkept`). Each of these writes is to one field
of its own, so none of them is noticed by a condition that does not name this field (`Expression.depends_on_named`). -/

namespace GatedFlow

/-- What the engine writes into a field of a state on its own account. -/
inductive Bookkeeping : String → State → State → Prop
  | keep (s : State) (frontier : List String) : Bookkeeping pendingField s (s.set pendingField (frontierValue frontier))
  | clear (s : State) : Bookkeeping pendingField s (s.remove pendingField)
  | mark (s : State) (status : String) : Bookkeeping statusField s (s.set statusField (.string status))
  | stamp {m : Migrator} {s t : State} {version : String} (h : m.migrate s version = .ok t) : Bookkeeping versionField s t

/-- Bookkeeping, any number of times, in fields other than those of some names. -/
def Bookkept (names : List String) : State → State → Prop :=
  Relation.ReflTransGen fun s t => ∃ field, field ∉ names ∧ Bookkeeping field s t

/-- The stored state of a thread has come to another one by bookkeeping. -/
def BookkeptIn (thread : String) (names : List String) (m m' : Record State) : Prop :=
  ∀ s, m.get? thread = some s → ∃ s', m'.get? thread = some s' ∧ Bookkept names s s'

variable {thread field name : String} {names : List String} {s t : State}

theorem Bookkeeping.get? (h : Bookkeeping field s t) (hname : name ≠ field) : t.get? name = s.get? name := by
  cases h with
  | keep frontier => rw [State.get?_set, if_neg hname.symm]
  | clear => rw [State.get?_remove, if_neg hname.symm]
  | mark status => rw [State.get?_set, if_neg hname.symm]
  | stamp hmigrate => exact Migrator.migrate_get? hmigrate hname

theorem Bookkept.single (hfield : field ∉ names) (h : Bookkeeping field s t) : Bookkept names s t :=
  Relation.ReflTransGen.single ⟨field, hfield, h⟩

namespace BookkeptIn

variable {m m' m'' : Record State}

theorem refl : BookkeptIn thread names m m := fun s hs => ⟨s, hs, .refl⟩

theorem of_eq (h : m' = m) : BookkeptIn thread names m m' := h ▸ refl

theorem trans (h : BookkeptIn thread names m m') (h' : BookkeptIn thread names m' m'') : BookkeptIn thread names m m'' := by
  intro s hs
  obtain ⟨s', hs', hbooks⟩ := h s hs
  obtain ⟨s'', hs'', hbooks'⟩ := h' s' hs'
  exact ⟨s'', hs'', hbooks.trans hbooks'⟩

theorem insert (hs : m.get? thread = some s) (h : Bookkept names s t) : BookkeptIn thread names m (m.insert thread t) := by
  intro s' hs'
  cases hs.symm.trans hs'
  exact ⟨t, by rw [Record.get?_insert, if_pos rfl], h⟩

end BookkeptIn

/-! ### The engine's edits -/

section Edits

variable {schema? : Option Schema} {store : Store} {E : Engine}

theorem Edit.setStatus_bookkept (status : String) (hstatus : statusField ∉ names) :
    (setStatus schema? thread status).Does store False fun _ m => BookkeptIn thread names store.snapshots m := by
  refine (does_setStatus False.elim).mono fun b m h => ?_
  obtain ⟨st, hst, -, rfl⟩ := h
  split
  · exact .insert hst (.single hstatus (.mark st status))
  · exact .refl

theorem Engine.keep_bookkept (frontier : List String) (hpending : pendingField ∉ names) :
    (E.keep thread frontier).Does store False fun _ m => BookkeptIn thread names store.snapshots m := by
  refine (Edit.does_modify False.elim).mono fun st' m h => ?_
  obtain ⟨st, hst, rfl, rfl⟩ := h
  exact .insert hst (.single hpending (.keep st frontier))

theorem Edit.deletePending_bookkept (hpending : pendingField ∉ names) :
    (deleteField schema? thread pendingField).Does store False fun _ m => BookkeptIn thread names store.snapshots m := by
  refine (does_deleteField False.elim).mono fun st' m h => ?_
  obtain ⟨st, hst, rfl, rfl⟩ := h
  exact .insert hst (.single hpending (.clear st))

end Edits

/-! ### Pausing and resuming -/

namespace Engine

variable {α β : Type} {E : Engine} {c : Course} {node : String} {rest : List String} {request : Request}

/-- A part of a run does nothing but bookkeeping to the stored state of a thread, however it ends. -/
def KeepsBooks (E : Engine) (thread : String) (names : List String) (p : Run α) (c : Course) : Prop :=
  E.wp p (fun _ _ c' => BookkeptIn thread names c.world.store.snapshots c'.world.store.snapshots) c

namespace KeepsBooks

theorem ofExcept (r : Except FlowError α) : E.KeepsBooks thread names (Run.ofExcept r) c := .refl

theorem ofEdit {e : Edit α} (h : e.Does c.world.store False fun _ m => BookkeptIn thread names c.world.store.snapshots m) :
    E.KeepsBooks thread names (Run.ofEdit e) c :=
  wp_edit h (fun _ _ _ hbooks => hbooks) fun _ _ _ hstore _ => .of_eq hstore

/-- The second part of a sequence begins with what the first part has left. -/
theorem bind_at {p : Run α} {f : α → Run β} (hp : E.KeepsBooks thread names p c)
    (hf : E.wp p (fun _ r c₁ => ∀ a, r = some (.ok a) → E.KeepsBooks thread names (f a) c₁) c) :
    E.KeepsBooks thread names (p >>= f) c := by
  rw [KeepsBooks, wp_bind]
  refine wp_mono (wp_and hp hf) fun tr r c₁ h => ?_
  obtain ⟨hbooks, hf⟩ := h
  rcases r with _ | (e | a)
  · exact hbooks
  · exact hbooks
  · exact wp_mono (hf a rfl) fun _ _ _ h => hbooks.trans h

end KeepsBooks

theorem composes_keepsBooks : Composes fun p => ∀ c, E.KeepsBooks thread names p c where
  ofExcept r _ := .ofExcept r
  bind hp hf c := (hp c).bind_at (wp_mono (hp c) fun _ _ c₁ _ a _ => hf a c₁)

/-- Pausing is bookkeeping. -/
theorem pause_bookkept (hpending : pendingField ∉ names) (hstatus : statusField ∉ names) :
    E.KeepsBooks thread names (E.pause thread node rest request) c := by
  refine composes_keepsBooks.binds.pause (fun c => ?_) (fun c => ?_) (fun c => ?_) c
  · exact .ofEdit (keep_bookkept (node :: rest) hpending)
  · exact .ofEdit (Edit.setStatus_bookkept pausedStatus hstatus)
  · exact .refl

theorem clearPending_bookkept (hpending : pendingField ∉ names) : E.KeepsBooks thread names (E.clearPending thread) c := by
  refine composes_keepsBooks.binds.clearPending (fun c => ?_) (fun c => ?_) c
  · exact .ofEdit ((Edit.does_loadState False.elim).mono fun _ _ h => .of_eq h.2)
  · exact .ofEdit (Edit.deletePending_bookkept hpending)

/-- A claim saves the stored state as the migrator takes it, and nothing has changed that state in between. -/
theorem claim_bookkept (hpending : pendingField ∉ names) (hversion : versionField ∉ names) :
    E.KeepsBooks thread names (E.claim thread request) c := by
  have hclear : ∀ (kept? : Option (List String)) (c : Course),
      E.KeepsBooks thread names (E.clearPending thread >>= fun _ => pure kept?) c := fun kept? =>
    composes_keepsBooks.bind (fun _ => clearPending_bookkept hpending) fun _ => composes_keepsBooks.done kept?
  unfold claim
  split
  · refine wp_edit_cases (Edit.does_loadForResume False.elim) (fun st s₁ _ h₁ => ?_) fun p s₁ _ h₁ _ => .of_eq h₁
    obtain ⟨st₀, hst₀, hmigrate, h₁⟩ := h₁
    refine wp_edit_cases (Edit.does_saveState False.elim) (fun _ s₂ _ h₂ => ?_) fun p s₂ _ h₂ _ => .of_eq (h₂.trans h₁)
    have hsaved : BookkeptIn thread names c.world.store.snapshots s₂.snapshots := by
      rw [h₂, Course.withStore_store, h₁]
      exact .insert hst₀ (.single hversion (.stamp hmigrate))
    exact wp_mono (hclear (some (keptFrontier st)) ((c.withStore s₁).withStore s₂)) fun _ _ _ h => hsaved.trans h
  · exact hclear none c
  · exact .ofExcept (.error _)

theorem settle_bookkept (hstatus : statusField ∉ names) {kept? : Option (List String)} :
    E.KeepsBooks thread names (E.settle thread request kept?) c := by
  refine composes_keepsBooks.binds.settle (fun status c => ?_) (fun c => ?_) (fun c => ?_) c
  · exact .ofEdit (Edit.setStatus_bookkept status hstatus)
  · exact .refl
  · exact .refl

/-- What is done before a run goes on is bookkeeping. -/
theorem prepare_bookkept (hpending : pendingField ∉ names) (hstatus : statusField ∉ names) (hversion : versionField ∉ names) :
    E.KeepsBooks thread names (E.prepare thread) c := by
  refine composes_keepsBooks.prepare (fun c => ?_) (fun request c => ?_) (fun request kept? c => ?_) c
  · exact .refl
  · exact claim_bookkept hpending hversion
  · exact settle_bookkept hstatus

end Engine

/-! ### Conditions -/

namespace Expression

/-- Bookkeeping in other fields than those that a condition names makes no difference to it. -/
theorem alike_of_bookkept {e : Expression} (hwhole : [] ∉ e.tree.paths) (h : Bookkept e.tree.names s t) : e.Alike s t := by
  induction h with
  | refl => exact ⟨rfl, rfl⟩
  | tail _ hstep ih =>
    obtain ⟨field, hfield, hbooks⟩ := hstep
    refine ih.trans (alike_of_agree hwhole fun name hname => ?_)
    have hne : name ≠ field := fun heq => hfield (heq ▸ hname)
    exact (hbooks.get? hne).symm

/-- A condition comes to the same in the stored state of a thread before and after. -/
def AlikeIn (e : Expression) (thread : String) (m m' : Record State) : Prop :=
  ∀ s, m.get? thread = some s → ∃ s', m'.get? thread = some s' ∧ e.Alike s s'

theorem alikeIn_of_bookkeptIn {e : Expression} (hwhole : [] ∉ e.tree.paths) {m m' : Record State}
    (h : BookkeptIn thread e.tree.names m m') : e.AlikeIn thread m m' := by
  intro s hs
  obtain ⟨s', hs', hbooks⟩ := h s hs
  exact ⟨s', hs', alike_of_bookkept hwhole hbooks⟩

/-- A condition depends on the fields that it names and on nothing else: where these are the same, missing or with one
value, it comes to the same value or the same error. The books that the engine keeps in other fields are nothing to it, so
that neither pausing a run nor preparing to resume it makes a difference. -/
structure DependsOnNamed (e : Expression) : Prop where
  named : ∀ s t, (∀ name ∈ e.tree.names, s.get? name = t.get? name) → e.Alike s t
  books : ∀ s t, Bookkept e.tree.names s t → e.Alike s t
  pausing : pendingField ∉ e.tree.names → statusField ∉ e.tree.names → ∀ (E : Engine) thread node rest request c,
    E.wp (E.pause thread node rest request)
      (fun _ _ c' => e.AlikeIn thread c.world.store.snapshots c'.world.store.snapshots) c
  resuming : pendingField ∉ e.tree.names → statusField ∉ e.tree.names → versionField ∉ e.tree.names →
    ∀ (E : Engine) thread c, E.wp (E.prepare thread)
      (fun _ _ c' => e.AlikeIn thread c.world.store.snapshots c'.world.store.snapshots) c

/-- A condition that does not ask for the whole state depends on the fields that it names. -/
theorem depends_on_named (e : Expression) (hwhole : [] ∉ e.tree.paths) : e.DependsOnNamed where
  named _ _ h := alike_of_agree hwhole h
  books _ _ h := alike_of_bookkept hwhole h
  pausing hpending hstatus _ _ _ _ _ _ :=
    Engine.wp_mono (Engine.pause_bookkept hpending hstatus) fun _ _ _ h => alikeIn_of_bookkeptIn hwhole h
  resuming hpending hstatus hversion _ _ _ :=
    Engine.wp_mono (Engine.prepare_bookkept hpending hstatus hversion) fun _ _ _ h => alikeIn_of_bookkeptIn hwhole h

/-- A condition on three fields. -/
def trusted : Expression where
  source := "state.score > 10 and not (state[\"user\"].tier in ['guest'] or len(state.tags) == 0)"
  tree := .conj [.compare .gt (.path [.key "score"]) (.literal (.int 10)),
    .not (.disj [.compare .within (.path [.key "user", .key "tier"]) (.list [.literal (.string "guest")]),
      .compare .eq (.len (.path [.key "tags"])) (.literal (.int 0))])]

/-- A state in which the condition has no answer, because the score is a text. -/
def misscored : State := State.empty.set "score" (.string "12")

/-- The state once a run of its thread was paused and the strict migrator has stamped it. -/
def misscoredPaused : State :=
  ((misscored.set pendingField (frontierValue ["review"])).set statusField (.string pausedStatus)).set versionField
    (.string "1.0.0")

/-- The condition has the same error wherever the score is this text, and pausing makes no difference. -/
theorem depends_on_named_trusted :
    ofSource trusted.source = .ok trusted ∧ [] ∉ trusted.tree.paths ∧ trusted.tree.names = ["score", "user", "tags"] ∧
    trusted.Alike misscored (misscored.set "note" .null) ∧ Bookkept trusted.tree.names misscored misscoredPaused ∧
    trusted.Alike misscored misscoredPaused ∧ trusted.holds misscoredPaused = .error (.typeMismatch ">" "string" "number") := by
  have hwhole : [] ∉ trusted.tree.paths := by simp [trusted, Expr.paths, Expr.pathsOfAll]
  have hnames : trusted.tree.names = ["score", "user", "tags"] := rfl
  have hnote : ∀ name ∈ trusted.tree.names, misscored.get? name = (misscored.set "note" .null).get? name := by
    intro name hname
    have hne : "note" ≠ name := fun heq => absurd (heq ▸ hname) (by decide)
    rw [State.get?_set, if_neg hne]
  have hbooks : Bookkept trusted.tree.names misscored misscoredPaused := by
    have hkept := Bookkept.single (show pendingField ∉ trusted.tree.names by decide) (.keep misscored ["review"])
    have hmarked := hkept.tail ⟨statusField, by decide, .mark _ pausedStatus⟩
    exact hmarked.tail ⟨versionField, by decide, .stamp (show Migrator.strict.migrate _ "1.0.0" = _ from rfl)⟩
  have hdepends := depends_on_named trusted hwhole
  exact ⟨rfl, hwhole, hnames, hdepends.named _ _ hnote, hbooks, hdepends.books _ _ hbooks, rfl⟩

end Expression
end GatedFlow
