import GatedFlow.Proofs.Run.Entries
import Mathlib

/-! # Which state an entered node sees

Of every step of a session: a node that is entered is handed what is stored for the thread, and its successors are
chosen by that merged with its update, exactly if nothing has changed since the run began to wait for the node's
approval. A run that pauses instead loads the state again when it is resumed, so that its nodes always see what is
stored; a run that waits hands over what it loaded before. -/

namespace GatedFlow

theorem lastWait_of_clerical {tr : List RunMoment} (h : ∀ m ∈ tr, RunMoment.Clerical m) (began : Option Course) :
    lastWait began tr = began := by
  induction tr generalizing began with
  | nil => rfl
  | cons m tr ih =>
    have hm : m.wait? = none := by
      unfold RunMoment.wait?
      split
      · exact (h _ (List.mem_cons_self ..)).elim
      · rfl
    show lastWait (m.wait?.or began) tr = began
    rw [hm]
    exact ih (fun m' hm' => h m' (List.mem_cons_of_mem _ hm')) began

namespace Engine

variable {E : Engine}

theorem clerical_bind_entries {α : Type} {p : Run α} {f : α → Run Outcome} {c : Course}
    (hp : E.Only RunMoment.Clerical p)
    (hf : ∀ a c, E.wp (f a) (fun tr _ _ => ∀ e ∈ entries none tr, E.EntrySound e) c) :
    E.wp (p >>= f) (fun tr _ _ => ∀ e ∈ entries none tr, E.EntrySound e) c := by
  rw [wp_bind]
  refine wp_mono (hp.wp c) fun tr r c₁ htr => ?_
  have hquiet : QuietTrace tr := fun m hm => (htr m hm).quiet
  have hended : ∀ e ∈ entries none tr, E.EntrySound e := by
    rw [entries_of_quiet hquiet]
    exact fun e he => by cases he
  rcases r with _ | (e | a)
  · exact hended
  · exact hended
  · refine wp_mono (hf a c₁) fun tr' r c' h => ?_
    rw [entries_quiet_append hquiet, lastWait_of_clerical htr]
    exact h

theorem stepTrace_entries (E : Engine) (patience : Nat) (s : Step) (w : World) :
    ∀ e ∈ entries none (E.stepTrace patience s w), E.EntrySound e := by
  cases s with
  | command c => exact fun e he => by cases he
  | together edits => exact fun e he => by cases he
  | wait thread limit commands =>
    intro e he
    rw [show entries none (E.stepTrace patience (.wait thread limit commands) w) = [] from
      entries_of_quiet (quiet_wait thread limit _) none] at he
    cases he
  | invoke thread initial commands =>
    exact clerical_bind_entries (c := .start patience w commands) (only_ofExcept _) fun _ _ =>
      clerical_bind_entries (clerical_ofEdit _) fun _ c => E.drive_entries thread _ _ none [] c
  | resume thread commands =>
    refine clerical_bind_entries (c := .start patience w commands) (clerical_prepare thread) fun resumption c => ?_
    cases resumption with
    | ended outcome => exact fun e he => by cases he
    | ready node frontier => exact E.drive_entries thread _ frontier (some node) [] c

end Engine

/-- A node that is entered in a step of a session is handed what was stored for its thread when the run began to wait
for the node's approval, or what is stored now if it did not wait. So it is handed what is stored now, and its
successors are chosen by that merged with its update, exactly if nothing has changed during the wait; in a run that
pauses for approvals that holds of every node. -/
theorem seesStored_iff {E : Engine} {patience : Nat} {s : Step} {w : World} {e : Entry}
    (he : e ∈ entries none (E.stepTrace patience s w)) :
    e.handed = (e.began.getD e.course).stored? e.thread ∧
      (e.SeesStored E.graph ↔ ∀ c, e.began = some c → c.stored? e.thread = e.course.stored? e.thread) ∧
      (E.config.mode = .pause → e.SeesStored E.graph) := by
  have hsound := E.stepTrace_entries patience s w e he
  refine ⟨hsound.handed, hsound.sees, fun hpause => hsound.sees.2 fun c hc => ?_⟩
  have hwait := hsound.mode c hc
  rw [hpause] at hwait
  cases hwait

/-- An engine that waits for approvals, for one node that copies a field. -/
def waitingCopy : Engine where
  graph := .ofParts [⟨"a", .copy "x" "seen", .empty⟩] [] "a" .empty .empty
  config := { Config.standard with mode := .wait }
  rules := ⟨none, .lenient⟩
  registry := 0

/-- A run of that node; the field is set while the run waits, before the approval comes. -/
def waitingStep : Step :=
  .invoke "t" .empty [(1, .edit (.modify "t" (Record.empty.insert "x" (.bool true)))),
    (2, .desk (.decide (.ofThread "t") (.approve "operator" none)))]

/-- The nodes that are entered when that node needs approval. -/
def waitingEntries : List Entry :=
  entries none (waitingCopy.stepTrace patience waitingStep
    ((Command.desk (.addAlways "a")).run ⟨none, .lenient⟩ (World.fresh [] [] none)).2)

theorem waitingEntries_eq : ∃ e, waitingEntries = [e] ∧ (e.course.stored? e.thread).map (·.contains "x") = some true ∧
    e.handed.map (·.contains "x") = some false := by
  have hrun : waitingEntries.map (fun e => ((e.course.stored? e.thread).map (·.contains "x"),
    e.handed.map (·.contains "x"))) = [(some true, some false)] := by cbv
  obtain ⟨e, he, hx⟩ := List.map_eq_singleton_iff.1 hrun
  rw [Prod.mk.injEq] at hx
  exact ⟨e, he, hx⟩

theorem seesStored_iff_waitingEntries : ∃ e ∈ waitingEntries, e.handed = (e.began.getD e.course).stored? e.thread ∧
    (e.SeesStored waitingCopy.graph ↔ ∀ c, e.began = some c → c.stored? e.thread = e.course.stored? e.thread) ∧
    (waitingCopy.config.mode = .pause → e.SeesStored waitingCopy.graph) := by
  obtain ⟨e, hentries, -⟩ := waitingEntries_eq
  have he : e ∈ waitingEntries := by
    rw [hentries]
    exact List.mem_singleton_self e
  refine ⟨e, he, ?_⟩
  unfold waitingEntries at he
  exact seesStored_iff he

/-- A node that was waited for does not see what was set in the meantime. -/
theorem not_seesStored_waitingEntries : ¬∀ e ∈ waitingEntries, e.SeesStored waitingCopy.graph := by
  intro h
  obtain ⟨e, hentries, hstored, hhanded⟩ := waitingEntries_eq
  obtain ⟨st, hst, hst', -⟩ := h e (by rw [hentries]; exact List.mem_singleton_self e)
  rw [hst] at hstored
  rw [hst'] at hhanded
  cases hstored.symm.trans hhanded

end GatedFlow
