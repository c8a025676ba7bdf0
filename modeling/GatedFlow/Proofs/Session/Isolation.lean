import GatedFlow.Proofs.Run.Isolation
import GatedFlow.Proofs.Session.Continuing

/-! # Threads do not notice each other

Whatever happens for one thread in a session, whatever is edited, asked, decided or run for it, changes only what the thread
owns (`Turn.next_onlyFor`). Threads with well-formed ids own nothing together, so that every edit on behalf of another one
answers as it would have before, and its request is the same (`threads_isolated`). -/

namespace GatedFlow

variable {thread : String} {w : World}

/-- A step of a session for a thread: an edit or several, a command, a wait or a run, with commands that are for the same
thread. -/
def Step.IsFor (thread : String) (d : Desk) : Step → Prop
  | command c => c.IsFor thread d
  | together edits => ∀ c ∈ edits, c.IsFor thread
  | wait t _ commands => t = thread ∧ ∀ c ∈ commands.map Prod.snd, c.IsFor thread d
  | invoke t _ commands => t = thread ∧ ∀ c ∈ commands.map Prod.snd, c.IsFor thread d
  | resume t commands => t = thread ∧ ∀ c ∈ commands.map Prod.snd, c.IsFor thread d

theorem Course.start_isFor {commands : List (Nat × Command)} (hw : w.desk.Sound)
    (h : ∀ c ∈ commands.map Prod.snd, c.IsFor thread w.desk) (patience : Nat) : (start patience w commands).IsFor thread :=
  ⟨hw, fun _ ha => h _ (mem_start_agenda ha)⟩

/-- A turn for a thread changes only what the thread owns. -/
theorem Turn.next_onlyFor {t : Turn} (hw : w.desk.Sound) (h : t.step.IsFor thread w.desk) : w.OnlyFor thread (t.next w) := by
  obtain ⟨E, patience, s⟩ := t
  cases s with
  | command c => exact Command.IsFor.onlyFor h hw E.rules
  | together edits =>
    refine ⟨Edit.Keeps.runTogether (Q := fun _ => True) (fun e he => ?_)
      (Contract.frame_served (fun _ howns hnot => hnot howns) w.store) (.refl _), .refl _⟩
    obtain ⟨c, hc, rfl⟩ := List.mem_map.1 he
    exact (h c hc).touches E.rules
  | wait t limit commands =>
    obtain ⟨rfl, h⟩ := h
    have honly : E.wp (Run.wait t limit) _ _ := Engine.wait_onlyFor (Course.start_isFor hw h patience)
    exact honly.world
  | invoke t initial commands =>
    obtain ⟨rfl, h⟩ := h
    have honly : E.wp (E.invoke t initial) _ _ := Engine.invoke_onlyFor (Course.start_isFor hw h patience)
    exact honly.world
  | resume t commands =>
    obtain ⟨rfl, h⟩ := h
    have honly : E.wp (E.resume t) _ _ := Engine.resume_onlyFor (Course.start_isFor hw h patience)
    exact honly.world

/-- After any session on a sound desk, let something happen for a thread, and let another thread's id be well formed as
well. Every edit on behalf of the other thread, such as loading its state, its history, its checkpoints or one of them,
answers the same before and after it, whatever calls to the store may fail; and its request is the same. -/
theorem threads_isolated {w₀ : World} {turns : List Turn} {t : Turn} {a b : String} (hsound : w₀.desk.Sound)
    (ha : WellFormedId a) (hb : WellFormedId b) (hne : a ≠ b) (ht : t.step.IsFor a (Turn.after turns w₀).desk) :
    let w := Turn.after turns w₀
    (∀ (rules : EditRules) (c : EditCommand) (faults : Faults), c.IsFor b →
      ((c.edit rules).run { (t.next w).store with faults }).1 = ((c.edit rules).run { w.store with faults }).1) ∧
      (t.next w).desk.current? b = w.desk.current? b := by
  intro w
  have hw : w.desk.Sound := (Turn.after_grows turns w₀).sound hsound
  have honly : w.OnlyFor a (t.next w) := Turn.next_onlyFor hw ht
  refine ⟨fun rules c faults hc => ?_, honly.desk.current?_eq hw (Ne.symm hne)⟩
  have halike : Store.Alike (Owns b) { w.store with faults } { (t.next w).store with faults } :=
    ⟨fun key hkey => honly.store key fun hown => hne (ha.eq_of_owns hb hown hkey), rfl⟩
  exact ((hc.touches rules).run_congr halike).1

/-- Two threads, of which one id begins with the other, each with a checkpoint and a request. -/
def neighbourTurns : List Turn :=
  ["t", "t:check"].flatMap fun thread =>
    [.saveState thread .empty, .createCheckpoint thread ":checkpoint:t"].map (fun c => forkedTurn (.command (.edit c))) ++
      [forkedTurn (.command (.desk (.createRequest thread "a" "asked" none)))]

/-- One of them is run, and its approval is withdrawn meanwhile. -/
def neighbourRun : Turn := forkedTurn (.invoke "t" .empty [(5, .desk (.cancel "t"))])

theorem threads_isolated_neighbours :
    (World.fresh [] [] none).desk.Sound ∧ WellFormedId "t" ∧ WellFormedId "t:check" ∧ "t" ≠ "t:check" ∧
      let w := Turn.after neighbourTurns (.fresh [] [] none)
      neighbourRun.step.IsFor "t" w.desk ∧
      (∀ (rules : EditRules) (c : EditCommand) (faults : Faults), c.IsFor "t:check" →
        ((c.edit rules).run { (neighbourRun.next w).store with faults }).1 =
          ((c.edit rules).run { w.store with faults }).1) ∧
        (neighbourRun.next w).desk.current? "t:check" = w.desk.current? "t:check" := by
  have hsound := World.fresh_sound [] [] none
  have hrun : neighbourRun.step.IsFor "t" (Turn.after neighbourTurns (.fresh [] [] none)).desk :=
    ⟨rfl, by simp [Command.IsFor, DeskCommand.IsFor]⟩
  exact ⟨hsound, by decide, by decide, by decide, hrun,
    threads_isolated hsound (by decide) (by decide) (by decide) hrun⟩

end GatedFlow
