import GatedFlow.Pattern.Engine
import GatedFlow.Proofs.Run.Declared
import GatedFlow.Proofs.Session.Mirror
import Mathlib

/-! # What builds can run

Only a whole draft is built, and the graph runs without ever missing a node (`built_runs`): a new run always, and a run that
is resumed if only runs of the graph have kept a frontier for the thread and made a request for it. That does not go without
saying for what a node puts into the field for the frontier, since a run that is resumed takes it for a frontier
(`not_found_ghosted`). -/

namespace GatedFlow

variable {g : Graph} {thread : String}

namespace Turn

/-- A turn that runs a thread on a graph; nothing that happens in the meantime steers the thread. -/
structure Steers (g : Graph) (thread : String) (t : Turn) : Prop where
  graph : t.engine.graph = g
  runs : ∃ commands, t.step.Runs thread commands ∧ ∀ k ∈ commands.map Prod.snd, k.Unsteered t.engine.rules thread

/-- A turn that keeps nothing new for a thread and makes no request for it. -/
def Unsteered (thread : String) (t : Turn) : Prop := ∀ w : World, w.Unsteered thread (t.next w)

theorem Unsteered.of_commandsLeave {t : Turn} (ht : t.step.CommandsLeave thread)
    (hruns : ∀ commands, ¬t.step.Runs thread commands) : t.Unsteered thread :=
  fun _ => .of_untouched (untouched ht hruns)

theorem Steers.names {t : Turn} {w : World} (ht : t.Steers g thread) (hclosed : g.Closed)
    (hupdates : ∀ node s update, g.execute node s = .ok update → ∀ n ∈ keptOf (update.get? pendingField), g.declares n = true)
    (hw : g.Names thread w) : g.Names thread (t.next w) := by
  obtain ⟨E, patience, s⟩ := t
  obtain ⟨rfl, commands, hruns, hcommands⟩ := ht
  have hc : (Course.start patience w commands).Names E.graph E.rules thread :=
    ⟨hw, fun a ha => hcommands _ (Course.mem_start_agenda ha)⟩
  rcases hruns with ⟨initial, rfl⟩ | rfl
  · have hrun : E.wp (E.invoke thread initial) _ (.start patience w commands) := Engine.invoke_names hclosed hupdates initial hc
    exact hrun
  · have hrun : E.wp (E.resume thread) _ (.start patience w commands) := Engine.resume_names hclosed hupdates hc
    exact hrun

theorem after_names {turns : List Turn} {w₀ : World} (hclosed : g.Closed)
    (hupdates : ∀ node s update, g.execute node s = .ok update → ∀ n ∈ keptOf (update.get? pendingField), g.declares n = true)
    (hturns : ∀ t ∈ turns, t.Steers g thread ∨ t.Unsteered thread) (hw : g.Names thread w₀) :
    g.Names thread (after turns w₀) := by
  induction turns generalizing w₀ with
  | nil => exact hw
  | cons t turns ih =>
    obtain ⟨ht, hturns⟩ := List.forall_mem_cons.1 hturns
    refine ih hturns ?_
    rcases ht with ht | ht
    · exact ht.names hclosed hupdates hw
    · exact hw.unsteered (ht w₀) (t.next_grows w₀)

end Turn

/-- A graph that never misses a node of its own. -/
structure Graph.Runnable (g : Graph) : Prop where
  valid : g.validate = []
  names : g.nodeNames.Nodup
  invoke : ∀ (E : Engine) (thread : String) (initial : State) (c : Course) (name : String), E.graph = g →
    (E.outcome (E.invoke thread initial) c).1 ≠ some (.error (.noNode name))
  /-- Nothing was kept for the thread at first, and only runs on the graph have steered it since. -/
  resume : ∀ (thread : String) (turns : List Turn) (w₀ : World) (t : Turn) (commands : List (Nat × Command)) (name : String),
    (∀ node s update, g.execute node s = .ok update → ∀ n ∈ keptOf (update.get? pendingField), g.declares n = true) →
    pendingIn w₀.store.snapshots thread = none → w₀.desk.policy.current.get? thread = none →
    (∀ k ∈ turns, k.Steers g thread ∨ k.Unsteered thread) → t.engine.graph = g → t.step = .resume thread commands →
    t.result? (Turn.after turns w₀) ≠ some (.error (.noNode name))

theorem Draft.runnable_of_build {d : Draft} (hnames : d.nodeNames.Nodup) (h : d.build = .ok g) : g.Runnable := by
  have hclosed := closed_of_build h
  have hfinds := Graph.finds_of_build h
  obtain ⟨entry, rfl⟩ := ofParts_of_build h
  refine ⟨validate_of_build h, hnames, fun E thread initial c name hgraph hfails => ?_,
    fun thread turns w₀ t commands name hupdates hpending hcurrent hturns hgraph hstep hfails => ?_⟩
  · rw [← hgraph] at hclosed hfinds
    cases Engine.invoke_finds hclosed hfinds thread initial c _ hfails
  · have hw := Turn.after_names hclosed hupdates hturns (.of_nothing hpending hcurrent)
    obtain ⟨E, patience, s⟩ := t
    cases hstep
    dsimp only at hgraph
    rw [← hgraph] at hclosed hfinds hw
    have hrun : E.wp (E.resume thread) _ (.start patience (Turn.after turns w₀) commands) :=
      Engine.resume_finds hclosed hfinds hw
    cases hrun _ hfails

/-- A draft that is drawn up by steps, refused ones among them, is built just if it is whole; otherwise it is refused with
one violation for each reference to a node that is not declared. The graph that is built never misses a node. -/
theorem built_runs [PatternEngine] (steps : List DraftStep) (metadata : Fields) :
    let d := Draft.after steps (.empty metadata)
    ((∃ g, d.build = .ok g) ↔ d.Whole) ∧ (¬d.Whole → d.build = .error (.violations d.validate)) ∧
      d.validate = (if d.entry = none then [.noEntry] else []) ++ Draft.undeclared d.declares d.references ∧
      d.edges.Sublist (steps.filterMap DraftStep.edge?) ∧ ∀ g, d.build = .ok g → g.Runnable := by
  intro d
  obtain ⟨hnames, edges, hedges, hsublist⟩ :=
    Draft.names_of_after (d := .empty metadata) steps List.nodup_nil
  refine ⟨⟨fun ⟨g, hg⟩ => ?_, fun h => ?_⟩, Draft.build_of_not_whole, d.validate_eq, ?_, fun g hg => ?_⟩
  · by_contra hnot
    cases hg.symm.trans (Draft.build_of_not_whole hnot)
  · obtain ⟨entry, -, hbuild⟩ := Draft.build_of_whole h
    exact ⟨_, hbuild⟩
  · rw [hedges]
    exact hsublist
  · exact Draft.runnable_of_build hnames hg

/-- Steps to the graph of `forked`, with a node that is declared twice, an edge to a node that is not declared, and a node
that is removed after an edge leads to it and declared again. -/
def forkedSteps : List DraftStep :=
  [.addNode ⟨"a", .assign .empty, .empty⟩, .addNode ⟨"b", .assign .empty, .empty⟩, .addNode ⟨"a", .fail "twice", .empty⟩,
    .addNode ⟨"c", .assign .empty, .empty⟩, .addEdge ⟨"a", "b", none, .empty⟩, .addEdge ⟨"a", "d", none, .empty⟩,
    .addEdge ⟨"a", "c", none, .empty⟩, .removeNode "c", .addNode ⟨"c", .assign .empty, .empty⟩, .setEntry "a"]

theorem stoppedTurns_steers : ∀ k ∈ stoppedTurns, k.Steers forked.graph "t" ∨ k.Unsteered "t" := by
  have hcommand : ∀ c : Command, c.LeavesThread "t" → (forkedTurn (.command c)).Unsteered "t" := by
    refine fun c hc => .of_commandsLeave hc ?_
    rintro commands (⟨initial, h⟩ | h) <;> cases h
  simp only [stoppedTurns, List.forall_mem_cons]
  exact ⟨.inr (hcommand _ trivial), .inl ⟨rfl, [], .inl ⟨.empty, rfl⟩, fun _ h => by cases h⟩, .inr (hcommand _ trivial),
    fun _ h => by cases h⟩

theorem built_runs_forked :
    (Draft.after forkedSteps (.empty .empty)).build = .ok forked.graph ∧
      (∃ s, (forkedTurn (.resume "t" [])).result? (Turn.after stoppedTurns (.fresh [] [] none)) =
        some (.ok (.completed s ["b", "c"]))) ∧
      ∀ name, (forkedTurn (.resume "t" [])).result? (Turn.after stoppedTurns (.fresh [] [] none)) ≠
        some (.error (.noNode name)) := by
  have hbuild : (Draft.after forkedSteps (.empty .empty)).build = .ok forked.graph := by cbv
  obtain ⟨-, -, -, -, hruns⟩ := built_runs forkedSteps .empty
  refine ⟨hbuild, ?_, fun name => ?_⟩
  · refine ⟨State.empty, ?_⟩
    cbv
  · refine (hruns _ hbuild).resume "t" stoppedTurns (.fresh [] [] none) (forkedTurn (.resume "t" [])) [] name ?_ rfl rfl
      stoppedTurns_steers rfl rfl
    intro node s update hupdate n hn
    rw [forked_updates node s update hupdate] at hn
    cases hn

/-- An engine for a graph whose first node puts a node that is not declared into the field for the frontier. -/
def ghosted : Engine where
  graph := .ofParts [⟨"a", .assign (Record.empty.insert pendingField (frontierValue ["ghost"])), .empty⟩,
      ⟨"b", .assign .empty, .empty⟩] [⟨"a", "b", none, .empty⟩] "a" .empty .empty
  config := .standard
  rules := ⟨none, .lenient⟩
  registry := 0

def ghostedSteps : List DraftStep :=
  [.addNode ⟨"a", .assign (Record.empty.insert pendingField (frontierValue ["ghost"])), .empty⟩,
    .addNode ⟨"b", .assign .empty, .empty⟩, .addEdge ⟨"a", "b", none, .empty⟩, .setEntry "a"]

/-- A run stops before a node that then needs no approval any more; the thread is run anew to the end, and the request that
was made before is approved. -/
def ghostedTurns : List Turn :=
  [⟨ghosted, patience, .command (.desk (.addAlways "b"))⟩, ⟨ghosted, patience, .invoke "t" .empty []⟩,
    ⟨ghosted, patience, .command (.desk (.removeAlways "b"))⟩, ⟨ghosted, patience, .invoke "t" .empty []⟩,
    ⟨ghosted, patience, .command (.desk (.decide (.ofThread "t") (.approve "operator" none)))⟩]

/-- Only runs of the graph have kept a frontier for the thread and made a request for it, but what the node has put into
the field is taken for a frontier. -/
theorem not_found_ghosted :
    (Draft.after ghostedSteps (.empty .empty)).build = .ok ghosted.graph ∧
      (∀ k ∈ ghostedTurns, k.Steers ghosted.graph "t" ∨ k.Unsteered "t") ∧
      Turn.result? ⟨ghosted, patience, .resume "t" []⟩ (Turn.after ghostedTurns (.fresh [] [] none)) =
        some (.error (.noNode "ghost")) := by
  have hcommand : ∀ c : Command, c.LeavesThread "t" → Turn.Unsteered "t" ⟨ghosted, patience, .command c⟩ := by
    refine fun c hc => .of_commandsLeave hc ?_
    rintro commands (⟨initial, h⟩ | h) <;> cases h
  have hinvoke : Turn.Steers ghosted.graph "t" ⟨ghosted, patience, .invoke "t" .empty []⟩ :=
    ⟨rfl, [], .inl ⟨.empty, rfl⟩, fun _ h => by cases h⟩
  refine ⟨by cbv, ?_, by cbv⟩
  simp only [ghostedTurns, List.forall_mem_cons]
  exact ⟨.inr (hcommand _ trivial), .inl hinvoke, .inr (hcommand _ trivial), .inl hinvoke, .inr (hcommand _ trivial),
    fun _ h => by cases h⟩

end GatedFlow
