import GatedFlow.Proofs.Graph.Built

/-! # What builds

A draft is whole when its entry point is set and everything that it names is declared (`Draft.Whole`). Only a whole draft is
built, and any other is refused with one violation for each reference to a node that is not declared, in the order of
`Draft.references`. However a draft was drawn up, it has no two nodes of one name, so that the graph that is built from it
finds every declared node by its name. -/

namespace GatedFlow

namespace Draft

variable {d d' : Draft}

/-- Everything that a draft names is declared. -/
structure Whole (d : Draft) : Prop where
  entry : ∃ name, d.entry = some name ∧ d.declares name = true
  edges : ∀ e ∈ d.edges, d.declares e.source = true ∧ d.declares e.target = true
  routers : ∀ node r, d.routers.get? node = some r → d.declares node = true ∧
    (∀ rule ∈ r.rules, d.declares rule.target = true) ∧ ∀ name, r.default = some name → d.declares name = true

end Draft

/-- The nodes that an edge names, each with what there is against it if it is not declared. -/
def Edge.references (e : Edge) : List (String × Violation) :=
  [(e.source, .edgeSourceUndeclared e.source e.target), (e.target, .edgeTargetUndeclared e.source e.target)]

/-- The nodes that a router names: the one it is put on, and then its targets. -/
def Router.references (node : String) (r : Router) : List (String × Violation) :=
  (node, .routerNodeUndeclared r.name node) :: r.targets.map fun t => (t, .routerTargetUndeclared r.name node t)

namespace Draft

/-- The nodes that a draft names: the entry point first, then those of the edges in order, then those of the routers by
node. -/
def references (d : Draft) : List (String × Violation) :=
  (d.entry.toList.map fun name => (name, .entryUndeclared name)) ++ d.edges.flatMap Edge.references ++
    d.routers.entries.flatMap fun e => e.2.references e.1

/-- What there is against the nodes that are named but not declared. -/
def undeclared (declared : String → Bool) (references : List (String × Violation)) : List Violation :=
  (references.filter fun r => !declared r.1).map Prod.snd

variable {declared : String → Bool}

theorem undeclared_append (l l' : List (String × Violation)) :
    undeclared declared (l ++ l') = undeclared declared l ++ undeclared declared l' := by
  simp [undeclared]

theorem undeclared_flatMap {α : Type} (l : List α) (f : α → List (String × Violation)) :
    undeclared declared (l.flatMap f) = l.flatMap fun a => undeclared declared (f a) := by
  induction l with
  | nil => rfl
  | cons a l ih => rw [List.flatMap_cons, List.flatMap_cons, undeclared_append, ih]

theorem undeclared_eq_nil_iff {l : List (String × Violation)} :
    undeclared declared l = [] ↔ ∀ r ∈ l, declared r.1 = true := by
  simp [undeclared]

theorem undeclared_edge (e : Edge) : undeclared declared e.references = e.violations declared := by
  unfold undeclared Edge.references Edge.violations
  cases hsource : declared e.source <;> cases htarget : declared e.target <;> simp [hsource, htarget]

theorem undeclared_router (node : String) (r : Router) :
    undeclared declared (r.references node) = r.violations declared node := by
  have htargets : undeclared declared (r.targets.map fun t => (t, .routerTargetUndeclared r.name node t)) =
      (r.targets.filter fun t => !declared t).map (.routerTargetUndeclared r.name node) := by
    rw [undeclared, List.filter_map, List.map_map]
    rfl
  have hsplit : r.references node =
      [(node, .routerNodeUndeclared r.name node)] ++ r.targets.map fun t => (t, .routerTargetUndeclared r.name node t) := rfl
  rw [hsplit, undeclared_append, htargets, Router.violations]
  cases hnode : declared node <;> simp [undeclared, hnode]

/-- A draft has one violation for each reference to a node that is not declared, in their order, and one more, before all
others, if its entry point is not set. -/
theorem validate_eq (d : Draft) : d.validate = (if d.entry = none then [.noEntry] else []) ++ undeclared d.declares d.references := by
  unfold validate violationsOf references
  rw [undeclared_append, undeclared_append, undeclared_flatMap, undeclared_flatMap]
  simp only [undeclared_edge, undeclared_router]
  rw [← List.append_assoc, ← List.append_assoc]
  congr 2
  cases d.entry with
  | none => rfl
  | some name => cases hname : d.declares name <;> simp [entryViolations, undeclared, hname]

variable {d d' : Draft} {step : DraftStep}

theorem forall_references_iff {p : String → Prop} : (∀ r ∈ d.references, p r.1) ↔
    (∀ name, d.entry = some name → p name) ∧ (∀ e ∈ d.edges, p e.source ∧ p e.target) ∧
      ∀ node r, d.routers.get? node = some r → p node ∧ ∀ target ∈ r.targets, p target := by
  have hentry : (∀ r ∈ d.entry.toList.map fun name => (name, Violation.entryUndeclared name), p r.1) ↔
      ∀ name, d.entry = some name → p name := by
    cases d.entry <;> simp
  have hedge : ∀ e : Edge, (∀ r ∈ e.references, p r.1) ↔ p e.source ∧ p e.target := fun e => by simp [Edge.references]
  have hrouter : ∀ node (r : Router), (∀ x ∈ r.references node, p x.1) ↔ p node ∧ ∀ target ∈ r.targets, p target :=
    fun node r => by simp [Router.references]
  unfold references
  rw [List.forall_mem_append, List.forall_mem_append, List.forall_mem_flatMap, List.forall_mem_flatMap, and_assoc, hentry]
  simp only [hedge, hrouter, Prod.forall, Record.get?, KeySorted.findEntry_eq_some_iff d.routers.sorted]

theorem validate_eq_nil_iff : d.validate = [] ↔ d.Whole := by
  have hmissing : (if d.entry = none then [Violation.noEntry] else []) = [] ↔ d.entry ≠ none := by
    split <;> simp_all
  have htargets : ∀ r : Router, (∀ target ∈ r.targets, d.declares target = true) ↔
      (∀ rule ∈ r.rules, d.declares rule.target = true) ∧ ∀ name, r.default = some name → d.declares name = true := by
    intro r
    rw [Router.targets, List.forall_mem_append, List.forall_mem_map]
    cases r.default <;> simp
  rw [validate_eq, List.append_eq_nil_iff, undeclared_eq_nil_iff, hmissing, forall_references_iff (p := (d.declares · = true))]
  simp only [htargets]
  constructor
  · rintro ⟨hset, hentry, hedges, hrouters⟩
    obtain ⟨name, hname⟩ := Option.ne_none_iff_exists'.1 hset
    exact ⟨⟨name, hname, hentry name hname⟩, hedges, hrouters⟩
  · rintro ⟨⟨name, hname, hdeclared⟩, hedges, hrouters⟩
    refine ⟨by rw [hname]; exact Option.some_ne_none name, fun n hn => ?_, hedges, hrouters⟩
    rw [hname, Option.some.injEq] at hn
    exact hn ▸ hdeclared

theorem build_of_whole (h : d.Whole) :
    ∃ entry, d.entry = some entry ∧ d.build = .ok (.ofParts d.nodes d.edges entry d.routers d.metadata) := by
  obtain ⟨entry, hentry, -⟩ := h.entry
  refine ⟨entry, hentry, ?_⟩
  unfold build
  rw [hentry, validate_eq_nil_iff.2 h]

/-- Only a whole draft is built; any other is refused with all of its violations. -/
theorem build_of_not_whole (h : ¬d.Whole) : d.build = .error (.violations d.validate) := by
  unfold build
  split
  · rename_i hvalid
    exact absurd (validate_eq_nil_iff.1 hvalid) h
  · rfl

theorem ofParts_of_build {g : Graph} (h : d.build = .ok g) :
    ∃ entry, g = .ofParts d.nodes d.edges entry d.routers d.metadata := by
  by_cases hwhole : d.Whole
  · obtain ⟨entry, -, hbuild⟩ := build_of_whole hwhole
    exact ⟨entry, Except.ok.inj (h.symm.trans hbuild)⟩
  · rw [build_of_not_whole hwhole] at h
    cases h

/-- The names of the nodes in order. -/
def nodeNames (d : Draft) : List String := d.nodes.map Node.name

theorem mem_nodeNames_iff {name : String} : name ∈ d.nodeNames ↔ d.declares name = true := by
  simp [nodeNames, declares]

theorem addEdge_nodes {e : Edge} (h : d.addEdge e = .ok d') : d'.nodes = d.nodes ∧ d'.edges = d.edges ++ [e] := by
  unfold addEdge at h
  by_cases hfound : ((if d.declares e.source then [] else [Violation.undeclared .edgeSource e.source]) ++
      if d.declares e.target then [] else [Violation.undeclared .edgeTarget e.target]).isEmpty
  · rw [if_pos hfound] at h
    cases h
    exact ⟨rfl, rfl⟩
  · rw [if_neg hfound] at h
    cases h

end Draft

/-- The edge that a step adds unless it is refused. -/
def DraftStep.edge? [PatternEngine] : DraftStep → Option Edge
  | .addEdge e => some e
  | .addExpressionEdge source target condition =>
    (Predicate.ofSource condition).toOption.map fun guard => ⟨source, target, some guard, .empty⟩
  | _ => none

namespace Draft

variable [PatternEngine] {d d' : Draft} {step : DraftStep}

/-- A step adds a node of a new name, removes one or leaves the nodes, and edges only come after those that are there. -/
theorem names_of_apply (h : step.apply d = .ok d') (hd : d.nodeNames.Nodup) :
    d'.nodeNames.Nodup ∧ (d'.edges = d.edges ∨ ∃ e, step.edge? = some e ∧ d'.edges = d.edges ++ [e]) := by
  cases step with
  | addNode n =>
    simp only [DraftStep.apply, addNode] at h
    split at h
    · cases h
    · rename_i hnew
      cases h
      refine ⟨?_, .inl rfl⟩
      show (List.map Node.name (d.nodes ++ [n])).Nodup
      rw [List.map_append, List.map_singleton]
      refine List.nodup_append.2 ⟨hd, by simp, fun a ha b hb heq => hnew (mem_nodeNames_iff.1 ?_)⟩
      rwa [← List.mem_singleton.1 hb, ← heq]
  | removeNode name =>
    cases h
    exact ⟨hd.sublist (List.eraseP_sublist.map _), .inl rfl⟩
  | addEdge e =>
    obtain ⟨hnodes, hedges⟩ := addEdge_nodes h
    exact ⟨by rwa [nodeNames, hnodes], .inr ⟨e, rfl, hedges⟩⟩
  | addExpressionEdge source target condition =>
    obtain ⟨guard, hguard, h⟩ := bind_eq_ok_iff.1 h
    obtain ⟨hnodes, hedges⟩ := addEdge_nodes h
    refine ⟨by rwa [nodeNames, hnodes], .inr ⟨_, ?_, hedges⟩⟩
    rw [DraftStep.edge?]
    cases hsource : Predicate.ofSource condition with
    | error e => rw [hsource] at hguard; cases hguard
    | ok p => rw [hsource] at hguard; cases hguard; rfl
  | setEntry name =>
    obtain ⟨_, -, h⟩ := bind_eq_ok_iff.1 h
    cases h
    exact ⟨hd, .inl rfl⟩
  | addRouter node r =>
    obtain ⟨_, -, h⟩ := bind_eq_ok_iff.1 h
    obtain ⟨_, -, h⟩ := bind_eq_ok_iff.1 h
    cases h
    exact ⟨hd, .inl rfl⟩

theorem names_of_take (step : DraftStep) (hd : d.nodeNames.Nodup) :
    (d.take step).nodeNames.Nodup ∧ ∃ l, (d.take step).edges = d.edges ++ l ∧ l.Sublist step.edge?.toList := by
  unfold take
  cases h : step.apply d with
  | error e => exact ⟨hd, [], (List.append_nil _).symm, List.nil_sublist _⟩
  | ok d' =>
    obtain ⟨hnames, hedges | ⟨e, he, hedges⟩⟩ := names_of_apply h hd
    · exact ⟨hnames, [], hedges.trans (List.append_nil _).symm, List.nil_sublist _⟩
    · exact ⟨hnames, [e], hedges, by rw [he]; exact .refl _⟩

/-- However a draft is drawn up, no two of its nodes have one name, and its edges are among those of the steps, in their
order. -/
theorem names_of_after (steps : List DraftStep) (hd : d.nodeNames.Nodup) :
    (after steps d).nodeNames.Nodup ∧ ∃ l, (after steps d).edges = d.edges ++ l ∧ l.Sublist (steps.filterMap DraftStep.edge?) := by
  induction steps generalizing d with
  | nil => exact ⟨hd, [], (List.append_nil _).symm, .refl _⟩
  | cons step steps ih =>
    obtain ⟨hnames, l, hedges, hl⟩ := names_of_take step hd
    obtain ⟨hnames', l', hedges', hl'⟩ := ih hnames
    refine ⟨hnames', l ++ l', ?_, ?_⟩
    · rw [← List.append_assoc, ← hedges]
      exact hedges'
    · have hcons : (step :: steps).filterMap DraftStep.edge? = step.edge?.toList ++ steps.filterMap DraftStep.edge? := by
        cases h : step.edge? <;> simp [h]
      rw [hcons]
      exact hl.append hl'

end Draft

theorem get?_indexNodes {place i : Nat} {index : Record Nat} {nodes : List Node} {name : String}
    (h : (indexNodes place index nodes).get? name = some i) :
    index.get? name = some i ∨ place ≤ i ∧ ∃ n, nodes[i - place]? = some n ∧ n.name = name := by
  induction nodes generalizing place index with
  | nil => exact .inl h
  | cons n nodes ih =>
    rcases ih h with hindex | ⟨hle, n', hn', hname⟩
    · rw [Record.get?_insert] at hindex
      split at hindex
      · rename_i hname
        cases hindex
        exact .inr ⟨Nat.le_refl _, n, by simp, hname⟩
      · exact .inl hindex
    · have hi : i - place = i - (place + 1) + 1 := by omega
      exact .inr ⟨by omega, n', by rw [hi]; exact hn', hname⟩

/-- Every declared node of a graph that is built is found, by its name. -/
theorem Graph.node?_ofParts {nodes : List Node} {edges : List Edge} {entry : String} {routers : Record Router}
    {metadata : Fields} {name : String} (h : (ofParts nodes edges entry routers metadata).declares name = true) :
    ∃ n, (ofParts nodes edges entry routers metadata).node? name = some n ∧ n.name = name := by
  obtain ⟨i, hi⟩ := Option.isSome_iff_exists.1 h
  rcases get?_indexNodes hi with hempty | ⟨-, n, hn, hname⟩
  · cases hempty
  · exact ⟨n, by rw [node?, hi]; exact hn, hname⟩

end GatedFlow
