import GatedFlow.Pattern.Engine
import GatedFlow.Proofs.Graph.Drafts
import Mathlib.Data.List.Nodup

/-! # Indexes and declarations

A graph finds its nodes and the edges that leave them by places that were gathered once. Each name has the place of the one
node of that name, and the places gathered for a node are those of the edges that leave it, in their order and none too
many (`map_getElem?_indexEdges`). So every question to a graph that was built has the answer that a search through the
declared nodes and edges gives, and there is none exactly for names that are not declared (`Draft.indexed_of_build`). -/

namespace GatedFlow

/-! ### Edges that can be taken -/

namespace Edge

/-- Whether an edge can be taken, or the failure of its guard. -/
def attempt (e : Edge) (s : State) : Except PredicateError Bool :=
  match e.guard with
  | none => .ok true
  | some p => p.check s

/-- Tries edges one after the other and gathers where the open ones lead and what failed. -/
def attemptAll (s : State) : List Edge → List String × List Event
  | [] => ([], [])
  | e :: rest =>
    let (targets, events) := attemptAll s rest
    match e.attempt s with
    | .ok true => (e.target :: targets, events)
    | .ok false => (targets, events)
    | .error p => (targets, .predicateFailed .edge e.label p :: events)

variable {e : Edge} {s : State}

/-- An edge is tried with success and is open or not as that says, or its guard fails and it is closed. -/
theorem attempt_cases (e : Edge) (s : State) :
    (∃ b, e.attempt s = .ok b ∧ e.isOpen s = b ∧ e.failure? s = none) ∨
    ∃ p, e.attempt s = .error p ∧ e.isOpen s = false ∧ e.failure? s = some p := by
  unfold attempt isOpen failure?
  cases e.guard with
  | none => exact .inl ⟨true, rfl, rfl, rfl⟩
  | some guard =>
    simp only [Option.all_some, Option.bind_some, Predicate.holds, Predicate.failure?]
    cases guard.check s with
    | ok b => exact .inl ⟨b, rfl, rfl, rfl⟩
    | error p => exact .inr ⟨p, rfl, rfl, rfl⟩

theorem isOpen_iff : e.isOpen s = true ↔ e.attempt s = .ok true := by
  rcases e.attempt_cases s with ⟨b, hattempt, hopen, -⟩ | ⟨p, hattempt, hopen, -⟩
  · rw [hattempt, hopen, Except.ok.injEq]
  · simp [hattempt, hopen]

/-- Trying the edges once finds the open ones and all failures. -/
theorem attemptAll_eq (s : State) (edges : List Edge) :
    attemptAll s edges = ((edges.filter (·.isOpen s)).map Edge.target,
      edges.filterMap fun e => (e.failure? s).map (.predicateFailed .edge e.label)) := by
  induction edges with
  | nil => rfl
  | cons e rest ih =>
    rw [attemptAll, ih, List.filter_cons, List.filterMap_cons]
    rcases e.attempt_cases s with ⟨b, hattempt, hopen, hfailure⟩ | ⟨p, hattempt, hopen, hfailure⟩
    · rw [hattempt, hopen, hfailure]
      cases b <;> rfl
    · rw [hattempt, hopen, hfailure]
      rfl

end Edge

/-! ### Places -/

/-- The places that an index has gathered for a name. -/
def placesOf (index : Record (List Nat)) (name : String) : List Nat := (index.get? name).getD []

theorem placesOf_insert (index : Record (List Nat)) (key name : String) (places : List Nat) :
    placesOf (index.insert key places) name = if key = name then places else placesOf index name := by
  rw [placesOf, Record.get?_insert]
  split <;> rfl

/-- The places gathered for a name, once all edges are indexed that come after `before`, are those that were there and the
places of the edges after `before` that leave the node of that name. -/
theorem map_getElem?_indexEdges (before edges : List Edge) (index : Record (List Nat)) (name : String) :
    (placesOf (indexEdges before.length index edges) name).map (fun i => (before ++ edges)[i]?) =
      (placesOf index name).map (fun i => (before ++ edges)[i]?) ++ (edges.filter (·.source == name)).map some := by
  induction edges generalizing before index with
  | nil => simp [indexEdges]
  | cons e edges ih =>
    have hsplit : before ++ e :: edges = (before ++ [e]) ++ edges := (List.append_cons before e edges)
    have hlength : before.length + 1 = (before ++ [e]).length := by simp
    have hplace : (before ++ e :: edges)[before.length]? = some e := by simp
    rw [indexEdges, hlength, hsplit, ih, ← hsplit, placesOf_insert, List.filter_cons]
    by_cases hname : e.source = name
    · rw [if_pos hname, if_pos (beq_iff_eq.2 hname), List.map_append, List.map_singleton, hplace, hname]
      simp [placesOf]
    · rw [if_neg hname, if_neg (fun h => hname (beq_iff_eq.1 h))]

namespace Graph

variable {nodes : List Node} {edges : List Edge} {entry : String} {routers : Record Router} {metadata : Fields}
  {name : String} {n : Node}

/-- The edges found by their places are those that a search finds, and no place is beyond the last edge. -/
theorem edgesFrom_ofParts :
    (ofParts nodes edges entry routers metadata).edgesFrom name = edges.filter (·.source == name) := by
  have hplaces : (placesOf (indexEdges 0 .empty edges) name).map (fun i => edges[i]?) =
      (edges.filter (·.source == name)).map some := map_getElem?_indexEdges [] edges .empty name
  calc (placesOf (indexEdges 0 .empty edges) name).filterMap (fun i => edges[i]?)
    _ = ((placesOf (indexEdges 0 .empty edges) name).map fun i => edges[i]?).filterMap id := by
      rw [List.filterMap_map, Function.id_comp]
    _ = edges.filter (·.source == name) := by
      rw [hplaces, List.filterMap_map, Function.id_comp, List.filterMap_some]

/-- The node found by its place is the only one of its name. -/
theorem node?_ofParts_iff (hnames : (nodes.map Node.name).Nodup) :
    (ofParts nodes edges entry routers metadata).node? name = some n ↔ n ∈ nodes ∧ n.name = name := by
  have hfound : ∀ m, (ofParts nodes edges entry routers metadata).node? name = some m → m ∈ nodes ∧ m.name = name := by
    intro m hm
    obtain ⟨i, hi, hplace⟩ := Option.bind_eq_some_iff.1 hm
    rcases get?_indexNodes hi with hempty | ⟨-, m', hm', hname⟩
    · cases hempty
    · obtain rfl : m = m' := Option.some.inj (hplace.symm.trans hm')
      exact ⟨List.mem_of_getElem? hplace, hname⟩
  refine ⟨hfound n, fun ⟨hmem, hname⟩ => ?_⟩
  have hdeclared : (ofParts nodes edges entry routers metadata).declares name = true := by
    rw [ofParts_declares, List.any_eq_true]
    exact ⟨n, hmem, beq_iff_eq.2 hname⟩
  obtain ⟨m, hm, hmname⟩ := node?_ofParts hdeclared
  have hsame : m = n := List.inj_on_of_nodup_map hnames (hfound m hm).1 hmem (hmname.trans hname.symm)
  rw [hm, hsame]

end Graph

/-! ### Answers -/

namespace Draft

variable {d : Draft} {g : Graph} {α : Type}

/-- The declared edges that leave a node, in their order. -/
def leaving (d : Draft) (name : String) : List Edge := d.edges.filter (·.source == name)

/-- An answer about a declared node; about any other there is none. -/
def forDeclared (d : Draft) (name : String) (a : α) : Except FlowError α :=
  if d.declares name then .ok a else .error (.noNode name)

/-- A graph answers as a search through the declarations does, whether the edges that can be taken are picked out or tried
one after the other. -/
structure Indexed (d : Draft) (g : Graph) : Prop where
  node : ∀ name n, g.node? name = some n ↔ n ∈ d.nodes ∧ n.name = name
  absent : ∀ name, g.node? name = none ↔ d.declares name = false
  outgoing : ∀ name, g.outgoing name = d.forDeclared name (d.leaving name)
  structural : ∀ name, g.structuralNext name = d.forDeclared name ((d.leaving name).map Edge.target)
  traversable : ∀ name s, g.traversable name s =
    d.forDeclared name (((d.leaving name).filter (·.isOpen s)).map Edge.target)
  openEdge : ∀ e ∈ d.edges, ∀ s, e.isOpen s = true ↔ e.attempt s = .ok true
  attempted : ∀ name s, g.traversable name s = d.forDeclared name (Edge.attemptAll s (d.leaving name)).1
  routed : ∀ name r, d.routers.get? name = some r → ∀ s, g.next name s = d.forDeclared name (r.route s)
  unrouted : ∀ name, d.routers.get? name = none → ∀ s, g.next name s = g.traversable name s

theorem declares_of_build (h : d.build = .ok g) (name : String) : g.declares name = d.declares name := by
  obtain ⟨entry, rfl⟩ := ofParts_of_build h
  exact Graph.ofParts_declares ..

theorem edgesFrom_of_build (h : d.build = .ok g) (name : String) : g.edgesFrom name = d.leaving name := by
  obtain ⟨entry, rfl⟩ := ofParts_of_build h
  exact Graph.edgesFrom_ofParts

theorem outgoing_of_build (h : d.build = .ok g) (name : String) : g.outgoing name = d.forDeclared name (d.leaving name) := by
  rw [Graph.outgoing, Graph.require, declares_of_build h, edgesFrom_of_build h, forDeclared]
  split <;> rfl

theorem map_forDeclared {β : Type} (f : α → β) (name : String) (a : α) :
    (do return f (← d.forDeclared name a)) = d.forDeclared name (f a) := by
  unfold forDeclared
  split <;> rfl

theorem traversable_of_build (h : d.build = .ok g) (name : String) (s : State) :
    g.traversable name s = d.forDeclared name (((d.leaving name).filter (·.isOpen s)).map Edge.target) := by
  rw [Graph.traversable, outgoing_of_build h]
  exact map_forDeclared (fun edges : List Edge => (edges.filter (·.isOpen s)).map Edge.target) name (d.leaving name)

theorem node?_of_build (hnames : d.nodeNames.Nodup) (h : d.build = .ok g) {name : String} {n : Node} :
    g.node? name = some n ↔ n ∈ d.nodes ∧ n.name = name := by
  obtain ⟨entry, rfl⟩ := ofParts_of_build h
  exact Graph.node?_ofParts_iff hnames

theorem next_of_build (h : d.build = .ok g) (name : String) (s : State) :
    g.next name s = (d.routers.get? name).elim (g.traversable name s) fun r => d.forDeclared name (r.route s) := by
  have hrouters : g.routers = d.routers := by
    obtain ⟨entry, rfl⟩ := ofParts_of_build h
    rfl
  have hclosed : d.declares name = false → g.traversable name s = .error (.noNode name) := by
    intro hname
    rw [traversable_of_build h, forDeclared, hname]
    rfl
  rw [Graph.next, Graph.require, declares_of_build h, hrouters]
  cases hr : d.routers.get? name with
  | none =>
    cases hname : d.declares name with
    | true => rfl
    | false => exact (hclosed hname).symm
  | some r =>
    rw [Option.elim_some, forDeclared]
    split <;> rfl

theorem indexed_of_nodup (hnames : d.nodeNames.Nodup) (h : d.build = .ok g) : d.Indexed g := by
  constructor
  case node => exact fun name n => node?_of_build hnames h
  case absent =>
    intro name
    rw [← Bool.not_eq_true, ← mem_nodeNames_iff, Option.eq_none_iff_forall_ne_some]
    constructor
    · intro habsent hmem
      obtain ⟨n, hn, hname⟩ := List.mem_map.1 hmem
      exact habsent n ((node?_of_build hnames h).2 ⟨hn, hname⟩)
    · intro hnot n hn
      obtain ⟨hmem, hname⟩ := (node?_of_build hnames h).1 hn
      exact hnot (List.mem_map.2 ⟨n, hmem, hname⟩)
  case outgoing => exact outgoing_of_build h
  case structural =>
    intro name
    rw [Graph.structuralNext, outgoing_of_build h]
    exact map_forDeclared (List.map Edge.target) name (d.leaving name)
  case traversable => exact traversable_of_build h
  case openEdge => exact fun e _ s => Edge.isOpen_iff
  case attempted =>
    intro name s
    rw [traversable_of_build h, Edge.attemptAll_eq]
  case routed =>
    intro name r hr s
    rw [next_of_build h, hr, Option.elim_some]
  case unrouted =>
    intro name hr s
    rw [next_of_build h, hr, Option.elim_none]

/-- However a draft was drawn up, the graph that is built from it answers as a search through the declarations does. -/
theorem indexed_of_build [PatternEngine] (steps : List DraftStep) (metadata : Fields) (g : Graph)
    (h : (after steps (.empty metadata)).build = .ok g) : (after steps (.empty metadata)).Indexed g := by
  obtain ⟨hnames, -⟩ := names_of_after (d := .empty metadata) steps List.nodup_nil
  exact indexed_of_nodup hnames h

/-- Two nodes with an edge from the first to itself and three to the second, one of them guarded and closed. The second node
is removed after that and declared anew. -/
def redeclared : List DraftStep :=
  [.addNode ⟨"draft", Action.idle, .empty⟩, .addNode ⟨"review", Action.idle, .empty⟩,
    .addEdge ⟨"draft", "review", none, .empty⟩, .addEdge ⟨"draft", "draft", none, .empty⟩,
    .addEdge ⟨"draft", "review", some (.const false), .empty⟩, .addEdge ⟨"draft", "review", none, .empty⟩,
    .setEntry "draft", .removeNode "review", .addNode ⟨"review", Action.fail "late", .empty⟩]

/-- The graph finds the new node, and all edges that were drawn to the old one. -/
theorem indexed_of_build_redeclared : ∃ g, (after redeclared (.empty .empty)).build = .ok g ∧
    (after redeclared (.empty .empty)).Indexed g ∧
    g.structuralNext "draft" = .ok ["review", "draft", "review", "review"] ∧
    g.traversable "draft" .empty = .ok ["review", "draft", "review"] ∧ g.structuralNext "review" = .ok [] ∧
    g.execute "review" .empty = .error (.nodeFailed "review" "late") ∧
    g.structuralNext "publish" = .error (.noNode "publish") := by
  refine ⟨_, rfl, indexed_of_build redeclared .empty _ rfl, ?_⟩
  exact ⟨rfl, rfl, rfl, rfl, rfl⟩

end Draft
end GatedFlow
