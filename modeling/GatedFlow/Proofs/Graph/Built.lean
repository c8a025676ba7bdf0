import GatedFlow.Graph.Basic
import GatedFlow.Proofs.State.Schema

/-! # Graphs that are built

A graph without loose ends names declared nodes only: its entry point is declared, and wherever a run goes from a node,
whether a router decides or the open edges do, it comes to declared nodes (`Draft.closed_of_build`). -/

namespace GatedFlow

namespace Router

theorem mem_targetsOnce {rules : List RouteRule} {seen : List String} {target : String} :
    target ∈ targetsOnce rules seen ↔ target ∈ seen ∨ ∃ rule ∈ rules, rule.target = target := by
  induction rules generalizing seen with
  | nil => simp [targetsOnce]
  | cons rule rules ih =>
    rw [targetsOnce, ih]
    split <;> grind

theorem mem_of_best {rules : List RouteRule} {best? : Option RouteRule} {rule : RouteRule}
    (h : best best? rules = some rule) : best? = some rule ∨ rule ∈ rules := by
  induction rules generalizing best? with
  | nil => exact .inl h
  | cons first rules ih =>
    rcases ih h with hbest | hmem
    · split at hbest
      · cases hbest
        exact .inr List.mem_cons_self
      · exact .inl hbest
    · exact .inr (List.mem_cons_of_mem _ hmem)

theorem rule_of_mem_decision {r : Router} {s : State} {target : String} (h : target ∈ r.decision s) :
    ∃ rule ∈ r.rules, rule.target = target := by
  unfold decision at h
  split at h
  · obtain ⟨rule, hfound, rfl⟩ := Option.map_eq_some_iff.1 (Option.mem_toList.1 h)
    exact ⟨rule, List.mem_of_find?_eq_some hfound, rfl⟩
  · rcases mem_targetsOnce.1 h with hseen | ⟨rule, hmem, rfl⟩
    · cases hseen
    · exact ⟨rule, (List.mem_filter.1 hmem).1, rfl⟩
  · obtain ⟨rule, hbest, rfl⟩ := Option.map_eq_some_iff.1 (Option.mem_toList.1 h)
    rcases mem_of_best hbest with hnone | hmem
    · cases hnone
    · exact ⟨rule, (List.mem_filter.1 hmem).1, rfl⟩

/-- A router leads nowhere but to its targets. -/
theorem mem_targets_of_mem_route {r : Router} {s : State} {target : String} (h : target ∈ r.route s) :
    target ∈ r.targets := by
  unfold route at h
  dsimp only at h
  split at h
  · exact List.mem_append_right _ h
  · obtain ⟨rule, hmem, rfl⟩ := rule_of_mem_decision h
    exact List.mem_append_left _ (List.mem_map_of_mem hmem)

end Router

theorem contains_indexNodes {place : Nat} {index : Record Nat} {nodes : List Node} {name : String} :
    (indexNodes place index nodes).contains name = (index.contains name || nodes.any (·.name == name)) := by
  induction nodes generalizing place index with
  | nil => simp [indexNodes]
  | cons node nodes ih =>
    rw [indexNodes, ih, List.any_cons, Record.contains, Record.get?_insert, Record.contains]
    by_cases h : node.name = name
    · simp [h]
    · simp [h, beq_eq_false_iff_ne.2 h]

namespace Graph

variable {g : Graph} {node : String} {s : State}

theorem ofParts_declares (nodes : List Node) (edges : List Edge) (entry : String) (routers : Record Router)
    (metadata : Fields) (name : String) :
    (ofParts nodes edges entry routers metadata).declares name = nodes.any (·.name == name) := by
  show (indexNodes 0 .empty nodes).contains name = _
  rw [contains_indexNodes]
  rfl

theorem mem_edges_of_mem_edgesFrom {e : Edge} (h : e ∈ g.edgesFrom node) : e ∈ g.edges := by
  obtain ⟨i, -, hi⟩ := List.mem_filterMap.1 h
  exact List.mem_of_getElem? hi

theorem declares_of_next {targets : List String} (h : g.next node s = .ok targets) : g.declares node = true := by
  obtain ⟨_, hrequire, -⟩ := bind_eq_ok_iff.1 h
  unfold require at hrequire
  split at hrequire
  · assumption
  · cases hrequire

/-- A run that leaves a node follows the node's router, or its edges where it has none. -/
theorem mem_of_next {targets : List String} {target : String} (h : g.next node s = .ok targets) (htarget : target ∈ targets) :
    (∃ r, g.routers.get? node = some r ∧ target ∈ r.targets) ∨ ∃ e ∈ g.edges, e.target = target := by
  obtain ⟨_, -, h⟩ := bind_eq_ok_iff.1 h
  split at h
  · rename_i r hr
    cases h
    exact .inl ⟨r, hr, Router.mem_targets_of_mem_route htarget⟩
  · obtain ⟨edges, hedges, h⟩ := bind_eq_ok_iff.1 h
    obtain ⟨_, -, hedges⟩ := bind_eq_ok_iff.1 hedges
    cases hedges
    cases h
    obtain ⟨e, he, rfl⟩ := List.mem_map.1 htarget
    exact .inr ⟨e, mem_edges_of_mem_edgesFrom (List.mem_filter.1 he).1, rfl⟩

/-- Nothing leads out of a graph: runs begin at a declared node and go on to declared nodes. -/
structure Closed (g : Graph) : Prop where
  entry : g.declares g.entry = true
  next : ∀ node s targets, g.next node s = .ok targets → ∀ target ∈ targets, g.declares target = true

/-- Without violations everything that a graph names is declared. -/
theorem closed_of_validate (h : g.validate = []) : g.Closed := by
  obtain ⟨h, hrouters⟩ := List.append_eq_nil_iff.1 h
  obtain ⟨hentry, hedges⟩ := List.append_eq_nil_iff.1 h
  refine ⟨?_, fun node s targets hnext target htarget => ?_⟩
  · unfold entryViolations at hentry
    dsimp only at hentry
    split at hentry
    · assumption
    · cases hentry
  rcases mem_of_next hnext htarget with ⟨r, hr, hmem⟩ | ⟨e, he, rfl⟩
  · have hentry : (node, r) ∈ g.routers.entries := (KeySorted.findEntry_eq_some_iff g.routers.sorted).1 hr
    obtain ⟨-, htargets⟩ := List.append_eq_nil_iff.1 (List.flatMap_eq_nil_iff.1 hrouters _ hentry)
    have hdeclared := List.filter_eq_nil_iff.1 (List.map_eq_nil_iff.1 htargets) target hmem
    simpa using hdeclared
  · obtain ⟨-, htarget⟩ := List.append_eq_nil_iff.1 (List.flatMap_eq_nil_iff.1 hedges e he)
    split at htarget
    · assumption
    · cases htarget

end Graph

/-- A graph that is built from a draft passes the check that the draft has passed. -/
theorem Draft.validate_of_build {d : Draft} {g : Graph} (h : d.build = .ok g) : g.validate = [] := by
  unfold build at h
  split at h
  · rename_i entry hentry hvalid
    cases h
    rw [← hvalid, Draft.validate, hentry]
    have hdeclares : (Graph.ofParts d.nodes d.edges entry d.routers d.metadata).declares = d.declares :=
      funext (Graph.ofParts_declares _ _ _ _ _)
    rw [Graph.validate, hdeclares]
    rfl
  · cases h

theorem Draft.closed_of_build {d : Draft} {g : Graph} (h : d.build = .ok g) : g.Closed :=
  Graph.closed_of_validate (validate_of_build h)

end GatedFlow
