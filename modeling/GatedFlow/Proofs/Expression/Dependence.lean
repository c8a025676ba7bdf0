import GatedFlow.Expression.Eval

/-! # What a condition depends on

A condition reads a state only along the paths in it. What these lead to settles its value or its error, whichever of its
terms are reached (`Expr.eval_eq_of_resolve?_eq`), and what a path leads to is settled by the field that its first key names,
unless it is `state` alone. So the fields that a condition names settle what comes of it (`Expression.alike_of_agree`). -/

namespace GatedFlow

/-- The field that a path begins with; `state` alone and a path that begins with an index have none. -/
def rootField? : List Segment → Option String
  | .key name :: _ => some name
  | _ => none

namespace Expr

mutual
/-- The paths in a tree, from left to right. -/
def paths : Expr → List (List Segment)
  | literal _ => []
  | list items => pathsOfAll items
  | path segments => [segments]
  | len e => e.paths
  | not e => e.paths
  | conj terms => pathsOfAll terms
  | disj terms => pathsOfAll terms
  | compare _ left right => left.paths ++ right.paths
  | matching e _ => e.paths

def pathsOfAll : List Expr → List (List Segment)
  | [] => []
  | e :: rest => e.paths ++ pathsOfAll rest
end

/-- The fields that a tree names. -/
def names (e : Expr) : List String := e.paths.filterMap rootField?

variable {s t : State}

mutual
/-- States in which every path of a tree leads to the same are not told apart by it. -/
theorem eval_eq_of_resolve?_eq (e : Expr) (h : ∀ p ∈ e.paths, s.resolve? p = t.resolve? p) : e.eval s = e.eval t := by
  match e with
  | literal v => rfl
  | list items => rw [eval, eval, evalItems_eq_of_resolve?_eq items h]
  | path segments => rw [eval, eval, h segments (List.mem_singleton.2 rfl)]
  | len e => rw [eval, eval, eval_eq_of_resolve?_eq e h]
  | not e => rw [eval, eval, eval_eq_of_resolve?_eq e h]
  | conj terms => rw [eval, eval, evalConj_eq_of_resolve?_eq terms h]
  | disj terms => rw [eval, eval, evalDisj_eq_of_resolve?_eq terms h]
  | compare op left right =>
    have hleft := eval_eq_of_resolve?_eq left fun p hp => h p (List.mem_append_left _ hp)
    have hright := eval_eq_of_resolve?_eq right fun p hp => h p (List.mem_append_right _ hp)
    rw [eval, eval, hleft, hright]
  | matching e p => rw [eval, eval, eval_eq_of_resolve?_eq e h]

theorem evalItems_eq_of_resolve?_eq (items : List Expr) (h : ∀ p ∈ pathsOfAll items, s.resolve? p = t.resolve? p) :
    evalItems s items = evalItems t items := by
  match items with
  | [] => rfl
  | e :: rest =>
    have hfirst := eval_eq_of_resolve?_eq e fun p hp => h p (List.mem_append_left _ hp)
    have hrest := evalItems_eq_of_resolve?_eq rest fun p hp => h p (List.mem_append_right _ hp)
    rw [evalItems, evalItems, hfirst, hrest]

theorem evalConj_eq_of_resolve?_eq (terms : List Expr) (h : ∀ p ∈ pathsOfAll terms, s.resolve? p = t.resolve? p) :
    evalConj s terms = evalConj t terms := by
  match terms with
  | [] => rfl
  | e :: rest =>
    have hfirst := eval_eq_of_resolve?_eq e fun p hp => h p (List.mem_append_left _ hp)
    have hrest := evalConj_eq_of_resolve?_eq rest fun p hp => h p (List.mem_append_right _ hp)
    rw [evalConj, evalConj, hfirst, hrest]

theorem evalDisj_eq_of_resolve?_eq (terms : List Expr) (h : ∀ p ∈ pathsOfAll terms, s.resolve? p = t.resolve? p) :
    evalDisj s terms = evalDisj t terms := by
  match terms with
  | [] => rfl
  | e :: rest =>
    have hfirst := eval_eq_of_resolve?_eq e fun p hp => h p (List.mem_append_left _ hp)
    have hrest := evalDisj_eq_of_resolve?_eq rest fun p hp => h p (List.mem_append_right _ hp)
    rw [evalDisj, evalDisj, hfirst, hrest]
end

end Expr

/-- What a path leads to is settled by the field it begins with. -/
theorem State.resolve?_eq_of_root {s t : State} {p : List Segment} (hp : p ≠ [])
    (h : ∀ name, rootField? p = some name → s.get? name = t.get? name) : s.resolve? p = t.resolve? p := by
  cases p with
  | nil => exact absurd rfl hp
  | cons segment rest =>
    cases segment with
    | key name => rw [resolve?, resolve?, h name rfl]
    | index i => rfl

namespace Expression

/-- A condition comes to the same in two states, whether that is a value or an error. -/
def Alike (e : Expression) (s t : State) : Prop := e.value s = e.value t ∧ e.holds s = e.holds t

theorem Alike.trans {e : Expression} {s t u : State} (h : e.Alike s t) (h' : e.Alike t u) : e.Alike s u :=
  ⟨h.1.trans h'.1, h.2.trans h'.2⟩

/-- States that agree in the fields that a condition names are alike for it, unless it asks for the whole state. -/
theorem alike_of_agree {e : Expression} (hwhole : [] ∉ e.tree.paths) {s t : State}
    (h : ∀ name ∈ e.tree.names, s.get? name = t.get? name) : e.Alike s t := by
  have hpaths : ∀ p ∈ e.tree.paths, s.resolve? p = t.resolve? p := by
    intro p hp
    have hne : p ≠ [] := fun hnil => hwhole (hnil ▸ hp)
    refine State.resolve?_eq_of_root hne fun name hname => ?_
    exact h name (List.mem_filterMap.2 ⟨p, hp, hname⟩)
  have hvalue : e.value s = e.value t := Expr.eval_eq_of_resolve?_eq e.tree hpaths
  exact ⟨hvalue, congrArg (Except.map Value.truthy) hvalue⟩

end Expression
end GatedFlow
