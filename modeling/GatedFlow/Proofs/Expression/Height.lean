import GatedFlow.Expression.Eval
import GatedFlow.Proofs.Expression.Completeness

/-! # The height of a condition

Each level of nesting adds at most four levels to a tree: an item of a list or what is measured, the comparison that it
stands in, and a chain of either kind. The chains themselves are flat, so the height of a condition is bounded by its nesting
alone, however long it is (`Derives.height_le`). Evaluation calls itself once for every level at most: with room for as many
calls inside one another as a tree is high it comes to the value of the tree (`Expr.evalWithin_eq`). -/

namespace GatedFlow

namespace Expr

theorem height_le_heightOfAll {e : Expr} {es : List Expr} (h : e ∈ es) : e.height ≤ heightOfAll es := by
  induction es with
  | nil => cases h
  | cons e' es ih =>
    rw [heightOfAll]
    rcases List.mem_cons.1 h with rfl | hmem
    · exact Nat.le_max_left ..
    · exact Nat.le_trans (ih hmem) (Nat.le_max_right ..)

end Expr

/-- A chain is at most one level higher than its terms. -/
theorem Link.height_tree_le (link : Link) (es : List Expr) : (link.tree es).height ≤ Expr.heightOfAll es + 1 := by
  have hnode : (link.node es).height = Expr.heightOfAll es + 1 := by cases link <;> simp [node, Expr.height]
  unfold tree
  split
  · rw [Expr.heightOfAll]
    omega
  · exact Nat.le_of_eq hnode

namespace Phrase

/-- The height of the tree or trees of a phrase. -/
def height : Phrase → Nat
  | expr e => e.height
  | conj e => e.height
  | unary e => e.height
  | comparison e => e.height
  | operand e => e.height
  | terms _ es => Expr.heightOfAll es
  | items es => Expr.heightOfAll es

/-- How many levels a part of the grammar can have without any nesting. -/
def layers : Phrase → Nat
  | operand _ => 1
  | comparison _ => 2
  | unary _ => 2
  | terms .and _ => 2
  | conj _ => 3
  | terms .or _ => 3
  | expr _ => 4
  | items _ => 4

end Phrase

theorem Derives.height_le [PatternEngine] {n : Nat} {p : Phrase} {ts : List Token} (h : Derives n p ts) :
    p.height ≤ 4 * n + p.layers := by
  induction h with
  | number | string | constant | path => simp [Phrase.height, Phrase.layers, Expr.height]
  | emptyList => simp [Phrase.height, Phrase.layers, Expr.height, Expr.heightOfAll]
  | len _ ih | list _ ih | parens _ ih | negation _ _ ih =>
    simp only [Phrase.height, Phrase.layers, Expr.height] at ih ⊢
    omega
  | bare _ ih | matching _ _ ih | plain _ ih =>
    simp only [Phrase.height, Phrase.layers, Expr.height] at ih ⊢
    omega
  | compare op _ _ ih ih' =>
    simp only [Phrase.height, Phrase.layers, Expr.height] at ih ih' ⊢
    omega
  | lastItem _ ih =>
    simp only [Phrase.height, Phrase.layers, Expr.heightOfAll] at ih ⊢
    omega
  | moreItems _ _ ih ih' =>
    simp only [Phrase.height, Phrase.layers, Expr.heightOfAll] at ih ih' ⊢
    omega
  | @lastTerm n link e ts _ ih =>
    cases link <;> simp only [Link.term, Phrase.height, Phrase.layers, Expr.heightOfAll] at ih ⊢ <;> omega
  | @moreTerms n link e es t ts us _ _ _ ih ih' =>
    cases link <;> simp only [Link.term, Phrase.height, Phrase.layers, Expr.heightOfAll] at ih ih' ⊢ <;> omega
  | @chain n link es ts _ ih =>
    have htree := link.height_tree_le es
    cases link <;> simp only [Link.chain, Phrase.height, Phrase.layers] at ih ⊢ <;> omega

namespace Parser

/-- The tree of a condition has four levels for each level of nesting that is allowed, and four more. -/
theorem height_le_of_parse [PatternEngine] {ts : Tokens} {e : Expr} (h : parse ts = .ok e) :
    e.height ≤ 4 * (maxDepth + 1) := by
  have hderives := (parse_eq_ok_iff.1 h).height_le
  simp only [Phrase.height, Phrase.layers] at hderives
  omega

end Parser

/-! ## Evaluating -/

/-- What is evaluated, if there is room for the calls inside one another that this takes. -/
abbrev Roomed (α : Type) := ExceptT PredicateError Option α

namespace Roomed

def ofExcept {α : Type} (r : Except PredicateError α) : Roomed α := some r

/-- Whether all terms are true, up to the first that is not. -/
def all (eval : Expr → Roomed Value) : List Expr → Roomed Bool
  | [] => return true
  | e :: rest => do
    let v ← eval e
    if v.truthy then all eval rest else return false

/-- Whether a term is true, up to the first that is. -/
def any (eval : Expr → Roomed Value) : List Expr → Roomed Bool
  | [] => return false
  | e :: rest => do
    let v ← eval e
    if v.truthy then return true else any eval rest

/-- With enough room there is an outcome. -/
def Gives {α : Type} (x : Roomed α) (r : Except PredicateError α) : Prop := x = some r

theorem Gives.bind {α β : Type} {x : Roomed α} {r : Except PredicateError α} {f : α → Roomed β}
    {g : α → Except PredicateError β} (h : Gives x r) (hf : ∀ a, Gives (f a) (g a)) : Gives (x >>= f) (r >>= g) := by
  cases h
  cases r with
  | error p => rfl
  | ok a => exact hf a

theorem Gives.map {α β : Type} {x : Roomed α} {r : Except PredicateError α} (h : Gives x r) (f : α → β) :
    Gives (f <$> x) (r.map f) := by
  cases h
  cases r <;> rfl

theorem gives_ofExcept {α : Type} (r : Except PredicateError α) : Gives (ofExcept r) r := rfl

end Roomed

namespace Expr

/-- Evaluates a tree with room for so many evaluations inside one another, this one among them. -/
def evalWithin (s : State) : Nat → Expr → Roomed Value
  | 0, _ => ExceptT.mk none
  | room + 1, e =>
    match e with
    | literal v => return v
    | path segments => return (s.resolve? segments).getD .null
    | list items => .array <$> items.mapM (evalWithin s room)
    | len e => do
      let v ← evalWithin s room e
      let n ← Roomed.ofExcept (lengthOf v)
      return .int n
    | not e => do
      let v ← evalWithin s room e
      return .bool !v.truthy
    | conj terms => .bool <$> Roomed.all (evalWithin s room) terms
    | disj terms => .bool <$> Roomed.any (evalWithin s room) terms
    | compare op left right => do
      let l ← evalWithin s room left
      let r ← evalWithin s room right
      return .bool (← Roomed.ofExcept (op.apply l r))
    | matching e p => do
      let v ← evalWithin s room e
      return .bool (← Roomed.ofExcept (matchesPattern p v))

/-- Each negation is one more evaluation inside another. -/
example (s : State) : (literal .null).not.evalWithin s 1 = none := rfl

section

variable {s : State} {eval : Expr → Roomed Value} {es : List Expr}

theorem mapM_gives (h : ∀ e ∈ es, (eval e).Gives (e.eval s)) : Roomed.Gives (es.mapM eval) (evalItems s es) := by
  induction es with
  | nil => rfl
  | cons e es ih =>
    obtain ⟨hfirst, hrest⟩ := List.forall_mem_cons.1 h
    rw [List.mapM_cons, evalItems]
    exact hfirst.bind fun v => (ih hrest).bind fun vs => rfl

theorem all_gives (h : ∀ e ∈ es, (eval e).Gives (e.eval s)) : Roomed.Gives (Roomed.all eval es) (evalConj s es) := by
  induction es with
  | nil => rfl
  | cons e es ih =>
    obtain ⟨hfirst, hrest⟩ := List.forall_mem_cons.1 h
    rw [Roomed.all, evalConj]
    refine hfirst.bind fun v => ?_
    split
    · exact ih hrest
    · rfl

theorem any_gives (h : ∀ e ∈ es, (eval e).Gives (e.eval s)) : Roomed.Gives (Roomed.any eval es) (evalDisj s es) := by
  induction es with
  | nil => rfl
  | cons e es ih =>
    obtain ⟨hfirst, hrest⟩ := List.forall_mem_cons.1 h
    rw [Roomed.any, evalDisj]
    refine hfirst.bind fun v => ?_
    split
    · rfl
    · exact ih hrest

end

/-- A tree is evaluated with room for as many evaluations inside one another as it is high. -/
theorem evalWithin_eq (s : State) {room : Nat} {e : Expr} (h : e.height ≤ room) : e.evalWithin s room = some (e.eval s) := by
  induction room generalizing e with
  | zero =>
    have hpos : 0 < e.height := by cases e <;> simp [height]
    omega
  | succ room ih =>
    have terms {es : List Expr} (hes : heightOfAll es + 1 ≤ room + 1) : ∀ e ∈ es, (evalWithin s room e).Gives (e.eval s) :=
      fun e he => ih (by have := height_le_heightOfAll he; omega)
    cases e with
    | literal v => rfl
    | path segments => rfl
    | list items => rw [evalWithin, eval]; exact (mapM_gives (terms h)).map _
    | conj es => rw [evalWithin, eval]; exact (all_gives (terms h)).map _
    | disj es => rw [evalWithin, eval]; exact (any_gives (terms h)).map _
    | len e =>
      rw [evalWithin, eval]
      have he : (evalWithin s room e).Gives (e.eval s) := ih (Nat.le_of_succ_le_succ h)
      exact he.bind fun v => (Roomed.gives_ofExcept _).bind fun _ => rfl
    | not e =>
      rw [evalWithin, eval]
      have he : (evalWithin s room e).Gives (e.eval s) := ih (Nat.le_of_succ_le_succ h)
      exact he.bind fun v => rfl
    | compare op left right =>
      rw [evalWithin, eval]
      have hmax : max left.height right.height ≤ room := Nat.le_of_succ_le_succ h
      have hleft : (evalWithin s room left).Gives (left.eval s) := ih (by omega)
      have hright : (evalWithin s room right).Gives (right.eval s) := ih (by omega)
      exact hleft.bind fun l => hright.bind fun r => (Roomed.gives_ofExcept _).bind fun _ => rfl
    | matching e p =>
      rw [evalWithin, eval]
      have he : (evalWithin s room e).Gives (e.eval s) := ih (Nat.le_of_succ_le_succ h)
      exact he.bind fun v => (Roomed.gives_ofExcept _).bind fun _ => rfl

end Expr
end GatedFlow
