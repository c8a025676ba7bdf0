import GatedFlow.Proofs.Expression.Completeness

/-! # Fewer levels

With fewer levels below it a rule reads the same or finds the tokens nested too deep (`levels_narrowed`); nothing else
comes of the limit. So tokens that derive from an expression at some depth are read as it or are too deep, and they are
too deep exactly when they do not derive within the levels that are left (`tooDeep_of_not_derives`). -/

namespace GatedFlow

open Tokens

/-- An answer is that of another reader unless the tokens nest too deep. -/
def Narrowed {α : Type} (x x' : Except ExpressionError α) : Prop := x = .error .tooDeep ∨ x = x'

namespace Narrowed

variable {α β : Type} {x x' x'' : Except ExpressionError α} {f f' : α → Except ExpressionError β}

theorem refl : Narrowed x x := .inr rfl

theorem trans (h : Narrowed x x') (h' : Narrowed x' x'') : Narrowed x x'' := by
  rcases h with h | rfl
  · exact .inl h
  · exact h'

theorem bind (h : Narrowed x x') (hf : ∀ a, Narrowed (f a) (f' a)) : Narrowed (x >>= f) (x' >>= f') := by
  rcases h with rfl | rfl
  · exact .inl rfl
  · cases x with
    | error e => exact .inr rfl
    | ok a => exact hf a

end Narrowed

/-- The rules one level down answer alike unless the tokens nest too deep. -/
structure Deeper.Narrowed (d d' : Deeper) : Prop where
  expr : ∀ ts, GatedFlow.Narrowed (d.expr ts) (d'.expr ts)
  unary : ∀ ts, GatedFlow.Narrowed (d.unary ts) (d'.unary ts)
  items : ∀ ts, GatedFlow.Narrowed (d.items ts) (d'.items ts)

namespace Parser

variable {n m : Nat} {d d' : Deeper} {term term' : Rule} {ts : Tokens} {e : Expr}

theorem parenthesized_narrowed (hd : d.Narrowed d') (ts : Tokens) :
    Narrowed (parenthesized d ts) (parenthesized d' ts) :=
  (hd.expr ts).bind fun _ => .refl

theorem operand_narrowed (hd : d.Narrowed d') (ts : Tokens) : Narrowed (operand d ts) (operand d' ts) := by
  cases ts with
  | nil => exact .refl
  | cons t ts =>
    obtain ⟨pos, token⟩ := t
    cases token with
    | parenOpen => exact parenthesized_narrowed hd ts
    | bracketOpen => exact hd.items ts
    | word name =>
      simp only [operand]
      split_ifs
      -- Only `len(` goes down a level.
      all_goals first
        | exact .refl
        | exact Narrowed.refl.bind fun rest => (parenthesized_narrowed hd rest).bind fun _ => .refl
    | _ => exact .refl

theorem moreTerms_narrowed (asked : Token → Bool) (hterm : ∀ ts, Narrowed (term ts) (term' ts)) (fuel : Nat)
    (gathered : List Expr) (ts : Tokens) :
    Narrowed (moreTerms asked term fuel gathered ts) (moreTerms asked term' fuel gathered ts) := by
  induction fuel generalizing gathered ts with
  | zero => exact .refl
  | succ fuel ih =>
    cases ts with
    | nil => exact .refl
    | cons t ts =>
      simp only [moreTerms]
      split_ifs
      · exact (hterm ts).bind fun _ => ih ..
      · exact .refl

theorem chain_narrowed (asked : Token → Bool) (join : List Expr → Expr)
    (hterm : ∀ ts, Narrowed (term ts) (term' ts)) (ts : Tokens) :
    Narrowed (chain asked join term ts) (chain asked join term' ts) := by
  refine (hterm ts).bind fun ⟨first, rest⟩ => ?_
  cases rest with
  | nil => exact .refl
  | cons t rest =>
    dsimp only
    split_ifs
    · exact (moreTerms_narrowed asked hterm ..).bind fun _ => .refl
    · exact .refl

theorem chain_tooDeep {asked : Token → Bool} {join : List Expr → Expr} (h : term ts = .error .tooDeep) :
    chain asked join term ts = .error .tooDeep := by
  simp only [chain, h]
  rfl

variable [PatternEngine]

theorem comparison_narrowed (hd : d.Narrowed d') (ts : Tokens) : Narrowed (comparison d ts) (comparison d' ts) := by
  refine (operand_narrowed hd ts).bind fun ⟨left, rest⟩ => ?_
  dsimp only
  split
  · exact (operand_narrowed hd _).bind fun _ => .refl
  · exact .refl

theorem unary_narrowed (hd : d.Narrowed d') (ts : Tokens) : Narrowed (unary d ts) (unary d' ts) := by
  cases ts with
  | nil => exact comparison_narrowed hd []
  | cons t ts =>
    simp only [unary]
    split_ifs
    · exact (hd.unary ts).bind fun _ => .refl
    · exact comparison_narrowed hd (t :: ts)

theorem expression_narrowed (hd : d.Narrowed d') (ts : Tokens) : Narrowed (expression d ts) (expression d' ts) :=
  chain_narrowed _ _ (chain_narrowed _ _ (unary_narrowed hd)) ts

theorem listItems_narrowed (hd : d.Narrowed d') (fuel : Nat) (gathered : List Expr) (ts : Tokens) :
    Narrowed (listItems (expression d) fuel gathered ts) (listItems (expression d') fuel gathered ts) := by
  induction fuel generalizing gathered ts with
  | zero =>
    simp only [listItems]
    exact .refl
  | succ fuel ih =>
    simp only [listItems]
    refine (expression_narrowed hd ts).bind fun ⟨e, rest⟩ => ?_
    cases rest with
    | nil => exact .refl
    | cons t rest =>
      dsimp only
      split_ifs
      · exact ih ..
      · exact .refl
      · exact .refl

theorem listBody_narrowed (hd : d.Narrowed d') (ts : Tokens) : Narrowed (listBody d ts) (listBody d' ts) := by
  simp only [listBody]
  split_ifs
  · exact .refl
  · exact listItems_narrowed hd ..

theorem levels_succ_narrowed (n : Nat) : (levels n).Narrowed (levels (n + 1)) := by
  induction n with
  | zero => exact ⟨fun _ => .inl rfl, fun _ => .inl rfl, fun _ => .inl rfl⟩
  | succ n ih => exact ⟨expression_narrowed ih, unary_narrowed ih, listBody_narrowed ih⟩

theorem levels_narrowed (h : n ≤ m) : (levels n).Narrowed (levels m) := by
  induction h with
  | refl => exact ⟨fun _ => .refl, fun _ => .refl, fun _ => .refl⟩
  | @step m _ ih =>
    have hm := levels_succ_narrowed m
    exact ⟨fun ts => (ih.expr ts).trans (hm.expr ts), fun ts => (ih.unary ts).trans (hm.unary ts),
      fun ts => (ih.items ts).trans (hm.items ts)⟩

/-- What derives from an expression, but not within the levels that are left, is too deep. -/
theorem tooDeep_of_not_derives (h : Derives m (.expr e) (Tokens.kinds ts))
    (hdeep : ¬Derives n (.expr e) (Tokens.kinds ts)) {rest : Tokens} (hrest : Ahead Link.or.followers rest) :
    expression (levels n) (ts ++ rest) = .error .tooDeep := by
  have hnm : n ≤ m := Nat.le_of_not_le fun hmn => hdeep (h.mono hmn)
  refine (expression_narrowed (levels_narrowed hnm) (ts ++ rest)).resolve_right fun hsame => hdeep ?_
  obtain ⟨used, hused, hderives⟩ := expression_sound (levels_sound n) (hsame.trans (reads_of_derives h rfl rest hrest))
  rwa [List.append_cancel_right hused]

/-! ## What is too deep within is too deep around -/

variable {rest : Tokens} {first : Expr} {link : Link} {o t close : Placed}

theorem operand_tooDeep (ho : o.token = .parenOpen)
    (h : ∀ m, n = m + 1 → expression (levels m) ts = .error .tooDeep) :
    operand (levels n) (o :: ts) = .error .tooDeep := by
  have hexpr : (levels n).expr ts = .error .tooDeep := by
    cases n with
    | zero => rfl
    | succ m => exact h m rfl
  simp only [operand, ho, parenthesized, hexpr]
  rfl

theorem unary_tooDeep (ht : t.token ∉ negations) (h : operand d (t :: ts) = .error .tooDeep) :
    unary d (t :: ts) = .error .tooDeep := by
  simp only [unary, isNot_iff, if_neg ht, comparison, h]
  rfl

theorem negation_tooDeep (ht : t.token ∈ negations) (h : ∀ m, n = m + 1 → unary (levels m) ts = .error .tooDeep) :
    unary (levels n) (t :: ts) = .error .tooDeep := by
  have hunary : (levels n).unary ts = .error .tooDeep := by
    cases n with
    | zero => rfl
    | succ m => exact h m rfl
  simp only [unary, isNot_iff, if_pos ht, hunary]
  rfl

theorem rule_tooDeep (h : unary d ts = .error .tooDeep) : link.rule d ts = .error .tooDeep := by
  cases link with
  | and => exact h
  | or => exact chain_tooDeep h

theorem expression_tooDeep (link : Link) (h : chain (joins link) link.node (link.rule d) ts = .error .tooDeep) :
    expression d ts = .error .tooDeep := by
  cases link with
  | and => exact chain_tooDeep h
  | or => exact h

theorem chain_tooDeep_second (hfirst : link.rule d ts = .ok (first, t :: rest)) (ht : t.token ∈ link.words)
    (h : link.rule d rest = .error .tooDeep) :
    chain (joins link) link.node (link.rule d) ts = .error .tooDeep := by
  have hjoins : joins link t.token = true := joins_iff.2 ht
  simp only [chain, hfirst, bind, Except.bind, hjoins, if_true, List.length_cons, moreTerms, h]

end Parser
end GatedFlow
