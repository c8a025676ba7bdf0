import GatedFlow.Gate.Condition
import GatedFlow.Proofs.Expression.Depth
import GatedFlow.Proofs.Expression.Language
import GatedFlow.Proofs.Expression.Splitting
import Mathlib

/-! # Combining conditions is combining their sources

A `Combination` joins conditions that were read from sources. Its source writes each operand in parentheses. That source
is too deep exactly when one of the leaves nests deeper than what its place leaves to it, and is a condition otherwise
that answers as the joined conditions do, with their errors and in their order (`Combination.ofSource_source`). -/

namespace GatedFlow

open Tokens

namespace Expr

/-- The second of two terms counts only if the first is true. -/
theorem truthy_conj (s : State) (e e' : Expr) : ((conj [e, e']).eval s).map Value.truthy =
    (do let x ← (e.eval s).map Value.truthy; if x then (e'.eval s).map Value.truthy else return false) := by
  simp only [eval, evalConj]
  cases e.eval s with
  | error p => rfl
  | ok v =>
    simp only [bind, Except.bind, pure, Except.pure, Except.map]
    cases v.truthy with
    | false => rfl
    | true =>
      cases e'.eval s with
      | error p => rfl
      | ok v' => cases h : v'.truthy <;> simp [h] <;> rfl

/-- The second of two terms counts only if the first is not true. -/
theorem truthy_disj (s : State) (e e' : Expr) : ((disj [e, e']).eval s).map Value.truthy =
    (do let x ← (e.eval s).map Value.truthy; if x then return true else (e'.eval s).map Value.truthy) := by
  simp only [eval, evalDisj]
  cases e.eval s with
  | error p => rfl
  | ok v =>
    simp only [bind, Except.bind, pure, Except.pure, Except.map]
    cases v.truthy with
    | true => rfl
    | false =>
      cases e'.eval s with
      | error p => rfl
      | ok v' => cases h : v'.truthy <;> simp [h] <;> rfl

theorem truthy_not (s : State) (e : Expr) :
    ((not e).eval s).map Value.truthy = (do let x ← (e.eval s).map Value.truthy; return !x) := by
  simp only [eval]
  cases e.eval s <;> rfl

end Expr

def Link.name : Link → String
  | and => "and"
  | or => "or"

/-- Both conditions, or one of the two. -/
def Link.join : Link → Condition → Condition → Condition
  | and => Condition.and
  | or => Condition.or

theorem Link.name_mem_words (link : Link) : Token.word link.name ∈ link.words := by
  cases link <;> simp [words, name]

/-- Conditions read from sources, joined and negated. -/
inductive Combination [PatternEngine] where
  | leaf (source : String) (condition : Condition) (read : Condition.ofSource source = .ok condition)
  | joined (link : Link) (left right : Combination)
  | negated (inner : Combination)

namespace Combination

section

variable [PatternEngine]

def condition : Combination → Condition
  | leaf _ condition _ => condition
  | joined link left right => link.join left.condition right.condition
  | negated inner => inner.condition.negate

def source : Combination → String
  | leaf source _ _ => source
  | joined link left right => "(" ++ left.source ++ ") " ++ link.name ++ " (" ++ right.source ++ ")"
  | negated inner => "not (" ++ inner.source ++ ")"

/-- The source stays within `n` levels: one for the parentheses of an operand, and one more for a negation. -/
def Within : Combination → Nat → Prop
  | leaf source _ _, n => ∃ ts e, tokenize source = .ok ts ∧ Derives n (.expr e) (Tokens.kinds ts)
  | joined _ left right, n + 1 => left.Within n ∧ right.Within n
  | negated inner, n + 2 => inner.Within n
  | _, _ => False

/-- What the source of a combination is split into, and how it reads with any number of levels left. -/
structure Written (c : Combination) (ts : List Token) (e : Expr) : Prop where
  splits : Lexer.Splits c.source.toList ts
  derives : ∀ {n}, c.Within n → Derives n (.expr e) ts
  tooDeep : ∀ {n placed rest}, ¬c.Within n → Tokens.kinds placed = ts → Ahead closers rest →
    Parser.expression (Parser.levels n) (placed ++ rest) = .error .tooDeep
  check : ∀ s, (e.eval s).map Value.truthy = c.condition.check s

variable {c left right inner : Combination} {link : Link} {ts us : List Token} {e e' : Expr} {n : Nat}

theorem within_joined_iff :
    (joined link left right).Within n ↔ ∃ m, n = m + 1 ∧ left.Within m ∧ right.Within m := by
  cases n <;> simp [Within]

theorem within_negated_iff : (negated inner).Within n ↔ ∃ m, n = m + 2 ∧ inner.Within m := by
  rcases n with - | - | n <;> simp [Within]

theorem written_leaf {source : String} {condition : Condition} (read : Condition.ofSource source = .ok condition) :
    ∃ ts e, (leaf source condition read).Written ts e := by
  obtain ⟨_, hp, rfl⟩ := map_eq_ok_iff.1 read
  obtain ⟨x, hx, rfl⟩ := map_eq_ok_iff.1 hp
  obtain ⟨-, placed, hplaced, hderives⟩ := Expression.ofSource_eq_ok_iff.1 hx
  -- The tokens have no other tree, so the levels they need are those of this one.
  have within_iff {n : Nat} : (leaf source _ read).Within n ↔ Derives n (.expr x.tree) (Tokens.kinds placed) := by
    constructor
    · rintro ⟨ts, e, hts, h⟩
      cases hplaced.symm.trans hts
      rwa [hderives.expr_unique h]
    · exact fun h => ⟨placed, x.tree, hplaced, h⟩
  exact ⟨Tokens.kinds placed, x.tree, {
    splits := Lexer.Splits.of_tokenize hplaced
    derives := within_iff.1
    tooDeep := fun hdeep hkinds hrest => by
      rw [within_iff, ← hkinds] at hdeep
      exact Parser.tooDeep_of_not_derives (hkinds ▸ hderives) hdeep hrest
    check := fun _ => rfl }⟩

/-! ## Operands in parentheses -/

theorem Written.parens (h : c.Written ts e) (hn : c.Within n) :
    Derives (n + 1) (.unary e) (.parenOpen :: (ts ++ [.parenClose])) :=
  .plain (.bare (.parens (h.derives hn)))

theorem Written.parens_tooDeep {rest placed : Tokens} {o close : Placed} (h : c.Written ts e)
    (hn : ∀ m, n = m + 1 → ¬c.Within m) (ho : o.token = .parenOpen) (hplaced : Tokens.kinds placed = ts)
    (hclose : close.token = .parenClose) :
    Parser.unary (Parser.levels n) (o :: (placed ++ close :: rest)) = .error .tooDeep :=
  Parser.unary_tooDeep (by simp [ho, negations]) (Parser.operand_tooDeep ho fun m hm =>
    h.tooDeep (hn m hm) hplaced (by simp [Ahead, hclose, closers]))

theorem toList_joined : (joined link left right).source.toList =
    '(' :: (left.source.toList ++ ')' :: ' ' :: (link.name.toList ++ ' ' ::
      '(' :: (right.source.toList ++ [')']))) := by
  simp [source]

theorem toList_negated :
    (negated inner).source.toList = "not".toList ++ ' ' :: '(' :: (inner.source.toList ++ [')']) := by
  simp [source]

theorem written_negated (h : inner.Written ts e) :
    (negated inner).Written (.word "not" :: .parenOpen :: (ts ++ [.parenClose])) (.not e) where
  splits := by
    rw [toList_negated]
    exact .word (by simp) (.parenOpen (h.splits.append (.parenClose .nil)))
  derives hn := by
    obtain ⟨m, rfl, hm⟩ := within_negated_iff.1 hn
    exact .single .or (.single .and (.negation (by simp [negations]) (h.parens hm)))
  tooDeep {n placed rest} hn hplaced hrest := by
    obtain ⟨t, _, rfl, ht, hplaced⟩ := kinds_eq_cons_iff.1 hplaced
    obtain ⟨o, _, rfl, ho, hplaced⟩ := kinds_eq_cons_iff.1 hplaced
    obtain ⟨placed, close, rfl, hplaced, hclose⟩ := kinds_eq_concat_iff.1 hplaced
    simp only [List.cons_append, List.append_assoc, List.nil_append]
    refine Parser.chain_tooDeep (Parser.chain_tooDeep (Parser.negation_tooDeep (by simp [ht, negations]) ?_))
    rintro m rfl
    refine h.parens_tooDeep ?_ ho hplaced hclose
    rintro m rfl hm
    exact hn (within_negated_iff.2 ⟨m, rfl, hm⟩)
  check s := (Expr.truthy_not s e).trans (by rw [h.check s]; rfl)

theorem derives_term (h : Derives n (.unary e) ts) : Derives n (link.term e) ts := by
  cases link with
  | and => exact h
  | or => exact .single .and h

theorem derives_expr (h : Derives n (link.chain e) ts) : Derives n (.expr e) ts := by
  cases link with
  | and => exact .single .or h
  | or => exact h

theorem check_joined (s : State) (hl : (e.eval s).map Value.truthy = left.condition.check s)
    (hr : (e'.eval s).map Value.truthy = right.condition.check s) :
    ((link.node [e, e']).eval s).map Value.truthy = (joined link left right).condition.check s := by
  cases link with
  | and => exact (Expr.truthy_conj s e e').trans (by rw [hl, hr]; rfl)
  | or => exact (Expr.truthy_disj s e e').trans (by rw [hl, hr]; rfl)

theorem written_joined (link : Link) (hl : left.Written ts e) (hr : right.Written us e') :
    (joined link left right).Written
      (.parenOpen :: (ts ++ [.parenClose]) ++ .word link.name :: .parenOpen :: (us ++ [.parenClose]))
      (link.node [e, e']) where
  splits := by
    have hright := hr.splits.append (.parenClose .nil)
    have hword : Lexer.Splits _ (.word link.name :: _) := .word (by cases link <;> simp [Link.name]) (.parenOpen hright)
    simpa [toList_joined] using .parenOpen (hl.splits.append (.parenClose (.space hword)))
  derives hn := by
    obtain ⟨m, rfl, hleft, hright⟩ := within_joined_iff.1 hn
    exact derives_expr (.chain (.moreTerms (derives_term (hl.parens hleft)) (link.name_mem_words)
      (.lastTerm (derives_term (hr.parens hright)))))
  tooDeep {n placed rest} hn hplaced hrest := by
    obtain ⟨front, back, rfl, hfront, hback⟩ := kinds_eq_append_iff.1 hplaced
    obtain ⟨w, _, rfl, hw, hback⟩ := kinds_eq_cons_iff.1 hback
    obtain ⟨o', _, rfl, ho', hback⟩ := kinds_eq_cons_iff.1 hback
    obtain ⟨placed', close', rfl, hplaced', hclose'⟩ := kinds_eq_concat_iff.1 hback
    refine Parser.expression_tooDeep link ?_
    by_cases hleft : ∃ m, n = m + 1 ∧ left.Within m
    · obtain ⟨m, rfl, hleft⟩ := hleft
      have hwords : w.token ∈ link.words := hw ▸ link.name_mem_words
      have hterm : Derives (m + 1) (link.term e) _ := derives_term (hl.parens hleft)
      have hfirst := Parser.reads_term_iff.1 (Parser.reads_of_derives hterm hfront)
        (w :: (o' :: (placed' ++ close' :: rest))) (by simp [Ahead, hwords])
      simp only [List.append_assoc, List.cons_append, List.nil_append] at hfirst ⊢
      refine Parser.chain_tooDeep_second hfirst hwords (Parser.rule_tooDeep (hr.parens_tooDeep ?_ ho' hplaced' hclose'))
      intro k hk hright
      cases hk
      exact hn (within_joined_iff.2 ⟨m, rfl, hleft, hright⟩)
    · obtain ⟨o, _, rfl, ho, hfront⟩ := kinds_eq_cons_iff.1 hfront
      obtain ⟨placed, close, rfl, hplaced, hclose⟩ := kinds_eq_concat_iff.1 hfront
      simp only [List.append_assoc, List.cons_append, List.nil_append]
      refine Parser.chain_tooDeep (Parser.rule_tooDeep (hl.parens_tooDeep ?_ ho hplaced hclose))
      exact fun m hm h => hleft ⟨m, hm, h⟩
  check s := check_joined s (hl.check s) (hr.check s)

theorem exists_written (c : Combination) : ∃ ts e, c.Written ts e := by
  induction c with
  | leaf source condition read => exact written_leaf read
  | joined link left right ihl ihr =>
    obtain ⟨ts, e, hl⟩ := ihl
    obtain ⟨us, e', hr⟩ := ihr
    exact ⟨_, _, written_joined link hl hr⟩
  | negated inner ih =>
    obtain ⟨ts, e, h⟩ := ih
    exact ⟨_, _, written_negated h⟩

/-- The source of joined conditions is too deep, or a condition with the answers and the errors of the joined ones. -/
theorem ofSource_source (c : Combination) :
    (c.Within maxDepth → ∃ e, Expression.ofSource c.source = .ok e ∧ e.source = c.source ∧
      ∀ s, e.holds s = c.condition.check s) ∧
    (¬c.Within maxDepth → Expression.ofSource c.source = .error .tooDeep) := by
  obtain ⟨ts, e, h⟩ := exists_written c
  obtain ⟨placed, hplaced, rfl⟩ := h.splits.tokenize
  constructor
  · intro hc
    refine ⟨⟨c.source, e⟩, ?_, rfl, h.check⟩
    exact Expression.ofSource_eq_ok_iff.2 ⟨rfl, placed, hplaced, h.derives hc⟩
  · intro hc
    have hdeep := h.tooDeep hc rfl (show Ahead closers [] by simp [Ahead])
    rw [List.append_nil] at hdeep
    simp only [Expression.ofSource, hplaced, Parser.parse, hdeep, bind, Except.bind]

theorem read_of_derives {source : String} {placed : Tokens} (hplaced : tokenize source = .ok placed)
    (h : Derives maxDepth (.expr e) (Tokens.kinds placed)) :
    Condition.ofSource source = .ok ⟨source, .expression ⟨source, e⟩⟩ := by
  have hread : Expression.ofSource source = .ok ⟨source, e⟩ :=
    Expression.ofSource_eq_ok_iff.2 ⟨rfl, placed, hplaced, h⟩
  rw [Condition.ofSource, Predicate.ofSource, hread]
  rfl

end

theorem derives_field {n : Nat} {name : String} :
    Derives n (.expr (.path [.key name])) [.word "state", .dot, .word name] :=
  .single .or (.single .and (.plain (.bare (.path (.field name .nil)))))

theorem tokenize_paid : tokenize "state.paid" = .ok [⟨0, .word "state"⟩, ⟨5, .dot⟩, ⟨6, .word "paid"⟩] := by cbv

theorem tokenize_sent : tokenize "state.sent" = .ok [⟨0, .word "state"⟩, ⟨5, .dot⟩, ⟨6, .word "sent"⟩] := by cbv

def paid : Combination := leaf "state.paid" _ (read_of_derives tokenize_paid derives_field)

def sent : Combination := leaf "state.sent" _ (read_of_derives tokenize_sent derives_field)

/-- Each negation takes two levels, so 65 of them are too many. -/
theorem ofSource_not_both :
    (∃ e, Expression.ofSource "not ((state.paid) and (state.sent))" = .ok e ∧
      e.source = "not ((state.paid) and (state.sent))" ∧
      ∀ s, e.holds s = (negated (joined .and paid sent)).condition.check s) ∧
    Expression.ofSource (negated^[65] paid).source = .error .tooDeep := by
  constructor
  · refine (ofSource_source (negated (joined .and paid sent))).1 ?_
    exact ⟨⟨_, _, tokenize_paid, derives_field⟩, ⟨_, _, tokenize_sent, derives_field⟩⟩
  · exact (ofSource_source (negated^[65] paid)).2 id

end Combination
end GatedFlow
