import GatedFlow.Edits.Operation
import GatedFlow.Expression.Parser
import GatedFlow.Proofs.Expression.Grammar
import Mathlib.Tactic.SplitIfs

/-! # Whatever is read derives from the grammar

`Begins n p ts rest` says that tokens begin with a phrase and go on with `rest`. Each way to read, with `n` levels below
it, only takes tokens off the front that derive from its part of the grammar and nest no deeper than `n`; for the levels
this is an induction on their number (`levels_sound`). -/

namespace GatedFlow

/-- The tokens without their positions. -/
def Tokens.kinds (ts : Tokens) : List Token := ts.map (·.token)

/-- Tokens begin with those of a phrase that nests no deeper than `n`. -/
def Begins [PatternEngine] (n : Nat) (p : Phrase) (ts rest : Tokens) : Prop :=
  ∃ used, ts = used ++ rest ∧ Derives n p (Tokens.kinds used)

namespace Tokens

@[simp] theorem kinds_nil : Tokens.kinds [] = [] := rfl

@[simp] theorem kinds_cons (t : Placed) (ts : Tokens) : Tokens.kinds (t :: ts) = t.token :: Tokens.kinds ts := rfl

@[simp] theorem kinds_append (ts us : Tokens) : Tokens.kinds (ts ++ us) = Tokens.kinds ts ++ Tokens.kinds us :=
  List.map_append

end Tokens

/-- With `n` levels below, the rules one level down take tokens off that nest less deep. -/
structure Deeper.Sound [PatternEngine] (d : Deeper) (n : Nat) : Prop where
  expr : ∀ {ts rest e}, d.expr ts = .ok (e, rest) → ∃ m, n = m + 1 ∧ Begins m (.expr e) ts rest
  unary : ∀ {ts rest e}, d.unary ts = .ok (e, rest) → ∃ m, n = m + 1 ∧ Begins m (.unary e) ts rest
  items : ∀ {ts rest e} {o : Placed}, o.token = .bracketOpen → d.items ts = .ok (e, rest) →
    Begins n (.operand e) (o :: ts) rest

namespace Parser

variable {n : Nat} {d : Deeper} {ts rest : Tokens} {e : Expr} {link : Link}

/-- Whether a token joins the terms of a chain, as the rule for the chain asks. -/
def joins : Link → Token → Bool
  | .and => isAnd
  | .or => isOr

theorem joins_iff {t : Token} : joins link t = true ↔ t ∈ link.words := by
  cases link <;> simp [joins, isAnd, isOr, Link.words]

theorem isNot_iff {t : Token} : isNot t = true ↔ t ∈ negations := by simp [isNot, negations]

theorem expect_eq_ok_iff {t : Token} : expect t ts = .ok rest ↔ ∃ found, ts = found :: rest ∧ found.token = t := by
  cases ts with
  | nil => simp [expect]
  | cons found ts =>
    by_cases h : found.token = t
    · simp only [expect, if_pos h, Except.ok.injEq, List.cons.injEq]
      exact ⟨fun hrest => ⟨found, ⟨rfl, hrest⟩, h⟩, fun ⟨_, ⟨_, hrest⟩, _⟩ => hrest⟩
    · simp [expect, h]

theorem toNat?_eq_some_iff {x : Number} {i : Nat} : x.toNat? = some i ↔ x = .int i := by
  cases x with
  | int j => simp only [Number.toNat?, Option.ite_none_right_eq_some, Option.some.injEq, Number.int.injEq]; omega
  | float x => simp [Number.toNat?]

theorem pathSegments_sound {gathered : List Segment} (h : pathSegments gathered ts = .ok (e, rest)) :
    ∃ segments used, e = .path (gathered.reverse ++ segments) ∧ ts = used ++ rest ∧
      DerivesPath segments (Tokens.kinds used) := by
  induction gathered, ts using pathSegments.induct generalizing e rest with
  | case1 gathered pos pos' name ts ih =>
    rw [pathSegments] at h
    obtain ⟨segments, used, rfl, rfl, hd⟩ := ih h
    exact ⟨.key name :: segments, ⟨pos, .dot⟩ :: ⟨pos', .word name⟩ :: used, by simp, by simp, .field name hd⟩
  | case4 gathered pos pos' name pos'' ts ih =>
    rw [pathSegments] at h
    obtain ⟨segments, used, rfl, rfl, hd⟩ := ih h
    exact ⟨.key name :: segments, ⟨pos, .bracketOpen⟩ :: ⟨pos', .string name⟩ :: ⟨pos'', .bracketClose⟩ :: used,
      by simp, by simp, .key name hd⟩
  | case8 gathered pos pos' x i hx pos'' ts ih =>
    rw [pathSegments, hx] at h
    obtain ⟨segments, used, rfl, rfl, hd⟩ := ih h
    obtain rfl := toNat?_eq_some_iff.1 hx
    exact ⟨.index i :: segments, ⟨pos, .bracketOpen⟩ :: ⟨pos', .number (.int i)⟩ :: ⟨pos'', .bracketClose⟩ :: used,
      by simp, by simp, .index i hd⟩
  | case13 gathered ts hdot hbracket =>
    rw [pathSegments] at h
    · cases h
      exact ⟨[], [], by simp, rfl, .nil⟩
    · exact hdot
    · exact hbracket
  -- Every other case refuses.
  | _ => simp_all [pathSegments]

theorem operator?_sound {op : CompareOp} (h : operator? ts = some (op, rest)) :
    ∃ used, ts = used ++ rest ∧ Tokens.kinds used = op.tokens := by
  cases ts with
  | nil => simp [operator?] at h
  | cons t ts =>
    obtain ⟨pos, token⟩ := t
    cases token with
    | equal | notEqual | less | lessEqual | greater | greaterEqual => cases h; exact ⟨[_], rfl, rfl⟩
    | word name =>
      simp only [operator?] at h
      split_ifs at h with hin hcontains hnot
      · subst hin; cases h; exact ⟨[_], rfl, rfl⟩
      · subst hcontains; cases h; exact ⟨[_], rfl, rfl⟩
      · subst hnot
        cases ts with
        | nil => cases h
        | cons second ts =>
          obtain ⟨hsecond, h⟩ := Option.ite_none_right_eq_some.1 h
          cases h
          exact ⟨[_, second], rfl, by simp [hsecond, CompareOp.tokens]⟩
    | _ => cases h

theorem startsWith_iff {t : Token} : startsWith t ts = true ↔ ∃ found rest, ts = found :: rest ∧ found.token = t := by
  cases ts <;> simp [startsWith]

section MoreTerms

variable {asked : Token → Bool} {term : Rule} {fuel : Nat} {gathered all : List Expr} {t : Placed}

/-- There are no further terms where no joining token comes next. -/
theorem moreTerms_stop (h : ∀ t ∈ ts.head?, asked t.token = false) :
    moreTerms asked term fuel gathered ts = .ok (gathered.reverse, ts) := by
  cases fuel with
  | zero => rfl
  | succ fuel =>
    cases ts with
    | nil => rfl
    | cons t ts => simp [moreTerms, h t rfl]

/-- The terms already gathered stay in front of the further ones. -/
theorem moreTerms_eq_ok_iff : moreTerms asked term fuel gathered ts = .ok (all, rest) ↔
    ∃ es, all = gathered.reverse ++ es ∧ moreTerms asked term fuel [] ts = .ok (es, rest) := by
  have stop : (.ok (gathered.reverse, ts) : Except ExpressionError (List Expr × Tokens)) = .ok (all, rest) ↔
      ∃ es, all = gathered.reverse ++ es ∧
        (.ok ([], ts) : Except ExpressionError (List Expr × Tokens)) = .ok (es, rest) := by grind
  induction fuel generalizing gathered ts all with
  | zero => exact stop
  | succ fuel ih =>
    cases ts with
    | nil => exact stop
    | cons t ts =>
      by_cases ht : asked t.token = true
      · simp only [moreTerms, if_pos ht, bind_eq_ok_iff, Prod.exists]
        constructor
        · rintro ⟨e, mid, hterm, hall⟩
          obtain ⟨es, rfl, hmore⟩ := (ih (by grind)).1 hall
          exact ⟨e :: es, by simp, e, mid, hterm, (ih (by grind)).2 ⟨es, by simp, hmore⟩⟩
        · rintro ⟨_, rfl, e, mid, hterm, hall⟩
          obtain ⟨es, rfl, hmore⟩ := (ih (by grind)).1 hall
          exact ⟨e, mid, hterm, (ih (by grind)).2 ⟨es, by simp, hmore⟩⟩
      · simp only [moreTerms, if_neg ht]
        exact stop

theorem moreTerms_cons (ht : asked t.token = true) :
    moreTerms asked term (fuel + 1) [] (t :: ts) = .ok (all, rest) ↔
      ∃ e mid es, term ts = .ok (e, mid) ∧ moreTerms asked term fuel [] mid = .ok (es, rest) ∧ all = e :: es := by
  simp only [moreTerms, if_pos ht, bind_eq_ok_iff, Prod.exists]
  constructor
  · rintro ⟨e, mid, hterm, hall⟩
    obtain ⟨es, rfl, hmore⟩ := moreTerms_eq_ok_iff.1 hall
    exact ⟨e, mid, es, hterm, hmore, rfl⟩
  · rintro ⟨e, mid, es, hterm, hmore, rfl⟩
    exact ⟨e, mid, hterm, moreTerms_eq_ok_iff.2 ⟨es, rfl, hmore⟩⟩

/-- A chain is its first term and then all further ones, also if there are none. -/
theorem chain_eq_ok_iff : chain (joins link) link.node term ts = .ok (e, rest) ↔
    ∃ first mid more, term ts = .ok (first, mid) ∧
      moreTerms (joins link) term mid.length [] mid = .ok (more, rest) ∧ e = link.tree (first :: more) := by
  simp only [chain, bind_eq_ok_iff, Prod.exists]
  refine exists_congr fun first => exists_congr fun mid => ?_
  rw [exists_and_left]
  refine and_congr_right fun _ => ?_
  have alone (h : ∀ t ∈ mid.head?, joins link t.token = false) :
      (.ok (first, mid) : Except ExpressionError _) = .ok (e, rest) ↔
        ∃ more, moreTerms (joins link) term mid.length [] mid = .ok (more, rest) ∧ e = link.tree (first :: more) := by
    rw [moreTerms_stop h]
    constructor
    · intro h
      cases h
      exact ⟨[], rfl, (Link.tree_singleton ..).symm⟩
    · rintro ⟨more, hmore, rfl⟩
      cases hmore
      rfl
  cases mid with
  | nil => exact alone (by simp)
  | cons t ts =>
    by_cases ht : joins link t.token = true
    · simp only [if_pos ht, bind_eq_ok_iff, Prod.exists, List.length_cons, moreTerms_cons ht]
      grind [Link.tree_cons_cons]
    · simp only [if_neg ht]
      exact alone (by simpa using ht)

end MoreTerms

variable [PatternEngine]

theorem parenthesized_sound (hd : d.Sound n) (h : parenthesized d ts = .ok (e, rest)) :
    ∃ m inner close, n = m + 1 ∧ ts = inner ++ close :: rest ∧ close.token = .parenClose ∧
      Derives m (.expr e) (Tokens.kinds inner) := by
  obtain ⟨⟨e', ts₁⟩, hexpr, hrest⟩ := bind_eq_ok_iff.1 h
  obtain ⟨ts₂, hexpect, hdone⟩ := bind_eq_ok_iff.1 hrest
  cases hdone
  obtain ⟨close, rfl, hclose⟩ := expect_eq_ok_iff.1 hexpect
  obtain ⟨m, rfl, inner, rfl, hinner⟩ := hd.expr hexpr
  exact ⟨m, inner, close, rfl, rfl, hclose, hinner⟩

theorem operand_sound (hd : d.Sound n) (h : operand d ts = .ok (e, rest)) : Begins n (.operand e) ts rest := by
  cases ts with
  | nil => simp [operand] at h
  | cons t ts =>
    obtain ⟨pos, token⟩ := t
    cases token with
    | number x => cases h; exact ⟨[_], rfl, .number x⟩
    | string s => cases h; exact ⟨[_], rfl, .string s⟩
    | parenOpen =>
      obtain ⟨m, inner, close, rfl, rfl, hclose, hinner⟩ := parenthesized_sound hd h
      exact ⟨⟨pos, .parenOpen⟩ :: (inner ++ [close]), by simp, by simpa [hclose] using .parens hinner⟩
    | bracketOpen => exact hd.items rfl h
    | word name =>
      simp only [operand] at h
      split_ifs at h with htrue hfalse hnull hstate hlen
      · subst htrue; cases h; exact ⟨[_], rfl, .constant (by simp [constants])⟩
      · subst hfalse; cases h; exact ⟨[_], rfl, .constant (by simp [constants])⟩
      · subst hnull; cases h; exact ⟨[_], rfl, .constant (by simp [constants])⟩
      · subst hstate
        obtain ⟨segments, used, rfl, rfl, hpath⟩ := pathSegments_sound h
        exact ⟨⟨pos, .word "state"⟩ :: used, rfl, .path hpath⟩
      · subst hlen
        obtain ⟨ts', hopen, hrest⟩ := bind_eq_ok_iff.1 h
        obtain ⟨⟨e', ts''⟩, hparens, hdone⟩ := bind_eq_ok_iff.1 hrest
        cases hdone
        obtain ⟨o, rfl, ho⟩ := expect_eq_ok_iff.1 hopen
        obtain ⟨m, inner, close, rfl, rfl, hclose, hinner⟩ := parenthesized_sound hd hparens
        exact ⟨⟨pos, .word "len"⟩ :: o :: (inner ++ [close]), by simp, by simpa [ho, hclose] using .len hinner⟩
    | _ => simp [operand] at h

theorem patternLiteral_sound {p : Pattern} (h : patternLiteral ts = .ok (p, rest)) :
    ∃ t source, ts = t :: rest ∧ t.token = .string source ∧ Pattern.ofText? source = some p := by
  cases ts with
  | nil => cases h
  | cons t ts =>
    obtain ⟨pos, token⟩ := t
    cases token with
    | string source =>
      simp only [patternLiteral] at h
      split at h
      · rename_i hp
        cases h
        exact ⟨_, source, rfl, rfl, hp⟩
      · cases h
    | _ => cases h

theorem comparison_sound (hd : d.Sound n) (h : comparison d ts = .ok (e, rest)) :
    Begins n (.comparison e) ts rest := by
  obtain ⟨⟨left, ts₁⟩, hoperand, hrest⟩ := bind_eq_ok_iff.1 h
  obtain ⟨used, rfl, hleft⟩ := operand_sound hd hoperand
  dsimp only at hrest
  split at hrest
  -- An operator follows, or none; then perhaps `matches`.
  · rename_i op ts₂ hop
    obtain ⟨⟨right, ts₃⟩, hoperand', hdone⟩ := bind_eq_ok_iff.1 hrest
    cases hdone
    obtain ⟨opUsed, rfl, hopUsed⟩ := operator?_sound hop
    obtain ⟨rightUsed, rfl, hright⟩ := operand_sound hd hoperand'
    exact ⟨used ++ (opUsed ++ rightUsed), by simp, by simpa [hopUsed] using .compare op hleft hright⟩
  · split_ifs at hrest with hmatches
    · obtain ⟨⟨p, ts₂⟩, hliteral, hdone⟩ := bind_eq_ok_iff.1 hrest
      cases hdone
      obtain ⟨found, ts₁, rfl, hfound⟩ := startsWith_iff.1 hmatches
      obtain ⟨t, source, rfl, ht, hp⟩ := patternLiteral_sound hliteral
      exact ⟨used ++ [found, t], by simp, by simpa [hfound, ht] using .matching hleft hp⟩
    · cases hrest
      exact ⟨used, rfl, .bare hleft⟩

theorem unary_sound (hd : d.Sound n) (h : unary d ts = .ok (e, rest)) : Begins n (.unary e) ts rest := by
  have plain (h : comparison d ts = .ok (e, rest)) : Begins n (.unary e) ts rest := by
    obtain ⟨used, rfl, hcomparison⟩ := comparison_sound hd h
    exact ⟨used, rfl, .plain hcomparison⟩
  cases ts with
  | nil => exact plain h
  | cons t ts =>
    simp only [unary] at h
    split_ifs at h with hnot
    · obtain ⟨⟨e', ts'⟩, hunary, hdone⟩ := bind_eq_ok_iff.1 h
      cases hdone
      obtain ⟨m, rfl, used, rfl, hinner⟩ := hd.unary hunary
      exact ⟨t :: used, rfl, .negation (isNot_iff.1 hnot) hinner⟩
    · exact plain h

theorem moreTerms_sound {term : Rule} {fuel : Nat} {all : List Expr}
    (hterm : ∀ {ts rest e}, term ts = .ok (e, rest) → Begins n (link.term e) ts rest)
    (h : moreTerms (joins link) term fuel [] ts = .ok (all, rest)) :
    ∃ used, ts = used ++ rest ∧ ∀ {first us}, Derives n (link.term first) us →
      Derives n (.terms link (first :: all)) (us ++ Tokens.kinds used) := by
  have stop {ts : Tokens} {all : List Expr} (h : .ok ([], ts) = (.ok (all, rest) : Except ExpressionError _)) :
      ∃ used, ts = used ++ rest ∧ ∀ {first us}, Derives n (link.term first) us →
        Derives n (.terms link (first :: all)) (us ++ Tokens.kinds used) := by
    cases h
    exact ⟨[], rfl, fun h => by simpa using .lastTerm h⟩
  -- With too little fuel fewer terms are read, which derive all the same.
  induction fuel generalizing ts all with
  | zero => exact stop h
  | succ fuel ih =>
    cases ts with
    | nil => exact stop h
    | cons t ts =>
      by_cases ht : joins link t.token = true
      · obtain ⟨e, mid, es, hnext, hmore, rfl⟩ := (moreTerms_cons ht).1 h
        obtain ⟨used', rfl, hterms⟩ := ih hmore
        obtain ⟨used, rfl, hbegin⟩ := hterm hnext
        exact ⟨t :: (used ++ used'), by simp, fun h => by
          simpa using .moreTerms h (joins_iff.1 ht) (hterms hbegin)⟩
      · exact stop ((moreTerms_stop (by simpa using ht)).symm.trans h)

theorem chain_sound (link : Link) {term : Rule}
    (hterm : ∀ {ts rest e}, term ts = .ok (e, rest) → Begins n (link.term e) ts rest)
    (h : chain (joins link) link.node term ts = .ok (e, rest)) : Begins n (link.chain e) ts rest := by
  obtain ⟨first, mid, more, hfirst, hmore, rfl⟩ := chain_eq_ok_iff.1 h
  obtain ⟨used, rfl, hbegin⟩ := hterm hfirst
  obtain ⟨used', rfl, hterms⟩ := moreTerms_sound hterm hmore
  exact ⟨used ++ used', by simp, by simpa using .chain (hterms hbegin)⟩

theorem conjunction_sound (hd : d.Sound n) (h : conjunction d ts = .ok (e, rest)) : Begins n (.conj e) ts rest :=
  chain_sound .and (unary_sound hd) h

theorem expression_sound (hd : d.Sound n) (h : expression d ts = .ok (e, rest)) : Begins n (.expr e) ts rest :=
  chain_sound .or (conjunction_sound hd) h

theorem listItems_sound (hd : d.Sound n) {fuel : Nat} {gathered : List Expr}
    (h : listItems (expression d) fuel gathered ts = .ok (e, rest)) :
    ∃ es used close, e = .list (gathered.reverse ++ es) ∧ ts = used ++ close :: rest ∧ close.token = .bracketClose ∧
      Derives n (.items es) (Tokens.kinds used) := by
  induction fuel generalizing gathered ts with
  | zero => cases h
  | succ fuel ih =>
    obtain ⟨⟨first, ts'⟩, hitem, hrest⟩ := bind_eq_ok_iff.1 h
    obtain ⟨used, rfl, hfirst⟩ := expression_sound hd hitem
    cases ts' with
    | nil => cases hrest
    | cons t ts' =>
      dsimp only at hrest
      split_ifs at hrest with hcomma hclose
      · obtain ⟨es, used', close, rfl, rfl, hclose, hmore⟩ := ih hrest
        exact ⟨first :: es, used ++ t :: used', close, by simp, by simp, hclose, by
          simpa [hcomma] using .moreItems hfirst hmore⟩
      · cases hrest
        exact ⟨[first], used, t, by simp, rfl, hclose, .lastItem hfirst⟩

theorem listBody_sound (hd : d.Sound n) {o : Placed} (ho : o.token = .bracketOpen)
    (h : listBody d ts = .ok (e, rest)) : Begins (n + 1) (.operand e) (o :: ts) rest := by
  simp only [listBody] at h
  split_ifs at h with hempty
  · obtain ⟨close, ts', rfl, hclose⟩ := startsWith_iff.1 hempty
    cases h
    exact ⟨[o, close], rfl, by simpa [ho, hclose] using .emptyList⟩
  · obtain ⟨es, used, close, rfl, rfl, hclose, hitems⟩ := listItems_sound hd h
    exact ⟨o :: (used ++ [close]), by simp, by simpa [ho, hclose] using .list hitems⟩

/-- The rules below which `n` levels are left read what nests no deeper than `n`. -/
theorem levels_sound (n : Nat) : (levels n).Sound n := by
  induction n with
  | zero => exact ⟨(nomatch ·), (nomatch ·), fun _ h => nomatch h⟩
  | succ n ih =>
    exact ⟨fun h => ⟨n, rfl, expression_sound ih h⟩, fun h => ⟨n, rfl, unary_sound ih h⟩, listBody_sound ih⟩

end Parser
end GatedFlow
