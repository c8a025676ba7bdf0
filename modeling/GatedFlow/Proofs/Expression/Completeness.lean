import GatedFlow.Proofs.Expression.Soundness

/-! # Whatever derives from the grammar is read

`Reads n p ts` says that the rules below which `n` levels are left read the tokens `ts` as the phrase `p` and stop
behind them, whatever comes next that may follow the phrase. Tokens that derive from a phrase are read as it
(`reads_of_derives`), by induction on the derivation with one lemma for each rule of the grammar. -/

namespace GatedFlow

namespace Tokens

/-- If a token comes next, it is one of these. -/
def Ahead (allowed : List Token) (ts : Tokens) : Prop := ∀ t ∈ ts.head?, t.token ∈ allowed

/-- What comes next does not go on with a path. -/
def OffPath (ts : Tokens) : Prop := ∀ t ∈ ts.head?, t.token ≠ .dot ∧ t.token ≠ .bracketOpen

variable {ts : Tokens} {us vs : List Token} {t : Token}

theorem kinds_eq_nil_iff : Tokens.kinds ts = [] ↔ ts = [] := List.map_eq_nil_iff

theorem kinds_eq_singleton_iff : Tokens.kinds ts = [t] ↔ ∃ placed, ts = [placed] ∧ placed.token = t :=
  List.map_eq_singleton_iff

theorem kinds_eq_cons_iff :
    Tokens.kinds ts = t :: us ↔ ∃ placed rest, ts = placed :: rest ∧ placed.token = t ∧ Tokens.kinds rest = us :=
  List.map_eq_cons_iff

theorem kinds_eq_append_iff :
    Tokens.kinds ts = us ++ vs ↔ ∃ front back, ts = front ++ back ∧ Tokens.kinds front = us ∧ Tokens.kinds back = vs :=
  List.map_eq_append_iff

theorem kinds_eq_concat_iff : Tokens.kinds ts = us ++ [t] ↔
    ∃ front last, ts = front ++ [last] ∧ Tokens.kinds front = us ∧ last.token = t := by
  constructor
  · intro h
    obtain ⟨front, back, rfl, hfront, hback⟩ := kinds_eq_append_iff.1 h
    obtain ⟨last, rfl, hlast⟩ := kinds_eq_singleton_iff.1 hback
    exact ⟨front, last, rfl, hfront, hlast⟩
  · rintro ⟨front, last, rfl, rfl, rfl⟩
    simp

end Tokens

open Tokens

/-- The tokens that end an expression. -/
def closers : List Token := [.parenClose, .bracketClose, .comma]

namespace Link

/-- The tokens that may follow a chain. -/
def followers : Link → List Token
  | and => Link.or.words ++ closers
  | or => closers

/-- The rule for one term of a chain. -/
def rule [PatternEngine] (d : Deeper) : Link → Rule
  | and => Parser.unary d
  | or => Parser.conjunction d

end Link

/-- How a phrase may begin: never with a closing bracket, and without a negation from comparisons on. -/
def Phrase.Starts : Phrase → Token → Prop
  | .comparison _, t | .operand _, t => t ≠ .bracketClose ∧ t ∉ negations
  | _, t => t ≠ .bracketClose

theorem Derives.starts [PatternEngine] {n : Nat} {p : Phrase} {ts : List Token} (h : Derives n p ts) :
    ∃ t us, ts = t :: us ∧ p.Starts t := by
  induction h with
  | number | string | path | len | parens | emptyList | list => exact ⟨_, _, rfl, by simp [Phrase.Starts, negations]⟩
  | constant hname =>
    refine ⟨_, _, rfl, by simp, ?_⟩
    rcases mem_constants_iff.1 hname with ⟨rfl, -⟩ | ⟨rfl, -⟩ | ⟨rfl, -⟩ <;> simp [negations]
  | lastItem _ ih => exact ih
  | moreItems _ _ ih => obtain ⟨t, us, rfl, ht⟩ := ih; exact ⟨t, _, rfl, ht⟩
  | bare _ ih => exact ih
  | compare _ _ _ ih => obtain ⟨t, us, rfl, ht⟩ := ih; exact ⟨t, _, rfl, ht⟩
  | matching _ _ ih => obtain ⟨t, us, rfl, ht⟩ := ih; exact ⟨t, _, rfl, ht⟩
  | plain _ ih => obtain ⟨t, us, rfl, ht⟩ := ih; exact ⟨t, us, rfl, ht.1⟩
  | negation ht => refine ⟨_, _, rfl, ?_⟩; rintro rfl; simp [negations] at ht
  | @lastTerm _ link _ _ _ ih => cases link <;> exact ih
  | @moreTerms _ link _ _ _ _ _ _ _ _ ih =>
    cases link <;> obtain ⟨t, us, rfl, ht⟩ := ih <;> exact ⟨t, _, rfl, ht⟩
  | @chain _ link _ _ _ ih => cases link <;> exact ih

namespace Parser

variable {n : Nat} {ts us rest : Tokens} {e : Expr} {es : List Expr} {link : Link} {t close : Placed}

theorem pathSegments_append {segments : List Segment} {kinds : List Token} (h : DerivesPath segments kinds)
    (hts : Tokens.kinds ts = kinds) (hrest : OffPath rest) (gathered : List Segment) :
    pathSegments gathered (ts ++ rest) = .ok (.path (gathered.reverse ++ segments), rest) := by
  induction h generalizing ts gathered with
  | nil =>
    obtain rfl := kinds_eq_nil_iff.1 hts
    rw [List.nil_append, pathSegments]
    · simp
    · rintro pos rest rfl; exact (hrest _ rfl).1 rfl
    · rintro pos rest rfl; exact (hrest _ rfl).2 rfl
  | field name _ ih =>
    simp only [kinds_eq_cons_iff] at hts
    obtain ⟨⟨_, _⟩, _, rfl, rfl, ⟨_, _⟩, us, rfl, rfl, hus⟩ := hts
    simpa [pathSegments] using ih hus (.key name :: gathered)
  | key name _ ih =>
    simp only [kinds_eq_cons_iff] at hts
    obtain ⟨⟨_, _⟩, _, rfl, rfl, ⟨_, _⟩, _, rfl, rfl, ⟨_, _⟩, us, rfl, rfl, hus⟩ := hts
    simpa [pathSegments] using ih hus (.key name :: gathered)
  | index i _ ih =>
    simp only [kinds_eq_cons_iff] at hts
    obtain ⟨⟨_, _⟩, _, rfl, rfl, ⟨_, _⟩, _, rfl, rfl, ⟨_, _⟩, us, rfl, rfl, hus⟩ := hts
    simpa [pathSegments, toNat?_eq_some_iff.2 rfl] using ih hus (.index i :: gathered)

/-- What may follow a comparison neither goes on with a path nor with an operator. -/
theorem offPath_of_ahead (h : Ahead (Link.and.words ++ Link.and.followers) rest) : OffPath rest := by
  intro t ht
  have := h t ht
  constructor <;> rintro hkind <;> simp [hkind, Link.words, Link.followers, closers] at this

theorem operator?_append {op : CompareOp} (hts : Tokens.kinds ts = op.tokens) (rest : Tokens) :
    operator? (ts ++ rest) = some (op, rest) := by
  cases op <;> simp only [CompareOp.tokens, kinds_eq_cons_iff, kinds_eq_nil_iff] at hts
  case notWithin =>
    obtain ⟨t, _, rfl, ht, t', _, rfl, ht', rfl⟩ := hts
    simp [operator?, ht, ht']
  all_goals
    obtain ⟨t, _, rfl, ht, rfl⟩ := hts
    simp [operator?, ht]

theorem not_mem_words {t : Token} (ht : t ∈ link.followers) : t ∉ link.words := by
  cases link <;> simp only [Link.followers, Link.words, closers, List.mem_append, List.mem_cons, List.not_mem_nil,
    or_false] at ht ⊢ <;> grind

variable [PatternEngine]

/-- The rules below which `n` levels are left read the tokens as the phrase and stop behind them. -/
def Reads (n : Nat) : Phrase → Tokens → Prop
  | .operand e, ts => ∀ rest, OffPath rest → operand (levels n) (ts ++ rest) = .ok (e, rest)
  | .comparison e, ts => ∀ rest, Ahead (Link.and.words ++ Link.and.followers) rest →
      comparison (levels n) (ts ++ rest) = .ok (e, rest)
  | .unary e, ts => ∀ rest, Ahead (Link.and.words ++ Link.and.followers) rest →
      unary (levels n) (ts ++ rest) = .ok (e, rest)
  | .conj e, ts => ∀ rest, Ahead Link.and.followers rest → conjunction (levels n) (ts ++ rest) = .ok (e, rest)
  | .expr e, ts => ∀ rest, Ahead Link.or.followers rest → expression (levels n) (ts ++ rest) = .ok (e, rest)
  -- The fuel of a chain is counted from behind its first term.
  | .terms link es, ts => ∃ first more, es = first :: more ∧ ∀ rest, Ahead link.followers rest →
      ∃ mid, link.rule (levels n) (ts ++ rest) = .ok (first, mid) ∧ mid.length ≤ ts.length + rest.length ∧
        ∀ fuel, mid.length ≤ fuel → moreTerms (joins link) (link.rule (levels n)) fuel [] mid = .ok (more, rest)
  | .items es, ts => ∀ close rest fuel gathered, close.token = .bracketClose → ts.length < fuel →
      listItems (expression (levels n)) fuel gathered (ts ++ close :: rest) = .ok (.list (gathered.reverse ++ es), rest)

theorem reads_term_iff : Reads n (link.term e) ts ↔
    ∀ rest, Ahead (link.words ++ link.followers) rest → link.rule (levels n) (ts ++ rest) = .ok (e, rest) := by
  cases link <;> rfl

theorem reads_chain_iff : Reads n (link.chain e) ts ↔ ∀ rest, Ahead link.followers rest →
    chain (joins link) link.node (link.rule (levels n)) (ts ++ rest) = .ok (e, rest) := by
  cases link <;> rfl

theorem parenthesized_append (h : Reads n (.expr e) ts) (hclose : close.token = .parenClose) :
    parenthesized (levels (n + 1)) (ts ++ close :: rest) = .ok (e, rest) := by
  have hexpr : (levels (n + 1)).expr (ts ++ close :: rest) = .ok (e, close :: rest) :=
    h _ (by simp [Ahead, Link.followers, closers, hclose])
  have hexpect : expect .parenClose (close :: rest) = .ok rest := expect_eq_ok_iff.2 ⟨close, rfl, hclose⟩
  exact bind_eq_ok_iff.2 ⟨_, hexpr, bind_eq_ok_iff.2 ⟨_, hexpect, rfl⟩⟩

theorem reads_literal {v : Value} (h : ∀ d rest, operand d (t :: rest) = .ok (.literal v, rest)) :
    Reads n (.operand (.literal v)) [t] := fun rest _ => h (levels n) rest

theorem reads_path {segments : List Segment} (ht : t.token = .word "state")
    (h : DerivesPath segments (Tokens.kinds ts)) : Reads n (.operand (.path segments)) (t :: ts) := by
  intro rest hrest
  simpa [operand, ht] using pathSegments_append h rfl hrest []

theorem reads_parens {o : Placed} (ho : o.token = .parenOpen) (h : Reads n (.expr e) ts)
    (hclose : close.token = .parenClose) : Reads (n + 1) (.operand e) (o :: (ts ++ [close])) := by
  intro rest _
  simpa [operand, ho] using parenthesized_append h hclose

theorem reads_len {o : Placed} (ht : t.token = .word "len") (ho : o.token = .parenOpen) (h : Reads n (.expr e) ts)
    (hclose : close.token = .parenClose) : Reads (n + 1) (.operand (.len e)) (t :: o :: (ts ++ [close])) := by
  intro rest _
  have hexpect : expect .parenOpen (o :: (ts ++ close :: rest)) = .ok (ts ++ close :: rest) :=
    expect_eq_ok_iff.2 ⟨o, rfl, ho⟩
  simp only [operand, ht, List.cons_append, List.append_assoc, List.nil_append, String.reduceEq, if_false, if_true]
  exact bind_eq_ok_iff.2 ⟨_, hexpect, bind_eq_ok_iff.2 ⟨_, parenthesized_append h hclose, rfl⟩⟩

theorem reads_emptyList {o : Placed} (ho : o.token = .bracketOpen) (hclose : close.token = .bracketClose) :
    Reads (n + 1) (.operand (.list [])) [o, close] := by
  intro rest _
  simp [operand, ho, levels, listBody, startsWith, hclose]

theorem reads_list {o : Placed} (ho : o.token = .bracketOpen) (hfirst : t.token ≠ .bracketClose)
    (h : Reads n (.items es) (t :: ts)) (hclose : close.token = .bracketClose) :
    Reads (n + 1) (.operand (.list es)) (o :: (t :: ts ++ [close])) := by
  intro rest _
  have hfuel : (t :: ts).length < (t :: ts ++ close :: rest).length + 1 := by rw [List.length_append]; omega
  have hitems := h close rest _ [] hclose hfuel
  simpa [operand, ho, levels, listBody, startsWith, hfirst] using hitems

theorem reads_lastItem (h : Reads n (.expr e) ts) : Reads n (.items [e]) ts := by
  intro close rest fuel gathered hclose hfuel
  obtain ⟨fuel, rfl⟩ := Nat.exists_eq_add_of_lt hfuel
  have hexpr := h (close :: rest) (by simp [Ahead, Link.followers, closers, hclose])
  exact bind_eq_ok_iff.2 ⟨_, hexpr, by simp [hclose]⟩

theorem reads_moreItems (h : Reads n (.expr e) ts) (ht : t.token = .comma) (hmore : Reads n (.items es) us) :
    Reads n (.items (e :: es)) (ts ++ t :: us) := by
  intro close rest fuel gathered hclose hfuel
  cases fuel with
  | zero => simp at hfuel
  | succ fuel =>
    have hexpr := h (t :: (us ++ close :: rest)) (by simp [Ahead, Link.followers, closers, ht])
    have hitems := hmore close rest fuel (e :: gathered) hclose (by simp at hfuel; omega)
    rw [List.append_assoc, List.cons_append]
    exact bind_eq_ok_iff.2 ⟨_, hexpr, by simpa [ht] using hitems⟩

theorem reads_bare (h : Reads n (.operand e) ts) : Reads n (.comparison e) ts := by
  intro rest hrest
  refine bind_eq_ok_iff.2 ⟨_, h rest (offPath_of_ahead hrest), ?_⟩
  cases rest with
  | nil => rfl
  | cons t rest =>
    have ht := hrest t rfl
    simp only [Link.words, Link.followers, closers, List.cons_append, List.nil_append, List.mem_cons,
      List.not_mem_nil, or_false] at ht
    rcases ht with ht | ht | ht | ht | ht | ht | ht <;> simp [operator?, startsWith, ht]

theorem reads_compare {left right : Expr} {op : CompareOp} {mid : Tokens} (hleft : Reads n (.operand left) ts)
    (hmid : Tokens.kinds mid = op.tokens) (hright : Reads n (.operand right) us) :
    Reads n (.comparison (.compare op left right)) (ts ++ (mid ++ us)) := by
  intro rest hrest
  have hop := operator?_append hmid (us ++ rest)
  have hoff : OffPath (mid ++ (us ++ rest)) := by
    intro t ht
    cases mid with
    | nil => cases op <;> cases hmid
    | cons found mid =>
      cases ht
      cases op <;> obtain ⟨hfound, -⟩ := List.cons_eq_cons.1 hmid <;> simp [hfound]
  refine bind_eq_ok_iff.2 ⟨_, by simpa using hleft _ hoff, ?_⟩
  simp only [hop]
  exact bind_eq_ok_iff.2 ⟨_, hright rest (offPath_of_ahead hrest), rfl⟩

theorem reads_matching {p : Pattern} {source : String} {t' : Placed} (h : Reads n (.operand e) ts)
    (ht : t.token = .word "matches") (ht' : t'.token = .string source) (hp : Pattern.ofText? source = some p) :
    Reads n (.comparison (.matching e p)) (ts ++ [t, t']) := by
  intro rest _
  have hoperand := h (t :: t' :: rest) (by simp [OffPath, ht])
  refine bind_eq_ok_iff.2 ⟨_, by simpa using hoperand, ?_⟩
  have hliteral : patternLiteral (t' :: rest) = .ok (p, rest) := by simp [patternLiteral, ht', hp]
  simp only [operator?, ht, String.reduceEq, if_false, startsWith, beq_self_eq_true, if_true, List.tail_cons]
  exact bind_eq_ok_iff.2 ⟨_, hliteral, rfl⟩

theorem reads_plain (h : Reads n (.comparison e) (t :: ts)) (ht : t.token ∉ negations) :
    Reads n (.unary e) (t :: ts) := by
  intro rest hrest
  simpa [unary, isNot_iff, ht] using h rest hrest

theorem reads_negation (ht : t.token ∈ negations) (h : Reads n (.unary e) ts) :
    Reads (n + 1) (.unary (.not e)) (t :: ts) := by
  intro rest hrest
  simp only [List.cons_append, unary, isNot_iff, if_pos ht]
  exact bind_eq_ok_iff.2 ⟨_, h rest hrest, rfl⟩

theorem reads_lastTerm (h : Reads n (link.term e) ts) : Reads n (.terms link [e]) ts := by
  refine ⟨e, [], rfl, fun rest hrest => ⟨rest, ?_, by omega, fun fuel _ => ?_⟩⟩
  · exact reads_term_iff.1 h rest fun t ht => List.mem_append_right _ (hrest t ht)
  · refine moreTerms_stop fun t ht => ?_
    have hnot : t.token ∉ link.words := not_mem_words (hrest t ht)
    simpa [← joins_iff] using hnot

theorem reads_moreTerms (h : Reads n (link.term e) ts) (ht : t.token ∈ link.words)
    (hmore : Reads n (.terms link es) us) : Reads n (.terms link (e :: es)) (ts ++ t :: us) := by
  obtain ⟨second, more, rfl, hmore⟩ := hmore
  refine ⟨e, second :: more, rfl, fun rest hrest => ⟨t :: (us ++ rest), ?_, ?_, fun fuel hfuel => ?_⟩⟩
  · rw [List.append_assoc]
    exact reads_term_iff.1 h (t :: (us ++ rest)) fun _ hnext => by cases hnext; exact List.mem_append_left _ ht
  · simp only [List.length_cons, List.length_append]
    omega
  · obtain ⟨mid, hsecond, hmid, hmore⟩ := hmore rest hrest
    obtain ⟨extra, rfl⟩ := Nat.exists_eq_add_of_lt hfuel
    have hfuel : mid.length ≤ (us ++ rest).length + extra := by rw [List.length_append]; omega
    exact (moreTerms_cons (joins_iff.2 ht)).2 ⟨second, mid, more, hsecond, hmore _ hfuel, rfl⟩

theorem reads_chain (h : Reads n (.terms link es) ts) : Reads n (link.chain (link.tree es)) ts := by
  obtain ⟨first, more, rfl, h⟩ := h
  refine reads_chain_iff.2 fun rest hrest => ?_
  obtain ⟨mid, hfirst, -, hmore⟩ := h rest hrest
  exact chain_eq_ok_iff.2 ⟨first, mid, more, hfirst, hmore _ (Nat.le_refl _), rfl⟩

theorem reads_of_derives {p : Phrase} {kinds : List Token} (h : Derives n p kinds) (hts : Tokens.kinds ts = kinds) :
    Reads n p ts := by
  induction h generalizing ts with
  | number x =>
    obtain ⟨t, rfl, ht⟩ := kinds_eq_singleton_iff.1 hts
    exact reads_literal fun _ _ => by simp [operand, ht]
  | string s =>
    obtain ⟨t, rfl, ht⟩ := kinds_eq_singleton_iff.1 hts
    exact reads_literal fun _ _ => by simp [operand, ht]
  | constant hname =>
    obtain ⟨t, rfl, ht⟩ := kinds_eq_singleton_iff.1 hts
    exact reads_literal fun _ _ => by
      rcases mem_constants_iff.1 hname with ⟨rfl, rfl⟩ | ⟨rfl, rfl⟩ | ⟨rfl, rfl⟩ <;> simp [operand, ht]
  | path hpath =>
    obtain ⟨t, us, rfl, ht, rfl⟩ := kinds_eq_cons_iff.1 hts
    exact reads_path ht hpath
  | len _ ih =>
    obtain ⟨t, us, rfl, ht, hus⟩ := kinds_eq_cons_iff.1 hts
    obtain ⟨o, vs, rfl, ho, hvs⟩ := kinds_eq_cons_iff.1 hus
    obtain ⟨inner, close, rfl, hinner, hclose⟩ := kinds_eq_concat_iff.1 hvs
    exact reads_len ht ho (ih hinner) hclose
  | parens _ ih =>
    obtain ⟨o, vs, rfl, ho, hvs⟩ := kinds_eq_cons_iff.1 hts
    obtain ⟨inner, close, rfl, hinner, hclose⟩ := kinds_eq_concat_iff.1 hvs
    exact reads_parens ho (ih hinner) hclose
  | emptyList =>
    obtain ⟨o, ws, rfl, ho, hws⟩ := kinds_eq_cons_iff.1 hts
    obtain ⟨close, rfl, hclose⟩ := kinds_eq_singleton_iff.1 hws
    exact reads_emptyList ho hclose
  | list h ih =>
    obtain ⟨o, vs, rfl, ho, hvs⟩ := kinds_eq_cons_iff.1 hts
    obtain ⟨inner, close, rfl, hinner, hclose⟩ := kinds_eq_concat_iff.1 hvs
    -- The items do not begin with the closing bracket, so this is not read as the empty list.
    obtain ⟨_, _, hkinds, hstart⟩ := h.starts
    obtain ⟨first, others, rfl, rfl, -⟩ := kinds_eq_cons_iff.1 (hinner.trans hkinds)
    exact reads_list ho hstart (ih hinner) hclose
  | lastItem _ ih => exact reads_lastItem (ih hts)
  | moreItems _ _ ih ihmore =>
    obtain ⟨us, ws, rfl, hus, hws⟩ := kinds_eq_append_iff.1 hts
    obtain ⟨t, vs, rfl, ht, hvs⟩ := kinds_eq_cons_iff.1 hws
    exact reads_moreItems (ih hus) ht (ihmore hvs)
  | bare _ ih => exact reads_bare (ih hts)
  | compare op _ _ ihleft ihright =>
    obtain ⟨us, ws, rfl, hus, hws⟩ := kinds_eq_append_iff.1 hts
    obtain ⟨mid, vs, rfl, hmid, hvs⟩ := kinds_eq_append_iff.1 hws
    exact reads_compare (ihleft hus) hmid (ihright hvs)
  | matching _ hp ih =>
    obtain ⟨us, ws, rfl, hus, hws⟩ := kinds_eq_append_iff.1 hts
    obtain ⟨t, vs, rfl, ht, hvs⟩ := kinds_eq_cons_iff.1 hws
    obtain ⟨t', rfl, ht'⟩ := kinds_eq_singleton_iff.1 hvs
    exact reads_matching (ih hus) ht ht' hp
  | plain h ih =>
    -- No comparison begins with a negation: a `not` before `in` stands behind an operand.
    obtain ⟨_, _, hkinds, hstart⟩ := h.starts
    obtain ⟨first, others, rfl, rfl, -⟩ := kinds_eq_cons_iff.1 (hts.trans hkinds)
    exact reads_plain (ih hts) hstart.2
  | negation ht _ ih =>
    obtain ⟨t, us, rfl, rfl, hus⟩ := kinds_eq_cons_iff.1 hts
    exact reads_negation ht (ih hus)
  | lastTerm _ ih => exact reads_lastTerm (ih hts)
  | moreTerms _ ht _ ih ihmore =>
    obtain ⟨us, ws, rfl, hus, hws⟩ := kinds_eq_append_iff.1 hts
    obtain ⟨t, vs, rfl, rfl, hvs⟩ := kinds_eq_cons_iff.1 hws
    exact reads_moreTerms (ih hus) ht (ihmore hvs)
  | chain _ ih => exact reads_chain (ih hts)

/-- Reading tokens to their end with `n` levels below is deriving them from an expression that nests no deeper. -/
theorem expression_levels_iff : expression (levels n) ts = .ok (e, []) ↔ Derives n (.expr e) (Tokens.kinds ts) := by
  constructor
  · intro h
    obtain ⟨used, rfl, h⟩ := expression_sound (levels_sound n) h
    rwa [List.append_nil]
  · intro h
    simpa using reads_of_derives h rfl [] (by simp [Ahead])

theorem parse_eq_ok_iff : parse ts = .ok e ↔ Derives maxDepth (.expr e) (Tokens.kinds ts) := by
  rw [← expression_levels_iff, parse, bind_eq_ok_iff]
  constructor
  · rintro ⟨⟨e', rest⟩, hread, hend⟩
    cases rest with
    | nil => cases hend; exact hread
    | cons t rest => cases hend
  · exact fun h => ⟨_, h, rfl⟩

end Parser

/-- A condition has one tree, also among the derivations that nest deeper. -/
theorem Derives.expr_unique [PatternEngine] {n m : Nat} {ts : List Token} {e e' : Expr} (h : Derives n (.expr e) ts)
    (h' : Derives m (.expr e') ts) : e = e' := by
  -- Positions do not matter, and under a bound for both derivations reading has one result.
  obtain ⟨placed, rfl⟩ : ∃ placed, Tokens.kinds placed = ts :=
    ⟨ts.map (⟨0, ·⟩), by simp [Tokens.kinds, Function.comp_def]⟩
  have hread := Parser.expression_levels_iff.2 (h.mono (Nat.le_max_left n m))
  have hread' := Parser.expression_levels_iff.2 (h'.mono (Nat.le_max_right n m))
  cases hread.symm.trans hread'
  rfl

end GatedFlow
