import GatedFlow.Expression.Tree
import GatedFlow.Expression.Token

/-! # The grammar of conditions

`Derives n p ts` says that the tokens `ts` derive from a part of the grammar with the tree that `p` names, and that
parentheses, lists, `len(` and negations nest at most `n` deep in the derivation. The rules are those of

    expr       := and (("or" | "||") and)*
    and        := unary (("and" | "&&") unary)*
    unary      := ("not" | "!") unary | comparison
    comparison := operand (op operand | "matches" string)?
    operand    := number | string | constant | path
                | "len" "(" expr ")" | "(" expr ")" | "[" (expr ("," expr)*)? "]"
    path       := "state" ("." word | "[" string "]" | "[" index "]")*

and say nothing of the order in which a reader looks at the tokens. -/

namespace GatedFlow

/-- The two kinds of chains. -/
inductive Link where
  | and
  | or

/-- A part of a condition by its place in the grammar, with its tree or trees. -/
inductive Phrase where
  | expr (e : Expr)
  | conj (e : Expr)
  | unary (e : Expr)
  | comparison (e : Expr)
  | operand (e : Expr)
  | terms (link : Link) (es : List Expr)
  | items (es : List Expr)

namespace Link

/-- The tokens between the terms of a chain. -/
def words : Link → List Token
  | and => [.andAnd, .word "and"]
  | or => [.orOr, .word "or"]

def node : Link → List Expr → Expr
  | and => .conj
  | or => .disj

/-- The tree of a chain. One term alone is its own tree. -/
def tree : Link → List Expr → Expr
  | _, [e] => e
  | link, es => link.node es

@[simp] theorem tree_singleton (link : Link) (e : Expr) : link.tree [e] = e := rfl

@[simp] theorem tree_cons_cons (link : Link) (e e' : Expr) (es : List Expr) :
    link.tree (e :: e' :: es) = link.node (e :: e' :: es) := rfl

def term : Link → Expr → Phrase
  | and => .unary
  | or => .conj

def chain : Link → Expr → Phrase
  | and => .conj
  | or => .expr

end Link

/-- The tokens that negate. -/
def negations : List Token := [.bang, .word "not"]

/-- The words that stand for values. -/
def constants : List (String × Value) := [("true", .bool true), ("false", .bool false), ("null", .null)]

theorem mem_constants_iff {name : String} {v : Value} : (name, v) ∈ constants ↔
    name = "true" ∧ v = .bool true ∨ name = "false" ∧ v = .bool false ∨ name = "null" ∧ v = .null := by
  simp [constants]

def CompareOp.tokens : CompareOp → List Token
  | eq => [.equal]
  | ne => [.notEqual]
  | lt => [.less]
  | le => [.lessEqual]
  | gt => [.greater]
  | ge => [.greaterEqual]
  | within => [.word "in"]
  | notWithin => [.word "not", .word "in"]
  | contains => [.word "contains"]

/-- The segments of a path and the tokens for them: any word may name a field, and an index is not negative. -/
inductive DerivesPath : List Segment → List Token → Prop
  | nil : DerivesPath [] []
  | field {segments : List Segment} {ts : List Token} (name : String) (h : DerivesPath segments ts) :
      DerivesPath (.key name :: segments) (.dot :: .word name :: ts)
  | key {segments : List Segment} {ts : List Token} (name : String) (h : DerivesPath segments ts) :
      DerivesPath (.key name :: segments) (.bracketOpen :: .string name :: .bracketClose :: ts)
  | index {segments : List Segment} {ts : List Token} (i : Nat) (h : DerivesPath segments ts) :
      DerivesPath (.index i :: segments) (.bracketOpen :: .number (.int i) :: .bracketClose :: ts)

variable [PatternEngine]

/-- Tokens that derive from a part of the grammar and nest no deeper than `n`. A pattern is any text that the engine
compiles. -/
inductive Derives : Nat → Phrase → List Token → Prop
  | number {n : Nat} (x : Number) : Derives n (.operand (.literal (.number x))) [.number x]
  | string {n : Nat} (s : String) : Derives n (.operand (.literal (.string s))) [.string s]
  | constant {n : Nat} {name : String} {v : Value} (hname : (name, v) ∈ constants) :
      Derives n (.operand (.literal v)) [.word name]
  | path {n : Nat} {segments : List Segment} {ts : List Token} (h : DerivesPath segments ts) :
      Derives n (.operand (.path segments)) (.word "state" :: ts)
  | len {n : Nat} {e : Expr} {ts : List Token} (h : Derives n (.expr e) ts) :
      Derives (n + 1) (.operand (.len e)) (.word "len" :: .parenOpen :: (ts ++ [.parenClose]))
  | parens {n : Nat} {e : Expr} {ts : List Token} (h : Derives n (.expr e) ts) :
      Derives (n + 1) (.operand e) (.parenOpen :: (ts ++ [.parenClose]))
  | emptyList {n : Nat} : Derives (n + 1) (.operand (.list [])) [.bracketOpen, .bracketClose]
  | list {n : Nat} {es : List Expr} {ts : List Token} (h : Derives n (.items es) ts) :
      Derives (n + 1) (.operand (.list es)) (.bracketOpen :: (ts ++ [.bracketClose]))
  | lastItem {n : Nat} {e : Expr} {ts : List Token} (h : Derives n (.expr e) ts) : Derives n (.items [e]) ts
  | moreItems {n : Nat} {e : Expr} {es : List Expr} {ts us : List Token} (h : Derives n (.expr e) ts)
      (hmore : Derives n (.items es) us) : Derives n (.items (e :: es)) (ts ++ .comma :: us)
  | bare {n : Nat} {e : Expr} {ts : List Token} (h : Derives n (.operand e) ts) : Derives n (.comparison e) ts
  | compare {n : Nat} {left right : Expr} {ts us : List Token} (op : CompareOp)
      (hleft : Derives n (.operand left) ts) (hright : Derives n (.operand right) us) :
      Derives n (.comparison (.compare op left right)) (ts ++ (op.tokens ++ us))
  | matching {n : Nat} {e : Expr} {ts : List Token} {source : String} {p : Pattern} (h : Derives n (.operand e) ts)
      (hp : Pattern.ofText? source = some p) :
      Derives n (.comparison (.matching e p)) (ts ++ [.word "matches", .string source])
  | plain {n : Nat} {e : Expr} {ts : List Token} (h : Derives n (.comparison e) ts) : Derives n (.unary e) ts
  | negation {n : Nat} {e : Expr} {t : Token} {ts : List Token} (ht : t ∈ negations) (h : Derives n (.unary e) ts) :
      Derives (n + 1) (.unary (.not e)) (t :: ts)
  | lastTerm {n : Nat} {link : Link} {e : Expr} {ts : List Token} (h : Derives n (link.term e) ts) :
      Derives n (.terms link [e]) ts
  | moreTerms {n : Nat} {link : Link} {e : Expr} {es : List Expr} {t : Token} {ts us : List Token}
      (h : Derives n (link.term e) ts) (ht : t ∈ link.words) (hmore : Derives n (.terms link es) us) :
      Derives n (.terms link (e :: es)) (ts ++ t :: us)
  -- Chains are flat: their terms are no chains of the same kind, unless in parentheses.
  | chain {n : Nat} {link : Link} {es : List Expr} {ts : List Token} (h : Derives n (.terms link es) ts) :
      Derives n (link.chain (link.tree es)) ts

namespace Derives

variable {n m : Nat} {p : Phrase} {ts : List Token}

theorem single {e : Expr} (link : Link) (h : Derives n (link.term e) ts) : Derives n (link.chain e) ts :=
  .chain (.lastTerm h)

theorem mono (h : Derives n p ts) (hnm : n ≤ m) : Derives m p ts := by
  induction h generalizing m with
  | number x => exact .number x
  | string s => exact .string s
  | constant hname => exact .constant hname
  | path h => exact .path h
  | len _ ih => obtain ⟨m, rfl⟩ := Nat.exists_eq_add_of_lt hnm; exact .len (ih (Nat.le_add_right ..))
  | parens _ ih => obtain ⟨m, rfl⟩ := Nat.exists_eq_add_of_lt hnm; exact .parens (ih (Nat.le_add_right ..))
  | emptyList => obtain ⟨m, rfl⟩ := Nat.exists_eq_add_of_lt hnm; exact .emptyList
  | list _ ih => obtain ⟨m, rfl⟩ := Nat.exists_eq_add_of_lt hnm; exact .list (ih (Nat.le_add_right ..))
  | lastItem _ ih => exact .lastItem (ih hnm)
  | moreItems _ _ ih ih' => exact .moreItems (ih hnm) (ih' hnm)
  | bare _ ih => exact .bare (ih hnm)
  | compare op _ _ ih ih' => exact .compare op (ih hnm) (ih' hnm)
  | matching _ hp ih => exact .matching (ih hnm) hp
  | plain _ ih => exact .plain (ih hnm)
  | negation ht _ ih => obtain ⟨m, rfl⟩ := Nat.exists_eq_add_of_lt hnm; exact .negation ht (ih (Nat.le_add_right ..))
  | lastTerm _ ih => exact .lastTerm (ih hnm)
  | moreTerms _ ht _ ih ih' => exact .moreTerms (ih hnm) ht (ih' hnm)
  | chain _ ih => exact .chain (ih hnm)

end Derives
end GatedFlow
