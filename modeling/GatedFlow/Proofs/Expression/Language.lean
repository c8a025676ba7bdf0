import GatedFlow.Pattern.Engine
import GatedFlow.Proofs.Expression.Completeness
import Mathlib

/-! # The language of conditions

A source is accepted exactly when it splits into tokens that derive from an expression nesting at most `maxDepth` deep,
and the tree is the only one that its tokens have (`Expression.ofSource_iff`). -/

namespace GatedFlow

/-- A whole number fits a signed 64-bit word. -/
def Token.Fits : Token → Prop
  | .number (.int i) => -(signedLimit : Int) ≤ i ∧ i < signedLimit
  | _ => True

namespace Lexer

theorem fits_of_readInt64? {text : List Char} {i : Int} (h : readInt64? text = some i) :
    -(signedLimit : Int) ≤ i ∧ i < signedLimit := by
  simp only [readInt64?] at h
  have hpos : 0 < signedLimit := by decide
  split_ifs at h <;> simp only [Option.some.injEq] at h <;> omega

theorem fits_of_readNumber? {text : List Char} {x : Number} (h : readNumber? text = some x) :
    (Token.number x).Fits := by
  simp only [readNumber?] at h
  split at h
  · rename_i hint
    cases h
    exact fits_of_readInt64? hint
  · obtain ⟨x, -, rfl⟩ := Option.map_eq_some_iff.1 h
    trivial

theorem fits_of_lexeme {pos count : Nat} {text : List Char} {t : Token} (h : lexeme pos text = .ok (t, count)) :
    t.Fits := by
  unfold lexeme at h
  split at h
  case h_17 =>
    split_ifs at h
    · split at h <;> cases h; trivial
    · dsimp only at h
      split at h
      · rename_i hnumber
        cases h
        exact fits_of_readNumber? hnumber
      · cases h
    · cases h; trivial
  all_goals cases h <;> trivial

theorem fits_of_scan {pos skip : Nat} {gathered ts : List Placed} {text : List Char}
    (hgathered : ∀ t ∈ gathered, t.token.Fits) (h : scan pos skip gathered text = .ok ts) : ∀ t ∈ ts, t.token.Fits := by
  induction text generalizing pos skip gathered with
  | nil => cases h; simpa using hgathered
  | cons c text ih =>
    cases skip with
    | succ skip => exact ih hgathered h
    | zero =>
      simp only [scan] at h
      split_ifs at h
      · exact ih hgathered h
      · split at h
        · cases h
        · rename_i hlexeme
          exact ih (List.forall_mem_cons.2 ⟨fits_of_lexeme hlexeme, hgathered⟩) h

end Lexer

namespace Expression

theorem ofSource_eq_ok_iff [PatternEngine] {source : String} {e : Expression} : ofSource source = .ok e ↔
    e.source = source ∧ ∃ ts, tokenize source = .ok ts ∧ Derives maxDepth (.expr e.tree) (Tokens.kinds ts) := by
  simp only [ofSource, bind_eq_ok_iff, ← Parser.parse_eq_ok_iff]
  constructor
  · rintro ⟨ts, hts, tree, htree, hdone⟩
    cases hdone
    exact ⟨rfl, ts, hts, htree⟩
  · rintro ⟨rfl, ts, hts, htree⟩
    exact ⟨ts, hts, e.tree, htree, rfl⟩

/-- A condition is accepted with a tree exactly when its source splits into tokens that derive from an expression with
that tree and nest at most `maxDepth` deep. The tokens of a source have no other tree, however deep its derivation
nests, and their whole numbers fit a signed 64-bit word. Which texts are patterns is up to the engine. -/
theorem ofSource_iff [PatternEngine] (source : String) :
    (∀ e, ofSource source = .ok e ↔ e.source = source ∧
      ∃ ts, tokenize source = .ok ts ∧ Derives maxDepth (.expr e.tree) (Tokens.kinds ts)) ∧
    ∀ ts, tokenize source = .ok ts → (∀ t ∈ ts, t.token.Fits) ∧
      ∀ n m tree tree', Derives n (.expr tree) (Tokens.kinds ts) → Derives m (.expr tree') (Tokens.kinds ts) →
        tree = tree' := by
  exact ⟨fun _ => ofSource_eq_ok_iff,
    fun ts hts => ⟨Lexer.fits_of_scan (by simp) hts, fun _ _ _ _ h h' => h.expr_unique h'⟩⟩

/-- A word of an operator may name a field, and `not` before `in` belongs to the operator. The text after `matches`
becomes the pattern that the engine makes of it. -/
theorem ofSource_iff_keywords :
    ofSource "state.in not in [1]" = .ok
      ⟨"state.in not in [1]", .compare .notWithin (.path [.key "in"]) (.list [.literal (.number (.int 1))])⟩ ∧
    ∃ p, Pattern.ofText? "a|b" = some p ∧
      ofSource "state.in matches 'a|b'" = .ok ⟨"state.in matches 'a|b'", .matching (.path [.key "in"]) p⟩ := by
  have alone {n : Nat} {e : Expr} {ts : List Token} (h : Derives n (.comparison e) ts) : Derives n (.expr e) ts :=
    .single .or (.single .and (.plain h))
  have hfield {n : Nat} : Derives n (.operand (.path [.key "in"])) _ := .path (.field "in" .nil)
  constructor
  · have hlist : Derives maxDepth (.operand (.list [.literal (.number (.int 1))])) _ :=
      .list (.lastItem (alone (.bare (.number (.int 1)))))
    refine ((ofSource_iff _).1 _).2 ⟨rfl, [⟨0, .word "state"⟩, ⟨5, .dot⟩, ⟨6, .word "in"⟩, ⟨9, .word "not"⟩,
      ⟨13, .word "in"⟩, ⟨16, .bracketOpen⟩, ⟨17, .number (.int 1)⟩, ⟨18, .bracketClose⟩], by cbv, ?_⟩
    exact alone (.compare .notWithin hfield hlist)
  · obtain ⟨p, hp⟩ := Option.isSome_iff_exists.1 (show (Pattern.ofText? "a|b").isSome = true by cbv)
    refine ⟨p, hp, ((ofSource_iff _).1 _).2 ⟨rfl, [⟨0, .word "state"⟩, ⟨5, .dot⟩, ⟨6, .word "in"⟩,
      ⟨9, .word "matches"⟩, ⟨17, .string "a|b"⟩], by cbv, ?_⟩⟩
    exact alone (.matching hfield hp)

/-- An engine may refuse a text, and then there is no such condition. -/
example : ofSource "state.in matches '('" = .error (.invalidPattern "(") := by cbv

end Expression
end GatedFlow
