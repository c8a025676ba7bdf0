import GatedFlow.Expression.Eval
import GatedFlow.Proofs.Expression.Fields
import GatedFlow.Proofs.Number.Rounding
import Mathlib

/-! # Comparing integers

The operands of a comparison are fields and literals, and every number among them is read as the double nearest to it. So a
comparison of two integers says how the whole numbers are related that these doubles stand for (`CompareOp.apply_int`,
`Expression.comparing_decides`). That is how the integers are related themselves unless two different ones are rounded to
the same, which takes more than 53 binary digits in both (`integers_compared`). -/

namespace GatedFlow

open Double (nearestInt)

variable {s : State} {m n : Int} {names : List String} {op : CompareOp} {operand : String}

/-! ### Operators -/

namespace CompareOp

/-- The relation of integers that an operator is written for. -/
def relation : CompareOp → Int → Int → Prop
  | .eq => (· = ·)
  | .ne => (· ≠ ·)
  | .lt => (· < ·)
  | .le => (· ≤ ·)
  | .gt => (· > ·)
  | .ge => (· ≥ ·)
  | _ => fun _ _ => False

theorem apply_int (hop : op ∈ numeric) (hm : m.natAbs < wordCount) (hn : n.natAbs < wordCount) :
    ∃ b, op.apply (.int m) (.int n) = .ok b ∧ (b = true ↔ op.relation (nearestInt m) (nearestInt n)) := by
  have hcompare : compare (Double.ofInt m).units (Double.ofInt n).units = compare (nearestInt m) (nearestInt n) :=
    Double.compare_units_ofInt hm hn
  have horder : ∀ op, orderValues op (.int m) (.int n) = .ok (compare (nearestInt m) (nearestInt n)) := fun _ =>
    congrArg Except.ok hcompare
  have hagrees : (Value.int m).agrees (.int n) = true ↔ nearestInt m = nearestInt n := by
    have hunits : (Double.ofInt m).units = (Double.ofInt n).units ↔ nearestInt m = nearestInt n := by
      rw [← compare_eq_iff_eq, hcompare, compare_eq_iff_eq]
    exact beq_iff_eq.trans hunits
  simp only [numeric, List.mem_cons, List.not_mem_nil, or_false] at hop
  rcases hop with rfl | rfl | rfl | rfl | rfl | rfl
  · exact ⟨_, rfl, hagrees⟩
  · refine ⟨_, rfl, ?_⟩
    rw [Bool.not_eq_true', ← Bool.not_eq_true, hagrees]
    rfl
  all_goals
    simp only [apply, horder, Except.map]
    refine ⟨_, rfl, ?_⟩
    simp [relation, compare_lt_iff_lt, compare_gt_iff_gt]

end CompareOp

/-! ### Literals -/

/-- The decimal literals of integers: digits, for a negative one behind a minus sign. -/
inductive Spells : List Char → Int → Prop
  | digits {ds : List Char} (hne : ds ≠ []) (hdigits : ∀ d ∈ ds, d.isDigit = true) :
      Spells ds (Nat.ofDigitChars 10 ds 0)
  | minus {ds : List Char} (hne : ds ≠ []) (hdigits : ∀ d ∈ ds, d.isDigit = true) :
      Spells ('-' :: ds) (-(Nat.ofDigitChars 10 ds 0 : Int))

theorem spells_repr (k : Nat) : Spells k.repr.toList k := by
  have hspells : Spells (Nat.toDigits 10 k) (Nat.ofDigitChars 10 (Nat.toDigits 10 k) 0) :=
    .digits Nat.toDigits_ne_nil fun d hd => Nat.isDigit_of_mem_toDigits (by decide) (by decide) hd
  rwa [Nat.ofDigitChars_ten_toDigits, ← Nat.toList_repr] at hspells

/-- The text of an integer is a literal of it. -/
theorem spells_toString (n : Int) : Spells (toString n).toList n := by
  cases n with
  | ofNat k => exact spells_repr k
  | negSucc k =>
    have hspells : Spells ('-' :: Nat.toDigits 10 (k + 1)) (-(Nat.ofDigitChars 10 (Nat.toDigits 10 (k + 1)) 0 : Int)) :=
      .minus Nat.toDigits_ne_nil fun d hd => Nat.isDigit_of_mem_toDigits (by decide) (by decide) hd
    rw [Nat.ofDigitChars_ten_toDigits, ← Nat.toList_repr] at hspells
    have htext : (toString (Int.negSucc k)).toList = '-' :: (k + 1).repr.toList := by
      show ("-" ++ (k + 1).repr).toList = _
      simp
    rwa [htext]

namespace Lexer

variable {text : List Char}

theorem natOfDigits_eq (digits : List Char) : natOfDigits digits = Nat.ofDigitChars 10 digits 0 := by
  simp only [natOfDigits, Nat.ofDigitChars, Nat.mul_comm]
  rfl

theorem readNumber?_of_spells (h : Spells text n) (hlow : -(signedLimit : Int) ≤ n) (hhigh : n < signedLimit) :
    readNumber? text = some (.int n) := by
  have hread : readInt64? text = some n := by
    cases h with
    | digits hne hdigits =>
      have hall : text.all Char.isDigit = true := List.all_eq_true.2 hdigits
      simp only [readInt64?]
      split
      · exact absurd (hdigits '-' (by simp)) (by decide)
      · simp only [List.isEmpty_eq_false_iff.2 hne, hall, natOfDigits_eq]
        rw [if_neg (by simp), if_neg (by simp), if_pos (by omega)]
    | @minus ds hne hdigits =>
      have hall : ds.all Char.isDigit = true := List.all_eq_true.2 hdigits
      simp only [readInt64?, List.isEmpty_eq_false_iff.2 hne, hall, natOfDigits_eq]
      rw [if_neg (by simp), if_pos trivial, if_pos (by omega)]
  rw [readNumber?, hread]

theorem lexeme_number {c : Char} {rest : List Char} {x : Number} {pos : Nat} (hc : c = '-' ∨ c.isDigit = true)
    (hrest : ∀ d ∈ rest, continuesNumber d = true) (hx : readNumber? (c :: rest) = some x) :
    lexeme pos (c :: rest) = .ok (.number x, rest.length + 1) := by
  have hother : ∀ d, d ≠ '-' → d.isDigit = false → c ≠ d := by
    rintro d hminus hdigit rfl
    rcases hc with rfl | hc
    · exact hminus rfl
    · rw [hc] at hdigit
      cases hdigit
  have htake : rest.takeWhile continuesNumber = rest := List.takeWhile_eq_self_iff.2 hrest
  rw [lexeme]
  · rw [if_neg, if_pos hc, htake]
    · simp only [hx]
      rfl
    · simpa using ⟨hother '"' (by decide) (by decide), hother '\'' (by decide) (by decide)⟩
  -- The other readings begin with a character that starts no number.
  all_goals
    first
      | exact hother _ (by decide) (by decide)
      | (intro tail hd; exact absurd hd (hother _ (by decide) (by decide)))

theorem continuesNumber_of_isDigit {d : Char} (h : d.isDigit = true) : continuesNumber d = true := by
  rw [continuesNumber, h, Bool.true_or]

theorem isBlank_of_isDigit {d : Char} (h : d.isDigit = true) : isBlank d = false := by
  have hdigits : ∀ k < 58, (Char.ofNat k).isDigit = true → isBlank (Char.ofNat k) = false := by decide +kernel
  have hlt : d.toNat < 58 := Nat.lt_of_le_of_lt (Char.isDigit_iff_toNat.1 h).2 (by decide)
  simpa [h] using hdigits d.toNat hlt

theorem Splits.spelled (h : Spells text n) (hlow : -(signedLimit : Int) ≤ n) (hhigh : n < signedLimit) :
    Splits text [.number (.int n)] := by
  have hread := readNumber?_of_spells h hlow hhigh
  cases h with
  | @digits ds hne hdigits =>
    obtain ⟨d, ds, rfl⟩ := List.exists_cons_of_ne_nil hne
    obtain ⟨hd, hdigits⟩ := List.forall_mem_cons.1 hdigits
    refine .token (isBlank_of_isDigit hd) (fun pos => lexeme_number (.inr hd) ?_ hread) ?_
    · exact fun e he => continuesNumber_of_isDigit (hdigits e he)
    · simpa using .nil
  | @minus ds hne hdigits =>
    refine .token (by decide) (fun pos => lexeme_number (.inl rfl) ?_ hread) ?_
    · exact fun e he => continuesNumber_of_isDigit (hdigits e he)
    · simpa using .nil

end Lexer

/-! ### Comparisons -/

/-- A field of a state, on a path of identifiers, holds a whole number of JSON. -/
structure HoldsInt (s : State) (names : List String) (n : Int) : Prop where
  named : names ≠ []
  identifiers : ∀ name ∈ names, isIdentifier name = true
  holds : s.resolve? (names.map .key) = some (.int n)
  low : -(signedLimit : Int) ≤ n
  high : n < wordCount

/-- A source that stands for an integer: the path to a field that holds it, or a literal of a signed 64-bit word. -/
inductive WritesInt (s : State) : String → Int → Prop
  | field {names : List String} {n : Int} (h : HoldsInt s names n) : WritesInt s ("state." ++ dotted names) n
  | literal {text : String} {n : Int} (h : Spells text.toList n) (hlow : -(signedLimit : Int) ≤ n) (hhigh : n < signedLimit) :
      WritesInt s text n

theorem natAbs_lt_wordCount (hlow : -(signedLimit : Int) ≤ n) (hhigh : n < wordCount) : n.natAbs < wordCount := by
  have hlimit : signedLimit < wordCount := by decide
  omega

theorem HoldsInt.eval (h : HoldsInt s names n) : (Expr.field names).eval s = .ok (.int n) := by
  rw [Expr.field, Expr.eval, h.holds]
  rfl

theorem WritesInt.read [PatternEngine] (h : WritesInt s operand n) : n.natAbs < wordCount ∧
    ∃ ts e, Lexer.Splits operand.toList ts ∧ Derives maxDepth (.operand e) ts ∧ e.eval s = .ok (.int n) := by
  cases h with
  | field h =>
    have hpath := Lexer.Splits.path h.named h.identifiers (by simp) .nil
    rw [List.append_nil, List.append_nil] at hpath
    exact ⟨natAbs_lt_wordCount h.low h.high, _, _, hpath, derives_field _, h.eval⟩
  | literal h hlow hhigh =>
    exact ⟨natAbs_lt_wordCount hlow (hhigh.trans (by decide)), _, _, .spelled h hlow hhigh, .number _, rfl⟩

/-- Rounding that does not make two integers equal leaves them in order. -/
theorem CompareOp.relation_nearestInt (h : nearestInt m = nearestInt n → m = n) :
    op.relation (nearestInt m) (nearestInt n) ↔ op.relation m n := by
  rcases lt_trichotomy m n with hlt | rfl | hgt
  · have hle := Double.nearestInt_mono hlt.le
    have hne : nearestInt m ≠ nearestInt n := fun heq => hlt.ne (h heq)
    cases op <;> simp only [relation] <;> omega
  · cases op <;> simp [relation]
  · have hle := Double.nearestInt_mono hgt.le
    have hne : nearestInt m ≠ nearestInt n := fun heq => hgt.ne' (h heq)
    cases op <;> simp only [relation] <;> omega

namespace Expression

variable [PatternEngine]

/-- A source is a condition whose value in a state is the truth of a proposition. -/
def Decides (source : String) (s : State) (p : Prop) : Prop :=
  ∃ e b, ofSource source = .ok e ∧ e.value s = .ok (.bool b) ∧ e.holds s = .ok b ∧ (b = true ↔ p)

variable {source : String} {p q : Prop}

theorem Decides.congr (h : Decides source s p) (hpq : p ↔ q) : Decides source s q := by
  obtain ⟨e, b, he, hvalue, hholds, hb⟩ := h
  exact ⟨e, b, he, hvalue, hholds, hb.trans hpq⟩

theorem Decides.iff (hp : Decides source s p) (hq : Decides source s q) : p ↔ q := by
  obtain ⟨e, b, he, hvalue, -, hb⟩ := hp
  obtain ⟨e', b', he', hvalue', -, hb'⟩ := hq
  cases he.symm.trans he'
  cases hvalue.symm.trans hvalue'
  exact hb.symm.trans hb'

/-- A comparison says how the doubles nearest to the integers are related. -/
theorem comparing_decides (hm : HoldsInt s names m) (hn : WritesInt s operand n) (hop : op ∈ CompareOp.numeric) :
    Decides (comparing names op operand) s (op.relation (nearestInt m) (nearestInt n)) := by
  obtain ⟨hlt, ts, e, hsplits, hderives, heval⟩ := hn.read
  obtain ⟨b, hb, hiff⟩ := CompareOp.apply_int hop (natAbs_lt_wordCount hm.low hm.high) hlt
  have hsource := ofSource_comparing hm.named hm.identifiers hop hsplits hderives
  have hvalue : (Expr.compare op (.field names) e).eval s = .ok (.bool b) := by
    rw [Expr.eval, hm.eval, heval]
    show (do return Value.bool (← op.apply (.int m) (.int n))) = _
    rw [hb]
    rfl
  exact ⟨_, b, hsource, hvalue, congrArg (Except.map Value.truthy) hvalue, hiff⟩

end Expression

open Expression

/-- The comparisons of an integer in a field with another one say how the doubles nearest to the two are related. All of
them say how the integers are related if and only if no two different ones are rounded to the same, which is so as soon as
one of the two is below `2 ^ 53` in size. -/
theorem integers_compared [PatternEngine] (hm : HoldsInt s names m) (hn : WritesInt s operand n) :
    (∀ op ∈ CompareOp.numeric, Decides (comparing names op operand) s (op.relation (nearestInt m) (nearestInt n))) ∧
      ((∀ op ∈ CompareOp.numeric, Decides (comparing names op operand) s (op.relation m n)) ↔
        (nearestInt m = nearestInt n → m = n)) ∧
      (m.natAbs < mantissaLimit ∨ n.natAbs < mantissaLimit →
        ∀ op ∈ CompareOp.numeric, Decides (comparing names op operand) s (op.relation m n)) := by
  have hexact : (nearestInt m = nearestInt n → m = n) →
      ∀ op ∈ CompareOp.numeric, Decides (comparing names op operand) s (op.relation m n) :=
    fun h op hop => (comparing_decides hm hn hop).congr (CompareOp.relation_nearestInt h)
  refine ⟨fun op hop => comparing_decides hm hn hop, ⟨fun h heq => ?_, hexact⟩, fun h => hexact (Double.eq_of_nearestInt_eq h)⟩
  have hop : CompareOp.eq ∈ CompareOp.numeric := by simp [CompareOp.numeric]
  have heven : nearestInt m = nearestInt n ↔ m = n := (comparing_decides hm hn hop).iff (h .eq hop)
  exact heven.1 heq

/-- Two adjacent integers of 54 binary digits in two fields. -/
def adjacentFields : State := (State.empty.set "a" (.int 9007199254740993)).set "b" (.int 9007199254740992)

theorem adjacentFields_holds :
    HoldsInt adjacentFields ["a"] 9007199254740993 ∧ HoldsInt adjacentFields ["b"] 9007199254740992 := by
  constructor
  · exact ⟨by decide, by decide, rfl, by decide, by decide⟩
  · exact ⟨by decide, by decide, rfl, by decide, by decide⟩

theorem nearestInt_adjacent : nearestInt 9007199254740993 = nearestInt 9007199254740992 := by
  decide +kernel

/-- Not all comparisons of such an integer with a literal of its neighbour are exact. -/
theorem integers_compared_adjacent :
    HoldsInt adjacentFields ["a"] 9007199254740993 ∧ WritesInt adjacentFields "9007199254740992" 9007199254740992 ∧
      ¬∀ op ∈ CompareOp.numeric, Decides (comparing ["a"] op "9007199254740992") adjacentFields
        (op.relation 9007199254740993 9007199254740992) := by
  have hliteral : WritesInt adjacentFields "9007199254740992" 9007199254740992 :=
    .literal (spells_toString 9007199254740992) (by decide) (by decide)
  refine ⟨adjacentFields_holds.1, hliteral, fun h => ?_⟩
  have heq := (integers_compared adjacentFields_holds.1 hliteral).2.1.1 h nearestInt_adjacent
  exact absurd heq (by decide)

/-- Adjacent integers in two fields are found equal. -/
theorem adjacent_not_told_apart :
    HoldsInt adjacentFields ["a"] 9007199254740993 ∧ HoldsInt adjacentFields ["b"] 9007199254740992 ∧
      Decides "state.a == state.b" adjacentFields True ∧
      ¬Decides "state.a == state.b" adjacentFields ((9007199254740993 : Int) = 9007199254740992) := by
  obtain ⟨ha, hb⟩ := adjacentFields_holds
  have hsource : comparing ["a"] .eq ("state." ++ dotted ["b"]) = "state.a == state.b" := by decide
  have hdecides := comparing_decides ha (.field hb) (show CompareOp.eq ∈ CompareOp.numeric by simp [CompareOp.numeric])
  rw [hsource] at hdecides
  have htrue : Decides "state.a == state.b" adjacentFields True :=
    hdecides.congr (iff_true_intro nearestInt_adjacent)
  exact ⟨ha, hb, htrue, fun h => absurd ((htrue.iff h).1 trivial) (by decide)⟩

end GatedFlow
