import GatedFlow.Proofs.Expression.Language
import GatedFlow.Proofs.Expression.Splitting
import Mathlib

/-! # Sources that name fields

An identifier can stand after a full stop in a source, and is one word wherever something follows that does not go on with
it (`Splits.identifier`). So `state.` before a dotted path of identifiers is the path to that field
(`Expression.ofSource_field`), and a comparison of such a field is read as that comparison
(`Expression.ofSource_comparing`). -/

namespace GatedFlow

/-- A name that starts with a letter or an underscore and goes on with letters, digits and underscores. -/
def isIdentifier (name : String) : Bool :=
  match name.toList with
  | [] => false
  | c :: rest => Lexer.startsWord c && rest.all Lexer.continuesWord

theorem isIdentifier_iff {name : String} : isIdentifier name = true ↔
    ∃ c rest, name.toList = c :: rest ∧ Lexer.startsWord c = true ∧ ∀ d ∈ rest, Lexer.continuesWord d = true := by
  unfold isIdentifier
  cases name.toList with
  | nil => simp
  | cons c rest => simp

/-- Names one after the other with a full stop between them. -/
def dotted (names : List String) : String := ".".intercalate names

namespace Lexer

variable {c : Char} {name : String} {text rest : List Char} {ts : List Token} {names : List String}

/-! ### Characters -/

/-- Beyond ASCII no letter is blank. -/
theorem blankRanges_alphabeticRanges : ∀ r ∈ blankRanges, ∀ a ∈ alphabeticRanges, r.2 < a.1 ∨ a.2 < r.1 := by
  decide +kernel

theorem startsWord_ascii : ∀ n < 128, startsWord (Char.ofNat n) = true →
    isBlank (Char.ofNat n) = false ∧ (Char.ofNat n).isDigit = false := by
  decide +kernel

theorem isBlank_of_startsWord (h : startsWord c = true) : isBlank c = false := by
  by_cases hascii : c.toNat < 128
  · exact Char.ofNat_toNat c ▸ (startsWord_ascii c.toNat hascii (by rwa [Char.ofNat_toNat])).1
  · by_contra hblank
    rw [Bool.not_eq_false, isBlank, List.any_eq_true] at hblank
    obtain ⟨r, hr, hin⟩ := hblank
    rw [startsWord, Bool.or_eq_true, beq_iff_eq] at h
    rcases h with h | rfl
    · rw [isAlphabetic, if_neg hascii, inRanges, List.any_eq_true] at h
      obtain ⟨a, ha, hbetween⟩ := h
      have hapart := blankRanges_alphabeticRanges r hr a ha
      simp only [Bool.and_eq_true, decide_eq_true_eq] at hin hbetween
      omega
    · exact hascii (by decide)

theorem isDigit_of_startsWord (h : startsWord c = true) : c.isDigit = false := by
  by_contra hdigit
  rw [Bool.not_eq_false] at hdigit
  have hascii : c.toNat < 128 := Nat.lt_of_le_of_lt (Char.isDigit_iff_toNat.1 hdigit).2 (by decide)
  have hnot := (startsWord_ascii c.toNat hascii (by rwa [Char.ofNat_toNat])).2
  rw [Char.ofNat_toNat, hdigit] at hnot
  cases hnot

theorem takeWhile_append_stop {p : Char → Bool} (hrest : ∀ d ∈ rest, p d = true) (htext : ∀ d ∈ text.head?, p d = false) :
    (rest ++ text).takeWhile p = rest := by
  rw [List.takeWhile_append_of_pos hrest]
  cases text with
  | nil => simp
  | cons d text => simp [htext d rfl]

/-! ### Words -/

theorem lexeme_word {pos : Nat} (hc : startsWord c = true) (hrest : ∀ d ∈ rest, continuesWord d = true)
    (htext : ∀ d ∈ text.head?, continuesWord d = false) :
    lexeme pos (c :: (rest ++ text)) = .ok (.word (String.ofList (c :: rest)), rest.length + 1) := by
  have hother : ∀ d, startsWord d = false → c ≠ d := by
    rintro d hd rfl
    rw [hc] at hd
    cases hd
  rw [lexeme]
  · rw [if_neg, if_neg, if_pos hc, takeWhile_append_stop hrest htext]
    · rfl
    · rw [isDigit_of_startsWord hc]
      simpa using hother '-' (by decide)
    · simpa using ⟨hother '"' (by decide), hother '\'' (by decide)⟩
  -- The other readings begin with a character that starts no word.
  all_goals
    first
      | exact hother _ (by decide)
      | (intro tail hd; exact absurd hd (hother _ (by decide)))

/-- An identifier is one word, wherever it stands and whatever follows that does not go on with it. -/
theorem Splits.identifier (hname : isIdentifier name = true) (htext : ∀ d ∈ text.head?, continuesWord d = false)
    (h : Splits text ts) : Splits (name.toList ++ text) (.word name :: ts) := by
  obtain ⟨c, rest, hlist, hc, hrest⟩ := isIdentifier_iff.1 hname
  have hname : String.ofList (c :: rest) = name := by rw [← hlist, String.ofList_toList]
  rw [hlist, ← hname]
  exact .token (isBlank_of_startsWord hc) (fun _ => lexeme_word hc hrest htext) (by simpa using h)

/-- The tokens for a path of fields behind `state`. -/
def fieldTokens (names : List String) : List Token := names.flatMap fun name => [.dot, .word name]

/-- The characters for a path of fields behind `state`. -/
def fieldText (names : List String) : List Char := names.flatMap fun name => '.' :: name.toList

theorem Splits.fields (hnames : ∀ name ∈ names, isIdentifier name = true)
    (htext : ∀ d ∈ text.head?, continuesWord d = false) (h : Splits text ts) :
    Splits (fieldText names ++ text) (fieldTokens names ++ ts) ∧
      ∀ d ∈ (fieldText names ++ text).head?, continuesWord d = false := by
  induction names with
  | nil => exact ⟨h, htext⟩
  | cons name names ih =>
    obtain ⟨hname, hnames⟩ := List.forall_mem_cons.1 hnames
    obtain ⟨hrest, hhead⟩ := ih hnames
    have hsplit : Splits ('.' :: (name.toList ++ (fieldText names ++ text))) (.dot :: .word name :: (fieldTokens names ++ ts)) :=
      .token (by decide) (fun _ => rfl) (.identifier hname hhead hrest)
    refine ⟨by simpa [fieldText, fieldTokens] using hsplit, ?_⟩
    simp only [fieldText, List.flatMap_cons, List.cons_append, List.head?_cons, Option.mem_some_iff, forall_eq']
    decide

theorem toList_dotted (hnames : names ≠ []) : '.' :: (dotted names).toList = fieldText names := by
  obtain ⟨name, names, rfl⟩ := List.exists_cons_of_ne_nil hnames
  rw [dotted, String.toList_intercalate]
  induction names generalizing name with
  | nil => simp [fieldText]
  | cons second names ih =>
    have hrest := ih second (by simp)
    rw [List.map_cons, List.map_cons, List.intercalate_cons_cons]
    rw [List.map_cons] at hrest
    rw [fieldText, List.flatMap_cons, ← fieldText, ← hrest]
    simp

/-- The path to a field splits into its words and full stops. -/
theorem Splits.path (hne : names ≠ []) (hnames : ∀ name ∈ names, isIdentifier name = true)
    (htext : ∀ d ∈ text.head?, continuesWord d = false) (h : Splits text ts) :
    Splits (("state." ++ dotted names).toList ++ text) (.word "state" :: (fieldTokens names ++ ts)) := by
  obtain ⟨hfields, hhead⟩ := Splits.fields hnames htext h
  have hlist : ("state." ++ dotted names).toList = "state".toList ++ fieldText names := by
    rw [← toList_dotted hne]
    simp
  rw [hlist, List.append_assoc]
  exact .identifier (by decide) hhead hfields

end Lexer

/-- The path to a field, given by the names on the way to it. -/
def Expr.field (names : List String) : Expr := .path (names.map .key)

theorem derivesPath_fields (names : List String) : DerivesPath (names.map .key) (Lexer.fieldTokens names) := by
  induction names with
  | nil => exact .nil
  | cons name names ih => exact .field name ih

theorem derives_field [PatternEngine] {n : Nat} (names : List String) :
    Derives n (.operand (.field names)) (.word "state" :: Lexer.fieldTokens names) :=
  .path (derivesPath_fields names)

namespace CompareOp

/-- The operators that compare numbers. -/
def numeric : List CompareOp := [.eq, .ne, .lt, .le, .gt, .ge]

theorem splits {op : CompareOp} {text : List Char} {ts : List Token} (hop : op ∈ numeric) (h : Lexer.Splits text ts) :
    Lexer.Splits (op.symbol.toList ++ ' ' :: text) (op.tokens ++ ts) := by
  simp only [numeric, List.mem_cons, List.not_mem_nil, or_false] at hop
  rcases hop with rfl | rfl | rfl | rfl | rfl | rfl
  · show Lexer.Splits ('=' :: '=' :: ' ' :: text) _
    exact .token (by decide) (fun _ => rfl) (.space h)
  · show Lexer.Splits ('!' :: '=' :: ' ' :: text) _
    exact .token (by decide) (fun _ => rfl) (.space h)
  · show Lexer.Splits ('<' :: ' ' :: text) _
    exact .token (by decide) (fun _ => rfl) (.space h)
  · show Lexer.Splits ('<' :: '=' :: ' ' :: text) _
    exact .token (by decide) (fun _ => rfl) (.space h)
  · show Lexer.Splits ('>' :: ' ' :: text) _
    exact .token (by decide) (fun _ => rfl) (.space h)
  · show Lexer.Splits ('>' :: '=' :: ' ' :: text) _
    exact .token (by decide) (fun _ => rfl) (.space h)

end CompareOp

namespace Expression

variable [PatternEngine] {names : List String}

theorem ofSource_of_splits {source : String} {tree : Expr} {ts : List Token} (hsplits : Lexer.Splits source.toList ts)
    (htree : Derives maxDepth (.comparison tree) ts) : ofSource source = .ok ⟨source, tree⟩ := by
  obtain ⟨placed, hplaced, rfl⟩ := hsplits.tokenize
  exact ofSource_eq_ok_iff.2 ⟨rfl, placed, hplaced, .single .or (.single .and (.plain htree))⟩

theorem ofSource_field (hne : names ≠ []) (hnames : ∀ name ∈ names, isIdentifier name = true) :
    ofSource ("state." ++ dotted names) = .ok ⟨"state." ++ dotted names, .field names⟩ := by
  refine ofSource_of_splits ?_ (.bare (derives_field names))
  simpa using Lexer.Splits.path hne hnames (by simp) .nil

/-- The source of a comparison of a field with what another source stands for. -/
def comparing (names : List String) (op : CompareOp) (operand : String) : String :=
  "state." ++ dotted names ++ " " ++ op.symbol ++ " " ++ operand

theorem ofSource_comparing {op : CompareOp} {operand : String} {e : Expr} {ts : List Token} (hne : names ≠ [])
    (hnames : ∀ name ∈ names, isIdentifier name = true) (hop : op ∈ CompareOp.numeric)
    (hsplits : Lexer.Splits operand.toList ts) (he : Derives maxDepth (.operand e) ts) :
    ofSource (comparing names op operand) = .ok ⟨comparing names op operand, .compare op (.field names) e⟩ := by
  refine ofSource_of_splits ?_ (.compare op (derives_field names) he)
  · have hsource : (comparing names op operand).toList =
        ("state." ++ dotted names).toList ++ ' ' :: (op.symbol.toList ++ ' ' :: operand.toList) := by
      simp [comparing]
    rw [hsource, List.cons_append]
    refine Lexer.Splits.path hne hnames ?_ (.space (CompareOp.splits hop hsplits))
    simp only [List.head?_cons, Option.mem_some_iff, forall_eq']
    decide

end Expression
end GatedFlow
