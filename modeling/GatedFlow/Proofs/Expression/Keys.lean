import GatedFlow.Expression.Eval
import GatedFlow.Proofs.Expression.Fields

/-! # Sources that address any field

Not every key of an object is an identifier, but every one can be written as a text in brackets: a backslash goes before
each backslash and each quote of the key, and all else stands for itself (`escaped`). Such a text ends at its closing
quote and no earlier, whatever the key is (`Lexer.stringBody_escaped`). So `state` with a list of keys in brackets is the
path of these keys, however many there are, and leads to the value that is found under them (`Expression.addressed`). -/

namespace GatedFlow

/-- The two ways to enclose a text. -/
inductive Quote where
  | double
  | single

def Quote.char : Quote → Char
  | double => '"'
  | single => '\''

/-- A text with a backslash before each backslash and each quote. -/
def escaped (quote : Quote) : List Char → List Char
  | [] => []
  | c :: text => if c = '\\' ∨ c = quote.char then '\\' :: c :: escaped quote text else c :: escaped quote text

/-- A text between quotes. -/
def enclosed (quote : Quote) (text : List Char) : List Char := quote.char :: (escaped quote text ++ [quote.char])

/-- Keys in brackets, each enclosed in quotes. -/
def bracketed (quote : Quote) (keys : List String) : List Char :=
  keys.flatMap fun key => '[' :: (enclosed quote key.toList ++ [']'])

/-- The source that addresses the field under keys of nested objects. -/
def addressing (quote : Quote) (keys : List String) : String := String.ofList ("state".toList ++ bracketed quote keys)

/-- The value under keys of nested objects; none as soon as a key is missing or there is no object to look in. -/
def Value.underKeys? : List String → Value → Option Value
  | [], v => some v
  | key :: keys, .object fields => (findEntry key fields).bind (underKeys? keys)
  | _ :: _, _ => none

namespace Lexer

variable (quote : Quote) {pos : Nat} {text more : List Char} {ts : List Token}

/-! ### Texts -/

theorem quote_ne : quote.char ≠ '\\' ∧ quote.char ≠ 'n' ∧ quote.char ≠ 't' := by
  cases quote <;> decide

/-- What a backslash or quote after a backslash stands for is itself. -/
theorem stringBody_escape {c : Char} (hc : c = '\\' ∨ c = quote.char) (gathered : List Char) (count : Nat) :
    stringBody quote.char gathered count ('\\' :: c :: text) = stringBody quote.char (c :: gathered) (count + 2) text := by
  obtain ⟨-, hn, ht⟩ := quote_ne quote
  have hletter : c ≠ 'n' ∧ c ≠ 't' := by
    rcases hc with rfl | rfl
    · decide
    · exact ⟨hn, ht⟩
  rw [stringBody, if_neg hletter.1, if_neg hletter.2]

theorem stringBody_plain {c : Char} (hc : ¬(c = '\\' ∨ c = quote.char)) (gathered : List Char) (count : Nat) :
    stringBody quote.char gathered count (c :: text) = stringBody quote.char (c :: gathered) (count + 1) text := by
  obtain ⟨hbackslash, hquote⟩ := not_or.1 hc
  rw [stringBody, if_neg hbackslash, if_neg hquote]
  intro c' text' heq
  exact absurd heq hbackslash

theorem stringBody_quote (gathered : List Char) (count : Nat) :
    stringBody quote.char gathered count (quote.char :: text) = some (gathered.reverse, count + 1) := by
  rw [stringBody, if_neg (quote_ne quote).1, if_pos rfl]
  intro c' text' heq
  exact absurd heq (quote_ne quote).1

/-- A text that is escaped reads back as it was, up to the closing quote and no further. -/
theorem stringBody_escaped (text : List Char) (gathered : List Char) (count : Nat) :
    stringBody quote.char gathered count (escaped quote text ++ quote.char :: more) =
      some (gathered.reverse ++ text, count + (escaped quote text).length + 1) := by
  induction text generalizing gathered count with
  | nil => simp [escaped, stringBody_quote quote]
  | cons c text ih =>
    rw [escaped]
    split
    · rename_i hc
      rw [List.cons_append, List.cons_append, stringBody_escape quote hc, ih]
      simp only [List.reverse_cons, List.append_assoc, List.singleton_append, List.length_cons, Option.some.injEq,
        Prod.mk.injEq, true_and]
      omega
    · rename_i hc
      rw [List.cons_append, stringBody_plain quote hc, ih]
      simp only [List.reverse_cons, List.append_assoc, List.singleton_append, List.length_cons, Option.some.injEq,
        Prod.mk.injEq, true_and]
      omega

theorem lexeme_enclosed (text more : List Char) :
    lexeme pos (enclosed quote text ++ more) = .ok (.string (String.ofList text), (escaped quote text).length + 2) := by
  have hbody : stringBody quote.char [] 1 (escaped quote text ++ quote.char :: more) = _ := stringBody_escaped quote text [] 1
  rw [List.reverse_nil, List.nil_append, Nat.add_comm 1, Nat.add_assoc] at hbody
  have hquote : quote.char = '"' ∨ quote.char = '\'' := by cases quote <;> simp [Quote.char]
  have hother : ∀ d, d ≠ '"' → d ≠ '\'' → quote.char ≠ d := by
    intro d hdouble hsingle
    rcases hquote with h | h
    · rw [h]
      exact hdouble.symm
    · rw [h]
      exact hsingle.symm
  rw [enclosed, List.cons_append, List.append_assoc, List.singleton_append, lexeme]
  · rw [if_pos hquote, hbody]
  -- The other readings begin with a character that is no quote.
  all_goals
    first
      | exact hother _ (by decide) (by decide)
      | (intro tail hd; exact absurd hd (hother _ (by decide) (by decide)))

/-- A text between quotes is one token, wherever it stands and whatever follows. -/
theorem Splits.enclosed (key : String) (h : Splits more ts) :
    Splits (GatedFlow.enclosed quote key.toList ++ more) (.string key :: ts) := by
  have hblank : isBlank quote.char = false := by cases quote <;> decide
  have htoken : ∀ pos, lexeme pos (GatedFlow.enclosed quote key.toList ++ more) =
      .ok (.string key, (escaped quote key.toList).length + 2) := fun pos => by
    rw [lexeme_enclosed, String.ofList_toList]
  have hrest : (escaped quote key.toList ++ [quote.char] ++ more).drop ((escaped quote key.toList).length + 1) = more :=
    List.drop_left' (by simp)
  refine .token hblank htoken ?_
  show Splits ((escaped quote key.toList ++ [quote.char] ++ more).drop ((escaped quote key.toList).length + 1)) ts
  rwa [hrest]

/-! ### Paths -/

/-- The tokens for keys in brackets. -/
def keyTokens (keys : List String) : List Token :=
  keys.flatMap fun key => [.bracketOpen, .string key, .bracketClose]

theorem Splits.bracketed (keys : List String) (h : Splits more ts) :
    Splits (GatedFlow.bracketed quote keys ++ more) (keyTokens keys ++ ts) := by
  induction keys with
  | nil => exact h
  | cons key keys ih =>
    have hclose : Splits (']' :: (GatedFlow.bracketed quote keys ++ more)) (.bracketClose :: (keyTokens keys ++ ts)) :=
      .token (by decide) (fun _ => rfl) ih
    have hopen : Splits ('[' :: (GatedFlow.enclosed quote key.toList ++ ']' :: (GatedFlow.bracketed quote keys ++ more)))
        (.bracketOpen :: .string key :: .bracketClose :: (keyTokens keys ++ ts)) :=
      .token (by decide) (fun _ => rfl) (.enclosed quote key hclose)
    simpa [GatedFlow.bracketed, keyTokens] using hopen

theorem Splits.addressing (keys : List String) :
    Splits (GatedFlow.addressing quote keys).toList (.word "state" :: keyTokens keys) := by
  have hkeys : Splits (GatedFlow.bracketed quote keys) (keyTokens keys) := by
    simpa only [List.append_nil] using Splits.bracketed quote keys .nil
  have hstop : ∀ d ∈ (GatedFlow.bracketed quote keys).head?, continuesWord d = false := by
    intro d hd
    cases keys with
    | nil => cases hd
    | cons key keys =>
      obtain rfl : '[' = d := Option.some.inj hd
      decide
  have hstate : isIdentifier "state" = true := by decide
  have hlist : (GatedFlow.addressing quote keys).toList = "state".toList ++ GatedFlow.bracketed quote keys :=
    String.toList_ofList
  rw [hlist]
  exact .identifier hstate hstop hkeys

end Lexer

theorem derivesPath_keys (keys : List String) : DerivesPath (keys.map .key) (Lexer.keyTokens keys) := by
  induction keys with
  | nil => exact .nil
  | cons key keys ih => exact .key key ih

namespace State

theorem foldlM_child?_keys (keys : List String) (v : Value) :
    (keys.map Segment.key).foldlM Value.child? v = v.underKeys? keys := by
  induction keys generalizing v with
  | nil => rfl
  | cons key keys ih =>
    rw [List.map_cons, List.foldlM_cons]
    cases v with
    | object fields => exact bind_congr ih
    | _ => rfl

theorem resolve?_keys (s : State) (keys : List String) : s.resolve? (keys.map .key) = s.toValue.underKeys? keys := by
  cases keys with
  | nil => rfl
  | cons key keys => exact bind_congr (foldlM_child?_keys keys)

end State

namespace Expression

/-- Whatever the keys are and however many, the source that addresses the field under them is read as the path of these
keys. In every state it has the value that is found under them, and `null` where there is none. -/
theorem addressed [PatternEngine] (quote : Quote) (keys : List String) :
    ofSource (addressing quote keys) = .ok ⟨addressing quote keys, .path (keys.map .key)⟩ ∧
    ∀ s, Expression.value ⟨addressing quote keys, .path (keys.map .key)⟩ s = .ok ((s.toValue.underKeys? keys).getD .null) := by
  refine ⟨ofSource_of_splits (.addressing quote keys) (.bare (.path (derivesPath_keys keys))), fun s => ?_⟩
  rw [Expression.value, Expr.eval, s.resolve?_keys]

/-- Both characters that need a backslash get one, and no others, also where a letter follows that would mean something
else behind a backslash. -/
example : addressing .single ["it's", "a\\nb", "\"\n"] = "state['it\\'s']['a\\\\nb']['\"\n']" := by decide

end Expression
end GatedFlow
