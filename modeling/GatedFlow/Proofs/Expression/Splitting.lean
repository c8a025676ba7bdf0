import GatedFlow.Proofs.Expression.Soundness

/-! # Splitting is local

`Splits text ts` says that the characters `text` are those of the tokens `ts`, wherever in a source they stand. A closing
parenthesis ends every token before it, so what splits on its own splits in the same way in front of one
(`Splits.append`). -/

namespace GatedFlow

namespace Lexer

variable {pos pos' count skip : Nat} {text more : List Char} {t : Token} {ts us : List Token} {name : String}

/-- Characters split into tokens, blanks left out. -/
inductive Splits : List Char → List Token → Prop
  | nil : Splits [] []
  | blank {c : Char} {text : List Char} {ts : List Token} (hc : isBlank c = true) (h : Splits text ts) :
      Splits (c :: text) ts
  | token {c : Char} {text : List Char} {t : Token} {count : Nat} {ts : List Token} (hc : isBlank c = false)
      (ht : ∀ pos, lexeme pos (c :: text) = .ok (t, count)) (h : Splits (text.drop (count - 1)) ts) :
      Splits (c :: text) (t :: ts)

/-! ## One token -/

theorem lexeme_anywhere (h : lexeme pos text = .ok (t, count)) : lexeme pos' text = .ok (t, count) := by
  unfold lexeme at h ⊢
  split at h
  case h_17 =>
    split_ifs at h ⊢
    · split at h
      · exact h
      · cases h
    · dsimp only at h ⊢
      split at h
      · exact h
      · cases h
    · exact h
  case h_1 => cases h
  all_goals exact h

theorem stringBody_append {quote : Char} {gathered content : List Char}
    (h : stringBody quote gathered skip text = some (content, count)) :
    stringBody quote gathered skip (text ++ more) = some (content, count) ∧ count ≤ skip + text.length := by
  induction gathered, skip, text using stringBody.induct quote with
  | case1 => cases h
  | case2 gathered skip c text meant ih =>
    obtain ⟨hmore, hcount⟩ := ih h
    exact ⟨hmore, by simp only [List.length_cons]; omega⟩
  | case3 gathered skip text hnext => simp [stringBody] at h
  | case4 gathered skip text hnext hquote =>
    simp only [List.cons_append, stringBody, hquote, false_implies, implies_true, if_true, if_false, Option.some.injEq,
      Prod.mk.injEq, List.length_cons] at h ⊢
    exact ⟨h, by omega⟩
  | case5 gathered skip c text hnext hc hquote ih =>
    simp only [List.cons_append, stringBody, hc, hquote, false_implies, implies_true, if_false, List.length_cons] at h ⊢
    obtain ⟨hmore, hcount⟩ := ih h
    exact ⟨hmore, by omega⟩

theorem takeWhile_closed {p : Char → Bool} (hp : p ')' = false) :
    (text ++ ')' :: more).takeWhile p = text.takeWhile p := by
  rw [List.takeWhile_append]
  split_ifs with hall
  · rw [List.takeWhile_cons_of_neg (by simp [hp]), List.append_nil,
      (List.takeWhile_prefix p).eq_of_length hall]
  · rfl

theorem starts_of_append {d : Char} {tail : List Char} (hd : d ≠ ')') (h : text ++ ')' :: more = d :: tail) :
    ∃ rest, text = d :: rest := by
  cases text with
  | nil => exact absurd (List.cons.inj h).1.symm hd
  | cons c rest => exact ⟨rest, by rw [(List.cons.inj h).1]⟩

theorem length_takeWhile_le (p : Char → Bool) : (text.takeWhile p).length ≤ text.length :=
  (List.takeWhile_sublist p).length_le

/-- The token at the start of a text is also there if a closing parenthesis comes behind the text. -/
theorem lexeme_append (more : List Char) (h : lexeme pos text = .ok (t, count)) :
    lexeme pos (text ++ ')' :: more) = .ok (t, count) ∧ count ≤ text.length := by
  unfold lexeme at h
  split at h
  case h_1 => cases h
  -- An operator of one character is not made one of two by the parenthesis.
  case h_10 text heq | h_12 text heq | h_14 text heq =>
    cases h
    refine ⟨?_, by simp⟩
    rw [List.cons_append, lexeme]
    intro tail htail
    obtain ⟨rest, rfl⟩ := starts_of_append (by decide) htail
    exact heq rest rfl
  case h_17 c text _ _ _ _ _ _ _ _ _ _ _ _ _ _ _ =>
    rw [List.cons_append, lexeme]
    · split_ifs at h ⊢
      · split at h
        · rename_i hbody
          cases h
          obtain ⟨hmore, hcount⟩ := stringBody_append hbody
          rw [hmore, List.length_cons, Nat.add_comm]
          exact ⟨rfl, hcount⟩
        · cases h
      · dsimp only at h ⊢
        rw [takeWhile_closed (by decide)]
        split at h
        · cases h
          exact ⟨by simp [*], Nat.succ_le_succ (length_takeWhile_le _)⟩
        · cases h
      · cases h
        rw [takeWhile_closed (by decide)]
        exact ⟨rfl, Nat.succ_le_succ (length_takeWhile_le _)⟩
    all_goals first
      | assumption
      | intro tail hc htail
        obtain ⟨rest, rfl⟩ := starts_of_append (by decide) htail
        simp_all
  all_goals
    cases h
    exact ⟨rfl, by simp⟩

/-! ## A whole text -/

variable {gathered : List Placed} {placed : Tokens}

theorem scan_skip : scan pos skip gathered text = scan (pos + skip) 0 gathered (text.drop skip) := by
  induction text generalizing pos skip with
  | nil => simp [scan]
  | cons c text ih =>
    cases skip with
    | zero => rfl
    | succ skip => rw [scan, ih, List.drop_succ_cons, Nat.add_assoc, Nat.add_comm 1]

theorem Splits.of_scan (h : scan pos skip gathered text = .ok placed) :
    ∃ found, placed = gathered.reverse ++ found ∧ Splits (text.drop skip) (Tokens.kinds found) := by
  induction text generalizing pos skip gathered with
  | nil =>
    cases h
    exact ⟨[], by simp, by simpa using .nil⟩
  | cons c text ih =>
    cases skip with
    | succ skip => exact ih h
    | zero =>
      simp only [scan] at h
      split_ifs at h with hc
      · obtain ⟨found, rfl, hsplit⟩ := ih h
        exact ⟨found, rfl, .blank hc hsplit⟩
      · split at h
        · cases h
        · rename_i t count ht
          obtain ⟨found, rfl, hsplit⟩ := ih h
          exact ⟨⟨pos, t⟩ :: found, by simp, .token (by simpa using hc) (fun _ => lexeme_anywhere ht) hsplit⟩

namespace Splits

theorem scan (h : Splits text ts) (pos : Nat) (gathered : List Placed) :
    ∃ found, Lexer.scan pos 0 gathered text = .ok (gathered.reverse ++ found) ∧ Tokens.kinds found = ts := by
  induction h generalizing pos gathered with
  | nil => exact ⟨[], by simp [Lexer.scan], rfl⟩
  | blank hc _ ih =>
    obtain ⟨found, hscan, hkinds⟩ := ih (pos + 1) gathered
    exact ⟨found, by rw [Lexer.scan, if_pos hc, hscan], hkinds⟩
  | @token c text t count ts hc ht _ ih =>
    obtain ⟨found, hscan, hkinds⟩ := ih (pos + 1 + (count - 1)) (⟨pos, t⟩ :: gathered)
    refine ⟨⟨pos, t⟩ :: found, ?_, by rw [Tokens.kinds_cons, hkinds]⟩
    rw [Lexer.scan, if_neg (by simp [hc]), ht]
    dsimp only
    rw [scan_skip, hscan, List.reverse_cons, List.append_assoc, List.singleton_append]

theorem of_tokenize {source : String} (h : tokenize source = .ok placed) :
    Splits source.toList (Tokens.kinds placed) := by
  obtain ⟨found, rfl, hsplit⟩ := of_scan h
  exact hsplit

theorem tokenize {source : String} (h : Splits source.toList ts) :
    ∃ placed, GatedFlow.tokenize source = .ok placed ∧ Tokens.kinds placed = ts :=
  h.scan 0 []

/-- What splits on its own splits in the same way in front of a closing parenthesis. -/
theorem append (h : Splits text ts) (hmore : Splits (')' :: more) us) : Splits (text ++ ')' :: more) (ts ++ us) := by
  induction h with
  | nil => exact hmore
  | blank hc _ ih => exact .blank hc ih
  | @token c text t count ts hc ht _ ih =>
    have hcount : count - 1 ≤ text.length := Nat.sub_le_of_le_add (lexeme_append more (ht 0)).2
    refine .token hc (fun pos => (lexeme_append more (ht pos)).1) ?_
    rwa [← List.drop_append_of_le_length hcount] at ih

/-! The characters that join sources. -/

theorem parenOpen (h : Splits text ts) : Splits ('(' :: text) (.parenOpen :: ts) :=
  .token (by decide) (fun _ => rfl) h

theorem parenClose (h : Splits text ts) : Splits (')' :: text) (.parenClose :: ts) :=
  .token (by decide) (fun _ => rfl) h

theorem space (h : Splits text ts) : Splits (' ' :: text) ts := .blank (by decide) h

theorem word (hname : name ∈ ["and", "or", "not"]) (h : Splits text ts) :
    Splits (name.toList ++ ' ' :: text) (.word name :: ts) := by
  simp only [List.mem_cons, List.not_mem_nil, or_false] at hname
  rcases hname with rfl | rfl | rfl
  · show Splits ('a' :: 'n' :: 'd' :: ' ' :: text) _
    exact .token (by decide) (fun _ => rfl) (space h)
  · show Splits ('o' :: 'r' :: ' ' :: text) _
    exact .token (by decide) (fun _ => rfl) (space h)
  · show Splits ('n' :: 'o' :: 't' :: ' ' :: text) _
    exact .token (by decide) (fun _ => rfl) (space h)

end Splits

end Lexer
end GatedFlow
