import GatedFlow.Pattern.Engine
import GatedFlow.Proofs.Expression.Height

/-! # How deep reading and evaluating a condition recurse

`Counted` is a reader that counts the levels it is in as it calls itself, and has room for so many calls inside one another:
where they nest deeper it has no outcome at all. Its rules are those of the grammar, and every level is entered through
`Counted.nested`, which asks the counter before it calls. As long as the counter and the room make up `maxDepth`, each rule
reads what it reads by levels and leaves the counter as it found it (`within_follows`), whatever the tokens are. Evaluation is
given room in the same way (`Expr.evalWithin`), and a tree needs no more of it than its height. -/

namespace GatedFlow

/-- What is read with a counter of the levels the reader is in, if there is room for the calls that this takes. -/
abbrev Counted (α : Type) := ExceptT ExpressionError (StateT Nat Option) α

abbrev CountedRule := Tokens → Counted (Expr × Tokens)

/-- The rules that are called one level down. -/
structure Calls where
  expr : CountedRule
  unary : CountedRule
  items : CountedRule

namespace Counted

variable {α β : Type}

/-- Reads one level down, unless the counter is at its limit. -/
def nested (x : Counted α) : Counted α := fun depth =>
  if maxDepth ≤ depth then some (.error .tooDeep, depth)
  else (x (depth + 1)).map fun (result, depth) => (result, depth - 1)

/-- Reads without going down a level. -/
def ofExcept (r : Except ExpressionError α) : Counted α := fun depth => some (r, depth)

def parenthesized (calls : Calls) : CountedRule := fun ts => do
  let (e, rest) ← nested (calls.expr ts)
  let rest ← ofExcept (Parser.expect .parenClose rest)
  return (e, rest)

def operand (calls : Calls) : CountedRule
  | [] => throw (.unexpectedEnd .operand)
  | t :: rest =>
    match t.token with
    | .number n => return (.literal (.number n), rest)
    | .string s => return (.literal (.string s), rest)
    | .parenOpen => parenthesized calls rest
    | .bracketOpen => nested (calls.items rest)
    | .word name =>
      if name = "true" then return (.literal (.bool true), rest)
      else if name = "false" then return (.literal (.bool false), rest)
      else if name = "null" then return (.literal .null, rest)
      else if name = "state" then ofExcept (Parser.pathSegments [] rest)
      else if name = "len" then do
        let rest ← ofExcept (Parser.expect .parenOpen rest)
        let (e, rest) ← parenthesized calls rest
        return (.len e, rest)
      else throw (.unknownIdentifier name)
    | _ => throw (.unexpectedToken t.pos .operand t.token)

section

variable [PatternEngine]

def comparison (calls : Calls) : CountedRule := fun ts => do
  let (left, rest) ← operand calls ts
  match Parser.operator? rest with
  | some (op, rest) => do
    let (right, rest) ← operand calls rest
    return (.compare op left right, rest)
  | none =>
    if Parser.startsWith (.word "matches") rest then do
      let (p, rest) ← ofExcept (Parser.patternLiteral rest.tail)
      return (.matching left p, rest)
    else return (left, rest)

def unary (calls : Calls) : CountedRule
  | [] => comparison calls []
  | t :: rest =>
    if Parser.isNot t.token then do
      let (e, rest) ← nested (calls.unary rest)
      return (.not e, rest)
    else comparison calls (t :: rest)

/-- The further terms of a chain, each after a joining token, gathered in reverse. The fuel is at least the number of
tokens. -/
def moreTerms (joins : Token → Bool) (term : CountedRule) : Nat → List Expr → Tokens → Counted (List Expr × Tokens)
  | 0, gathered, ts => return (gathered.reverse, ts)
  | _, gathered, [] => return (gathered.reverse, [])
  | fuel + 1, gathered, t :: rest =>
    if joins t.token then do
      let (e, rest) ← term rest
      moreTerms joins term fuel (e :: gathered) rest
    else return (gathered.reverse, t :: rest)

def chain (joins : Token → Bool) (join : List Expr → Expr) (term : CountedRule) : CountedRule := fun ts => do
  let (first, rest) ← term ts
  match rest with
  | [] => return (first, [])
  | t :: _ =>
    if joins t.token then do
      let (more, rest) ← moreTerms joins term rest.length [] rest
      return (join (first :: more), rest)
    else return (first, rest)

def conjunction (calls : Calls) : CountedRule := chain Parser.isAnd .conj (unary calls)

def expression (calls : Calls) : CountedRule := chain Parser.isOr .disj (conjunction calls)

def listItems (item : CountedRule) : Nat → List Expr → CountedRule
  | 0, _, _ => throw (.unexpectedEnd .operand)
  | fuel + 1, gathered, ts => do
    let (e, rest) ← item ts
    match rest with
    | [] => throw (.unexpectedEnd .closingBracket)
    | t :: rest =>
      if t.token = .comma then listItems item fuel (e :: gathered) rest
      else if t.token = .bracketClose then return (.list (e :: gathered).reverse, rest)
      else throw (.unexpectedToken t.pos .separator t.token)

def listBody (calls : Calls) : CountedRule := fun ts =>
  if Parser.startsWith .bracketClose ts then return (.list [], ts.tail)
  else listItems (expression calls) (ts.length + 1) [] ts

/-- The rules with room for so many calls inside one another; without room there is no outcome. -/
def within : Nat → Calls
  | 0 => ⟨fun _ _ => none, fun _ _ => none, fun _ _ => none⟩
  | room + 1 => ⟨expression (within room), unary (within room), listBody (within room)⟩

def parse (room : Nat) (ts : Tokens) : Counted Expr := do
  let (e, rest) ← expression (within room) ts
  match rest with
  | [] => return e
  | t :: _ => throw (.unexpectedToken t.pos .endOfSource t.token)

/-- A negation is a call one level down, for which there has to be room. -/
example : parse 0 [⟨0, .bang⟩, ⟨1, .word "true"⟩] 0 = none := rfl

end

/-- A counted reader has a result and leaves the counter as it was. -/
def Gives (x : Counted α) (depth : Nat) (r : Except ExpressionError α) : Prop := x depth = some (r, depth)

variable {x : Counted α} {r : Except ExpressionError α} {depth : Nat}

theorem Gives.bind {f : α → Counted β} {g : α → Except ExpressionError β} (h : Gives x depth r)
    (hf : ∀ a, Gives (f a) depth (g a)) : Gives (x >>= f) depth (r >>= g) := by
  unfold Gives
  show (x depth >>= fun (result, depth) => ExceptT.bindCont f result depth) = _
  rw [show x depth = some (r, depth) from h]
  cases r with
  | error e => rfl
  | ok a => exact hf a

theorem gives_ofExcept (r : Except ExpressionError α) : Gives (ofExcept r) depth r := rfl

/-- Going down a level is reading with the counter one higher, unless it is at its limit. -/
theorem gives_nested (h : depth < maxDepth → Gives x (depth + 1) r) (hdeep : maxDepth ≤ depth → r = .error .tooDeep) :
    Gives (nested x) depth r := by
  unfold Gives nested
  split
  · rename_i hlimit
    rw [hdeep hlimit]
  · rename_i hlimit
    rw [show x (depth + 1) = some (r, depth + 1) from h (Nat.lt_of_not_le hlimit)]
    rfl

/-- Called one level down, the rules read what the rules of a level read. -/
structure Follows (calls : Calls) (d : Deeper) (depth : Nat) : Prop where
  expr : ∀ ts, Gives (nested (calls.expr ts)) depth (d.expr ts)
  unary : ∀ ts, Gives (nested (calls.unary ts)) depth (d.unary ts)
  items : ∀ ts, Gives (nested (calls.items ts)) depth (d.items ts)

section

variable {calls : Calls} {d : Deeper} {term : CountedRule} {term' : Rule}

theorem parenthesized_gives (h : Follows calls d depth) (ts : Tokens) :
    Gives (parenthesized calls ts) depth (Parser.parenthesized d ts) :=
  (h.expr ts).bind fun _ => (gives_ofExcept _).bind fun _ => rfl

theorem operand_gives (h : Follows calls d depth) (ts : Tokens) :
    Gives (operand calls ts) depth (Parser.operand d ts) := by
  cases ts with
  | nil => rfl
  | cons t ts =>
    obtain ⟨pos, token⟩ := t
    cases token with
    | parenOpen => exact parenthesized_gives h ts
    | bracketOpen => exact h.items ts
    | word name =>
      simp only [operand, Parser.operand]
      split_ifs
      -- Only `len(` calls a rule, the other words stand alone or begin a path.
      all_goals first
        | rfl
        | exact (gives_ofExcept _).bind fun rest => (parenthesized_gives h rest).bind fun _ => rfl
    | _ => rfl

theorem moreTerms_gives (joins : Token → Bool) (hterm : ∀ ts, Gives (term ts) depth (term' ts)) (fuel : Nat)
    (gathered : List Expr) (ts : Tokens) :
    Gives (moreTerms joins term fuel gathered ts) depth (Parser.moreTerms joins term' fuel gathered ts) := by
  induction fuel generalizing gathered ts with
  | zero => rfl
  | succ fuel ih =>
    cases ts with
    | nil => rfl
    | cons t ts =>
      simp only [moreTerms, Parser.moreTerms]
      split_ifs
      · exact (hterm ts).bind fun _ => ih ..
      · rfl

theorem chain_gives (joins : Token → Bool) (join : List Expr → Expr) (hterm : ∀ ts, Gives (term ts) depth (term' ts))
    (ts : Tokens) : Gives (chain joins join term ts) depth (Parser.chain joins join term' ts) := by
  refine (hterm ts).bind fun ⟨first, rest⟩ => ?_
  cases rest with
  | nil => rfl
  | cons t rest =>
    dsimp only
    split_ifs
    · exact (moreTerms_gives joins hterm ..).bind fun _ => rfl
    · rfl

theorem listItems_gives (hitem : ∀ ts, Gives (term ts) depth (term' ts)) (fuel : Nat) (gathered : List Expr) (ts : Tokens) :
    Gives (listItems term fuel gathered ts) depth (Parser.listItems term' fuel gathered ts) := by
  induction fuel generalizing gathered ts with
  | zero =>
    rw [listItems, Parser.listItems]
    rfl
  | succ fuel ih =>
    rw [listItems, Parser.listItems]
    refine (hitem ts).bind fun ⟨e, rest⟩ => ?_
    cases rest with
    | nil => rfl
    | cons t rest =>
      dsimp only
      split_ifs
      · exact ih ..
      · rfl
      · rfl

variable [PatternEngine]

theorem comparison_gives (h : Follows calls d depth) (ts : Tokens) :
    Gives (comparison calls ts) depth (Parser.comparison d ts) := by
  refine (operand_gives h ts).bind fun ⟨left, rest⟩ => ?_
  dsimp only
  rcases Parser.operator? rest with _ | ⟨op, rest'⟩
  · dsimp only
    split_ifs
    · exact (gives_ofExcept _).bind fun _ => rfl
    · rfl
  · exact (operand_gives h rest').bind fun _ => rfl

theorem unary_gives (h : Follows calls d depth) (ts : Tokens) : Gives (unary calls ts) depth (Parser.unary d ts) := by
  cases ts with
  | nil => exact comparison_gives h []
  | cons t ts =>
    simp only [unary, Parser.unary]
    split_ifs
    · exact (h.unary ts).bind fun _ => rfl
    · exact comparison_gives h (t :: ts)

theorem conjunction_gives (h : Follows calls d depth) (ts : Tokens) :
    Gives (conjunction calls ts) depth (Parser.conjunction d ts) :=
  chain_gives _ _ (unary_gives h) ts

theorem expression_gives (h : Follows calls d depth) (ts : Tokens) :
    Gives (expression calls ts) depth (Parser.expression d ts) :=
  chain_gives _ _ (conjunction_gives h) ts

theorem listBody_gives (h : Follows calls d depth) (ts : Tokens) :
    Gives (listBody calls ts) depth (Parser.listBody d ts) := by
  simp only [listBody, Parser.listBody]
  split_ifs
  · rfl
  · exact listItems_gives (expression_gives h) ..

end

/-- Where the counter is at its limit no rule is called. -/
theorem follows_of_limit [PatternEngine] (h : maxDepth ≤ depth) (calls : Calls) : Follows calls (Parser.levels 0) depth where
  expr _ := gives_nested (fun hlt => absurd h (Nat.not_le_of_lt hlt)) fun _ => rfl
  unary _ := gives_nested (fun hlt => absurd h (Nat.not_le_of_lt hlt)) fun _ => rfl
  items _ := gives_nested (fun hlt => absurd h (Nat.not_le_of_lt hlt)) fun _ => rfl

/-- With room for all the levels that the counter still allows, the rules one level down read by levels. -/
theorem within_follows [PatternEngine] {room : Nat} (h : maxDepth ≤ room + depth) :
    Follows (within room) (Parser.levels (maxDepth - depth)) depth := by
  induction room generalizing depth with
  | zero =>
    rw [Nat.zero_add] at h
    rw [Nat.sub_eq_zero_of_le h]
    exact follows_of_limit h _
  | succ room ih =>
    by_cases hlimit : maxDepth ≤ depth
    · rw [Nat.sub_eq_zero_of_le hlimit]
      exact follows_of_limit hlimit _
    · have hbelow : maxDepth - depth = maxDepth - (depth + 1) + 1 := by omega
      have hroom : Follows (within room) (Parser.levels (maxDepth - (depth + 1))) (depth + 1) := ih (by omega)
      rw [hbelow]
      exact ⟨fun ts => gives_nested (fun _ => expression_gives hroom ts) (absurd · hlimit),
        fun ts => gives_nested (fun _ => unary_gives hroom ts) (absurd · hlimit),
        fun ts => gives_nested (fun _ => listBody_gives hroom ts) (absurd · hlimit)⟩

theorem parse_gives [PatternEngine] {room : Nat} (h : maxDepth ≤ room) (ts : Tokens) :
    Gives (parse room ts) 0 (Parser.parse ts) := by
  refine (expression_gives (within_follows h) ts).bind fun ⟨e, rest⟩ => ?_
  cases rest with
  | nil => rfl
  | cons t rest => rfl

end Counted

/-- The rules of the grammar by name. A path and a pattern are read without going down a level. -/
inductive RuleName where
  | expression
  | conjunction
  | unary
  | comparison
  | pattern (left : Expr)
  | operand
  | list
  | path

namespace RuleName

variable [PatternEngine]

/-- What a rule reads with rules one level down. -/
def rule : RuleName → Deeper → Rule
  | expression => Parser.expression
  | conjunction => Parser.conjunction
  | unary => Parser.unary
  | comparison => Parser.comparison
  | pattern left => fun _ ts => do
    let (p, rest) ← Parser.patternLiteral ts
    .ok (.matching left p, rest)
  | operand => Parser.operand
  | list => Parser.listBody
  | path => fun _ => Parser.pathSegments []

def counted : RuleName → Calls → CountedRule
  | expression => Counted.expression
  | conjunction => Counted.conjunction
  | unary => Counted.unary
  | comparison => Counted.comparison
  | pattern left => fun _ ts => do
    let (p, rest) ← Counted.ofExcept (Parser.patternLiteral ts)
    return (.matching left p, rest)
  | operand => Counted.operand
  | list => Counted.listBody
  | path => fun _ ts => Counted.ofExcept (Parser.pathSegments [] ts)

theorem counted_gives {calls : Calls} {d : Deeper} {depth : Nat} (name : RuleName) (h : Counted.Follows calls d depth)
    (ts : Tokens) : Counted.Gives (name.counted calls ts) depth (name.rule d ts) := by
  cases name with
  | expression => exact Counted.expression_gives h ts
  | conjunction => exact Counted.conjunction_gives h ts
  | unary => exact Counted.unary_gives h ts
  | comparison => exact Counted.comparison_gives h ts
  | pattern left => exact (Counted.gives_ofExcept _).bind fun _ => rfl
  | operand => exact Counted.operand_gives h ts
  | list => exact Counted.listBody_gives h ts
  | path => exact Counted.gives_ofExcept _

end RuleName

/-- Reading and evaluating recurse no deeper than the limit on nesting allows, whatever the tokens are. A rule that is
called with the counter at some value has an outcome with room for the levels that are left below the limit; it is what the
rule reads by levels, well or not, and the counter ends where it was. So `maxDepth` calls inside one another are enough for
any tokens. The tree of what is accepted is at most `4 * (maxDepth + 1)` high, and with room for so many calls inside one
another it has the same value in every state. -/
theorem recursion_bounded [PatternEngine] :
    (∀ (name : RuleName) (room depth : Nat) (ts : Tokens), maxDepth ≤ room + depth →
      name.counted (Counted.within room) ts depth = some (name.rule (Parser.levels (maxDepth - depth)) ts, depth)) ∧
    (∀ ts, Counted.parse maxDepth ts 0 = some (Parser.parse ts, 0)) ∧
    ∀ ts e, Parser.parse ts = .ok e → e.height ≤ 4 * (maxDepth + 1) ∧
      ∀ s, e.evalWithin s (4 * (maxDepth + 1)) = some (e.eval s) := by
  refine ⟨fun name room depth ts h => name.counted_gives (Counted.within_follows h) ts,
    fun ts => Counted.parse_gives (Nat.le_refl _) ts, fun ts e h => ?_⟩
  have hheight := Parser.height_le_of_parse h
  exact ⟨hheight, fun s => Expr.evalWithin_eq s hheight⟩

/-- `!!true` -/
def twiceNegated : Tokens := [⟨0, .bang⟩, ⟨1, .bang⟩, ⟨2, .word "true"⟩]

/-- Two negations are one too many for a reader with a single level left, which does not make the second call, and they
take three evaluations inside one another. -/
theorem recursion_bounded_twiceNegated :
    RuleName.unary.counted (Counted.within 1) twiceNegated 127 = some (.error .tooDeep, 127) ∧
    Counted.parse maxDepth twiceNegated 0 = some (.ok (.not (.not (.literal (.bool true)))), 0) ∧
    (Expr.not (.not (.literal (.bool true)))).height ≤ 4 * (maxDepth + 1) ∧
    (Expr.not (.not (.literal (.bool true)))).evalWithin .empty (4 * (maxDepth + 1)) = some (.ok (.bool true)) := by
  obtain ⟨hrules, hparse, htrees⟩ := recursion_bounded
  have hread : Parser.parse twiceNegated = .ok (.not (.not (.literal (.bool true)))) := rfl
  obtain ⟨hheight, heval⟩ := htrees twiceNegated _ hread
  exact ⟨hrules .unary 1 127 twiceNegated (by decide), hread ▸ hparse twiceNegated, hheight, heval .empty⟩

end GatedFlow
