import GatedFlow.Expression.Lexer
import GatedFlow.Expression.Tree

/-! # Reading a condition

The grammar, loosest binding first:

    expr       := and (("or" | "||") and)*
    and        := unary (("and" | "&&") unary)*
    unary      := ("not" | "!") unary | comparison
    comparison := operand (op operand | "matches" string)?
    op         := == | != | < | <= | > | >= | in | not in | contains
    operand    := number | string | true | false | null | path
                | "len" "(" expr ")" | "(" expr ")" | "[" (expr ("," expr)*)? "]"
    path       := "state" ("." word | "[" string "]" | "[" index "]")*

Parentheses, lists, `len(` and negations go one level down. The parsers of a level get the parsers of the
next level as `Deeper`, and `levels` builds `maxDepth` of them, so the number of levels is the only
recursion; within a level everything goes from left to right. -/

namespace GatedFlow

abbrev Tokens := List Placed

/-- A way to read an expression: it yields the tree and the tokens after it. -/
abbrev Rule := Tokens → Except ExpressionError (Expr × Tokens)

/-- The rules one nesting level down. -/
structure Deeper where
  expr : Rule
  unary : Rule
  items : Rule

namespace Parser

def expect (t : Token) : Tokens → Except ExpressionError Tokens
  | [] => .error (.unexpectedEnd (.token t))
  | found :: rest =>
    if found.token = t then .ok rest else .error (.unexpectedToken found.pos (.token t) found.token)

def isOr (t : Token) : Bool := t == .orOr || t == .word "or"

def isAnd (t : Token) : Bool := t == .andAnd || t == .word "and"

def isNot (t : Token) : Bool := t == .bang || t == .word "not"

/-- The further terms of a chain, each after a joining token, gathered in reverse. The fuel is at least the
number of tokens. -/
def moreTerms (joins : Token → Bool) (term : Rule) :
    Nat → List Expr → Tokens → Except ExpressionError (List Expr × Tokens)
  | 0, gathered, ts => .ok (gathered.reverse, ts)
  | _, gathered, [] => .ok (gathered.reverse, [])
  | fuel + 1, gathered, t :: rest =>
    if joins t.token then do
      let (e, rest) ← term rest
      moreTerms joins term fuel (e :: gathered) rest
    else .ok (gathered.reverse, t :: rest)

/-- A term alone, or a chain of several. -/
def chain (joins : Token → Bool) (join : List Expr → Expr) (term : Rule) : Rule := fun ts => do
  let (first, rest) ← term ts
  match rest with
  | [] => .ok (first, [])
  | t :: _ =>
    if joins t.token then do
      let (more, rest) ← moreTerms joins term rest.length [] rest
      .ok (join (first :: more), rest)
    else .ok (first, rest)

/-- The segments of a path after `state`, gathered in reverse. -/
def pathSegments (gathered : List Segment) : Rule
  | ⟨_, .dot⟩ :: rest =>
    match rest with
    | ⟨_, .word name⟩ :: rest => pathSegments (.key name :: gathered) rest
    | found :: _ => .error (.unexpectedToken found.pos .fieldName found.token)
    | [] => .error (.unexpectedEnd .fieldName)
  | ⟨_, .bracketOpen⟩ :: rest =>
    match rest with
    | ⟨_, .string name⟩ :: rest =>
      match rest with
      | ⟨_, .bracketClose⟩ :: rest => pathSegments (.key name :: gathered) rest
      | found :: _ => .error (.unexpectedToken found.pos (.token .bracketClose) found.token)
      | [] => .error (.unexpectedEnd (.token .bracketClose))
    | ⟨pos, .number n⟩ :: rest =>
      match n.toNat? with
      | none => .error (.invalidNumber pos n.text)
      | some position =>
        match rest with
        | ⟨_, .bracketClose⟩ :: rest => pathSegments (.index position :: gathered) rest
        | found :: _ => .error (.unexpectedToken found.pos (.token .bracketClose) found.token)
        | [] => .error (.unexpectedEnd (.token .bracketClose))
    | found :: _ => .error (.unexpectedToken found.pos .keyOrIndex found.token)
    | [] => .error (.unexpectedEnd .keyOrIndex)
  | ts => .ok (.path gathered.reverse, ts)

/-- An expression in parentheses, after the opening one. -/
def parenthesized (deeper : Deeper) : Rule := fun ts => do
  let (e, rest) ← deeper.expr ts
  let rest ← expect .parenClose rest
  .ok (e, rest)

def operand (deeper : Deeper) : Rule
  | [] => .error (.unexpectedEnd .operand)
  | t :: rest =>
    match t.token with
    | .number n => .ok (.literal (.number n), rest)
    | .string s => .ok (.literal (.string s), rest)
    | .parenOpen => parenthesized deeper rest
    | .bracketOpen => deeper.items rest
    | .word name =>
      if name = "true" then .ok (.literal (.bool true), rest)
      else if name = "false" then .ok (.literal (.bool false), rest)
      else if name = "null" then .ok (.literal .null, rest)
      else if name = "state" then pathSegments [] rest
      else if name = "len" then do
        let rest ← expect .parenOpen rest
        let (e, rest) ← parenthesized deeper rest
        .ok (.len e, rest)
      else .error (.unknownIdentifier name)
    | _ => .error (.unexpectedToken t.pos .operand t.token)

/-- The comparison operator at the front, if there is one. -/
def operator? : Tokens → Option (CompareOp × Tokens)
  | [] => none
  | t :: rest =>
    match t.token with
    | .equal => some (.eq, rest)
    | .notEqual => some (.ne, rest)
    | .less => some (.lt, rest)
    | .lessEqual => some (.le, rest)
    | .greater => some (.gt, rest)
    | .greaterEqual => some (.ge, rest)
    | .word name =>
      if name = "in" then some (.within, rest)
      else if name = "contains" then some (.contains, rest)
      else if name = "not" then
        match rest with
        | second :: rest => if second.token = .word "in" then some (.notWithin, rest) else none
        | [] => none
      else none
    | _ => none

variable [PatternEngine]

/-- The pattern after `matches`. -/
def patternLiteral : Tokens → Except ExpressionError (Pattern × Tokens)
  | [] => .error (.unexpectedEnd .patternLiteral)
  | t :: rest =>
    match t.token with
    | .string source =>
      match Pattern.ofText? source with
      | some p => .ok (p, rest)
      | none => .error (.invalidPattern source)
    | _ => .error (.unexpectedToken t.pos .patternLiteral t.token)

def startsWith (t : Token) : Tokens → Bool
  | [] => false
  | found :: _ => found.token == t

/-- An operand alone, or a comparison of two. -/
def comparison (deeper : Deeper) : Rule := fun ts => do
  let (left, rest) ← operand deeper ts
  match operator? rest with
  | some (op, rest) => do
    let (right, rest) ← operand deeper rest
    .ok (.compare op left right, rest)
  | none =>
    if startsWith (.word "matches") rest then do
      let (p, rest) ← patternLiteral rest.tail
      .ok (.matching left p, rest)
    else .ok (left, rest)

def unary (deeper : Deeper) : Rule
  | [] => comparison deeper []
  | t :: rest =>
    if isNot t.token then do
      let (e, rest) ← deeper.unary rest
      .ok (.not e, rest)
    else comparison deeper (t :: rest)

def conjunction (deeper : Deeper) : Rule := chain isAnd .conj (unary deeper)

def expression (deeper : Deeper) : Rule := chain isOr .disj (conjunction deeper)

/-- The items of a list up to its closing bracket, gathered in reverse. The fuel is above the number of
tokens. -/
def listItems (item : Rule) : Nat → List Expr → Rule
  | 0, _, _ => .error (.unexpectedEnd .operand)
  | fuel + 1, gathered, ts => do
    let (e, rest) ← item ts
    match rest with
    | [] => .error (.unexpectedEnd .closingBracket)
    | t :: rest =>
      if t.token = .comma then listItems item fuel (e :: gathered) rest
      else if t.token = .bracketClose then .ok (.list (e :: gathered).reverse, rest)
      else .error (.unexpectedToken t.pos .separator t.token)

def listBody (deeper : Deeper) : Rule := fun ts =>
  if startsWith .bracketClose ts then .ok (.list [], ts.tail)
  else listItems (expression deeper) (ts.length + 1) [] ts

/-- The parsers below which this many levels are left. -/
def levels : Nat → Deeper
  | 0 => ⟨fun _ => .error .tooDeep, fun _ => .error .tooDeep, fun _ => .error .tooDeep⟩
  | n + 1 => ⟨expression (levels n), unary (levels n), listBody (levels n)⟩

def parse (ts : Tokens) : Except ExpressionError Expr := do
  let (e, rest) ← expression (levels maxDepth) ts
  match rest with
  | [] => .ok e
  | t :: _ => .error (.unexpectedToken t.pos .endOfSource t.token)

end Parser

/-- A condition with the source it was read from. -/
structure Expression where
  source : String
  tree : Expr

def Expression.ofSource [PatternEngine] (source : String) : Except ExpressionError Expression := do
  let tokens ← tokenize source
  let tree ← Parser.parse tokens
  return ⟨source, tree⟩

end GatedFlow
