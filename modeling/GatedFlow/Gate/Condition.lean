import GatedFlow.Predicate

/-! # Gate conditions

A named question whose yes stops a run before a node. Conditions combine with `and`, `or` and `negate`; an
error of an operand that is reached is the error of the whole, so a negated broken condition is broken too.
`Condition.holds` reads an error as no. -/

namespace GatedFlow

/-- A named question about a state. -/
structure Condition where
  name : String
  predicate : Predicate

namespace Condition

def check (c : Condition) (s : State) : Except PredicateError Bool := c.predicate.check s

/-- The answer in a state; an error counts as no. -/
def holds (c : Condition) (s : State) : Bool := c.predicate.holds s

def ofTest (name : String) (test : State → Bool) : Condition :=
  ⟨name, .test fun s => .answer (.ok (test s))⟩

def always : Condition := ofTest "always" fun _ => true

def never : Condition := ofTest "never" fun _ => false

/-- The condition a source describes, named by it. -/
def ofSource [PatternEngine] (source : String) : Except ExpressionError Condition :=
  (Predicate.ofSource source).map fun p => ⟨source, p⟩

/-- A path leads to a value that agrees with the given one. -/
def equals (path : String) (value : Value) : Condition :=
  ofTest (path ++ " == " ++ value.text) fun s =>
    match s.getPath? path with
    | some v => v.agrees value
    | none => false

/-- A path leads to a number above the threshold. -/
def greater (path : String) (threshold : Double) : Condition :=
  ofTest (path ++ " > " ++ DecimalStyle.plain.text threshold) fun s =>
    match (s.getPath? path).bind Value.asDouble? with
    | some x => threshold.less x
    | none => false

/-- A path leads to a number below the threshold. -/
def less (path : String) (threshold : Double) : Condition :=
  ofTest (path ++ " < " ++ DecimalStyle.plain.text threshold) fun s =>
    match (s.getPath? path).bind Value.asDouble? with
    | some x => x.less threshold
    | none => false

def present (path : String) : Condition :=
  ofTest ("exists(" ++ path ++ ")") fun s => (s.getPath? path).isSome

/-- A path leads to an array with the value as an item, a string with it as a part, or an object with it as
a key. -/
def contains (path : String) (value : Value) : Condition :=
  ofTest (path ++ " contains " ++ value.text) fun s =>
    match s.getPath? path, value with
    | some (.array items), needle => items.any fun item => item.agrees needle
    | some (.string text), .string needle => occursIn needle.toList text.toList
    | some (.object fields), .string key => (findEntry key fields).isSome
    | _, _ => false

/-- Both hold; the second is asked only if the first holds. -/
def and (a b : Condition) : Condition :=
  ⟨"(" ++ a.name ++ " & " ++ b.name ++ ")", .test fun s => .answer (do
    let x ← a.check s
    if x then b.check s else return false)⟩

/-- One of the two holds; the second is asked only if the first does not. -/
def or (a b : Condition) : Condition :=
  ⟨"(" ++ a.name ++ " | " ++ b.name ++ ")", .test fun s => .answer (do
    let x ← a.check s
    if x then return true else b.check s)⟩

def negate (a : Condition) : Condition :=
  ⟨"!" ++ a.name, .test fun s => .answer (do
    let x ← a.check s
    return !x)⟩

def rename (c : Condition) (name : String) : Condition := { c with name := name }

def diagnostic (c : Condition) : String :=
  "InterruptCondition \x7b name: " ++ quoted c.name ++ ", predicate: " ++ c.predicate.diagnostic ++ " \x7d"

end Condition
end GatedFlow
