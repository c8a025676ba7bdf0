import GatedFlow.Expression.Eval
import GatedFlow.Text.Quoted

/-! # Predicates

A question about a state is a host test or a condition read from text. A host test may answer, report an
error, or panic; a panic is an error like the others, so `Predicate.check` always comes back. -/

namespace GatedFlow

/-- The items up to the first with a property, and that one: those that a search for it looks at. -/
def takeThrough {α : Type} (p : α → Bool) : List α → List α
  | [] => []
  | a :: rest => if p a then [a] else a :: takeThrough p rest

/-- What a host test does. -/
inductive Verdict where
  | answer (result : Except PredicateError Bool)
  | panic (text : Option String)

/-- The answer of a test; a panic without a text has a fixed one. -/
def Verdict.result : Verdict → Except PredicateError Bool
  | answer result => result
  | panic text => .error (.panicked (text.getD "unknown panic"))

/-- A question about a state. -/
inductive Predicate where
  | test (run : State → Verdict)
  | expression (e : Expression)

namespace Predicate

def check : Predicate → State → Except PredicateError Bool
  | test run, s => (run s).result
  | expression e, s => e.holds s

/-- Whether the answer is yes; a failure counts as no. -/
def holds (p : Predicate) (s : State) : Bool :=
  match p.check s with
  | .ok b => b
  | .error _ => false

/-- The failure of a test that has no answer. -/
def failure? (p : Predicate) (s : State) : Option PredicateError :=
  match p.check s with
  | .ok _ => none
  | .error e => some e

def source? : Predicate → Option String
  | test _ => none
  | expression e => some e.source

def ofSource [PatternEngine] (source : String) : Except ExpressionError Predicate :=
  (Expression.ofSource source).map .expression

def const (b : Bool) : Predicate := .test fun _ => .answer (.ok b)

def hasPath (path : String) : Predicate := .test fun s => .answer (.ok (s.getPath? path).isSome)

def failing (text : String) : Predicate := .test fun _ => .answer (.error (.failed text))

/-- A test that panics, with a text or without. -/
def panicking (text : Option String) : Predicate := .test fun _ => .panic text

def diagnostic (p : Predicate) : String :=
  match p.source? with
  | none => "Predicate(<function>)"
  | some source => "Predicate(" ++ quoted source ++ ")"

end Predicate
end GatedFlow
