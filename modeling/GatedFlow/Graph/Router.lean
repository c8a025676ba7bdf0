import GatedFlow.Observer.Event
import GatedFlow.Predicate

/-! # Routers

A router picks the nodes to go to from a list of rules. The first matching rule decides, or all matching
rules do, or the one with the highest priority; of equal priorities the earlier rule wins. Without a match
the default target is all there is. A rule whose predicate fails does not match. -/

namespace GatedFlow

inductive RoutingStrategy where
  | firstMatch
  | allMatch
  | priority
  deriving DecidableEq

namespace RoutingStrategy

def word : RoutingStrategy → String
  | firstMatch => "first_match"
  | allMatch => "all_match"
  | priority => "priority"

def ofWord? : String → Option RoutingStrategy
  | "first_match" => some firstMatch
  | "all_match" => some allMatch
  | "priority" => some priority
  | _ => none

end RoutingStrategy

/-- A rule of a router: where to go if a predicate holds. -/
structure RouteRule where
  name : String
  predicate : Predicate
  target : String
  priority : Int
  metadata : Fields

def RouteRule.holds (r : RouteRule) (s : State) : Bool := r.predicate.holds s

/-- A named list of rules with a strategy. -/
structure Router where
  name : String
  strategy : RoutingStrategy
  rules : List RouteRule
  default : Option String

namespace Router

def empty (name : String) (strategy : RoutingStrategy) (default : Option String) : Router :=
  ⟨name, strategy, [], default⟩

/-- Puts a rule in the place of the one with its name, or after all others. -/
def placeRule (rule : RouteRule) : List RouteRule → List RouteRule
  | [] => [rule]
  | r :: rest => if r.name = rule.name then rule :: rest else r :: placeRule rule rest

def addRule (r : Router) (rule : RouteRule) : Router := { r with rules := placeRule rule r.rules }

def rule? (r : Router) (name : String) : Option RouteRule := r.rules.find? (·.name == name)

def removeRule (r : Router) (name : String) : Router := { r with rules := r.rules.eraseP (·.name == name) }

def setDefault (r : Router) (target : Option String) : Router := { r with default := target }

/-- Every node the router may lead to, with repetitions. -/
def targets (r : Router) : List String := r.rules.map RouteRule.target ++ r.default.toList

/-- The targets of rules in order, each once. -/
def targetsOnce : List RouteRule → List String → List String
  | [], seen => seen
  | r :: rest, seen => targetsOnce rest (if r.target ∈ seen then seen else seen ++ [r.target])

/-- The rule of highest priority, the earliest of several. -/
def best (best? : Option RouteRule) : List RouteRule → Option RouteRule
  | [] => best?
  | r :: rest => best (if best?.all fun b => b.priority < r.priority then some r else best?) rest

/-- The targets that the matching rules lead to. -/
def decision (r : Router) (s : State) : List String :=
  match r.strategy with
  | .firstMatch => ((r.rules.find? (·.holds s)).map RouteRule.target).toList
  | .allMatch => targetsOnce (r.rules.filter (·.holds s)) []
  | .priority => ((best none (r.rules.filter (·.holds s))).map RouteRule.target).toList

/-- Where to go from here; the default target counts where no rule matches. -/
def route (r : Router) (s : State) : List String :=
  let targets := r.decision s
  if targets.isEmpty then r.default.toList else targets

/-- The rules that are asked on the way to the decision. -/
def asked (r : Router) (s : State) : List RouteRule :=
  match r.strategy with
  | .firstMatch => takeThrough (·.holds s) r.rules
  | _ => r.rules

def failures (r : Router) (s : State) : List Event :=
  (r.asked s).filterMap fun rule => (rule.predicate.failure? s).map (.predicateFailed .route rule.name)

end Router

/-- One change of a router. -/
inductive RouterStep where
  | addRule (rule : RouteRule)
  | removeRule (name : String)
  | setDefault (target : Option String)

namespace Router

def apply (r : Router) : RouterStep → Router
  | .addRule rule => r.addRule rule
  | .removeRule name => r.removeRule name
  | .setDefault target => r.setDefault target

/-- The router after steps one after the other. -/
def after (r : Router) (steps : List RouterStep) : Router := steps.foldl apply r

end Router
end GatedFlow
