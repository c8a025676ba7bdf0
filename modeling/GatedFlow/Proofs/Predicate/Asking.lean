import GatedFlow.Approval.Policy
import GatedFlow.Graph.Basic
import GatedFlow.Program

/-! # Asking predicates one after the other

Routers, edges and policies decide by programs that ask one predicate at a time and go on from its answer. `evaluate`
gives what such a program comes to and the evaluations it performs. Each decision of a graph or a policy is what its
program comes to, and the failures it reports are those of the evaluations performed, one each
(`Graph.evaluate_asking`, `Policy.evaluate_asking`). -/

namespace GatedFlow

/-- A predicate that is asked about a state: where, and under which name. -/
structure Evaluation where
  site : PredicateSite
  name : String
  predicate : Predicate
  state : State

namespace Evaluation

def holds (q : Evaluation) : Bool := q.predicate.holds q.state

/-- The event of an evaluation that fails. -/
def failure? (q : Evaluation) : Option Event :=
  (q.predicate.failure? q.state).map (.predicateFailed q.site q.name)

end Evaluation

inductive Question : Type → Type where
  | holds (q : Evaluation) : Question Bool

/-- A program that asks predicates. -/
abbrev Asking (α : Type) := Program Question α

namespace Question

/-- The answer to a question, which is added to the evaluations performed. -/
def answer {α : Type} (question : Question α) (performed : List Evaluation) : α × List Evaluation :=
  match question with
  | holds q => (q.holds, performed ++ [q])

theorem answer_append {α : Type} (question : Question α) (performed : List Evaluation) :
    question.answer performed = ((question.answer []).1, performed ++ (question.answer []).2) := by
  cases question
  rfl

end Question

namespace Asking

variable {α β : Type}

def ask (q : Evaluation) : Asking Bool := Program.call (.holds q)

/-- What a program comes to and the evaluations it performs. -/
def evaluate (p : Asking α) : α × List Evaluation := p.run Question.answer []

theorem run_eq (p : Asking α) (performed : List Evaluation) :
    p.run Question.answer performed = ((evaluate p).1, performed ++ (evaluate p).2) := by
  unfold evaluate
  -- evaluations are added at the end, so those performed before stay in front
  induction p generalizing performed with
  | done a => simp
  | ask question next ih =>
    simp only [Program.run_ask]
    rw [question.answer_append, ih, ih _ (question.answer []).2, List.append_assoc]

@[simp] theorem evaluate_done (a : α) : evaluate (Program.done a) = (a, []) := rfl

@[simp] theorem evaluate_pure (a : α) : evaluate (pure a) = (a, []) := rfl

@[simp] theorem evaluate_ask (q : Evaluation) : evaluate (ask q) = (q.holds, [q]) := rfl

@[simp] theorem evaluate_bind (p : Asking α) (f : α → Asking β) : evaluate (p >>= f) =
    ((evaluate (f (evaluate p).1)).1, (evaluate p).2 ++ (evaluate (f (evaluate p).1)).2) := by
  unfold evaluate
  rw [Program.run_bind]
  exact run_eq _ _

/-- Looks for the first item that meets a question and asks no further. -/
def firstOf (asks : α → Asking Bool) : List α → Asking (Option α)
  | [] => pure none
  | a :: rest => do
    if ← asks a then return some a else firstOf asks rest

/-- Asks about every item and keeps those that meet the question. -/
def allOf (asks : α → Asking Bool) : List α → Asking (List α)
  | [] => pure []
  | a :: rest => do
    let meets ← asks a
    let others ← allOf asks rest
    return if meets then a :: others else others

variable {asks : α → Asking Bool} {p : α → Bool} {q : α → List Evaluation}

theorem evaluate_firstOf (h : ∀ a, evaluate (asks a) = (p a, q a)) (l : List α) :
    evaluate (firstOf asks l) = (l.find? p, (takeThrough p l).flatMap q) := by
  induction l with
  | nil => rfl
  | cons a l ih =>
    rw [firstOf, evaluate_bind, h]
    cases hp : p a with
    | true => simp [takeThrough, hp]
    | false => simp [takeThrough, hp, ih]

theorem evaluate_allOf (h : ∀ a, evaluate (asks a) = (p a, q a)) (l : List α) :
    evaluate (allOf asks l) = (l.filter p, l.flatMap q) := by
  induction l with
  | nil => rfl
  | cons a l ih =>
    simp only [allOf, evaluate_bind, h, ih, evaluate_pure, List.append_nil, List.filter_cons, List.flatMap_cons]

end Asking

open Asking

/-! ## Routers -/

def RouteRule.question (r : RouteRule) (s : State) : Evaluation := ⟨.route, r.name, r.predicate, s⟩

namespace Router

/-- Goes through rules and keeps the best of those that match. -/
def bestOf (s : State) (best? : Option RouteRule) : List RouteRule → Asking (Option RouteRule)
  | [] => pure best?
  | r :: rest => do
    let matched ← ask (r.question s)
    bestOf s (if matched && best?.all fun b => b.priority < r.priority then some r else best?) rest

/-- The way in which a router comes to the targets of its matching rules. -/
def deciding (r : Router) (s : State) : Asking (List String) :=
  match r.strategy with
  | .firstMatch => do
    let rule? ← firstOf (fun rule => ask (rule.question s)) r.rules
    return (rule?.map RouteRule.target).toList
  | .allMatch => do
    let rules ← allOf (fun rule => ask (rule.question s)) r.rules
    return targetsOnce rules []
  | .priority => do
    let best? ← bestOf s none r.rules
    return (best?.map RouteRule.target).toList

/-- The way in which a router picks where to go. -/
def asking (r : Router) (s : State) : Asking (List String) := do
  let targets ← r.deciding s
  return if targets.isEmpty then r.default.toList else targets

theorem evaluate_bestOf (s : State) (best? : Option RouteRule) (rules : List RouteRule) :
    evaluate (bestOf s best? rules) = (best best? (rules.filter (·.holds s)), rules.map (·.question s)) := by
  induction rules generalizing best? with
  | nil => rfl
  | cons r rules ih =>
    have hholds : (r.question s).holds = r.holds s := rfl
    simp only [bestOf, evaluate_bind, evaluate_ask, hholds, ih, List.map_cons, List.singleton_append]
    -- a rule that does not match is asked all the same
    cases h : r.holds s with
    | true => simp [h, best]
    | false => simp [h]

theorem evaluate_deciding (r : Router) (s : State) :
    evaluate (r.deciding s) = (r.decision s, (r.asked s).map (·.question s)) := by
  have hask : ∀ rule : RouteRule, evaluate (ask (rule.question s)) = (rule.holds s, [rule.question s]) := fun _ => rfl
  have hmap : ∀ rules : List RouteRule, (rules.flatMap fun rule => [rule.question s]) = rules.map (·.question s) :=
    fun _ => List.map_eq_flatMap.symm
  unfold deciding decision asked
  cases r.strategy with
  | firstMatch => simp only [evaluate_bind, evaluate_firstOf hask, evaluate_pure, hmap, List.append_nil]
  | allMatch => simp only [evaluate_bind, evaluate_allOf hask, evaluate_pure, hmap, List.append_nil]
  | priority => simp only [evaluate_bind, evaluate_bestOf, evaluate_pure, List.append_nil]

theorem evaluate_asking (r : Router) (s : State) :
    evaluate (r.asking s) = (r.route s, (r.asked s).map (·.question s)) := by
  simp only [asking, evaluate_bind, evaluate_deciding, evaluate_pure, List.append_nil]
  rfl

/-- A router reports the failures of the evaluations it performs. -/
theorem failures_eq (r : Router) (s : State) : r.failures s = (evaluate (r.asking s)).2.filterMap Evaluation.failure? := by
  rw [evaluate_asking, List.filterMap_map]
  rfl

end Router

/-! ## Graphs and policies -/

/-- An edge without a guard is open unasked. -/
def Edge.asking (e : Edge) (s : State) : Asking Bool :=
  match e.guard with
  | none => pure true
  | some p => ask ⟨.edge, e.label, p, s⟩

def Edge.questions (e : Edge) (s : State) : List Evaluation := e.guard.toList.map fun p => ⟨.edge, e.label, p, s⟩

theorem Edge.evaluate_asking (e : Edge) (s : State) : evaluate (e.asking s) = (e.isOpen s, e.questions s) := by
  unfold asking isOpen questions
  cases e.guard <;> rfl

namespace Graph

/-- The way in which a graph picks where a run goes from a node. -/
def asking (g : Graph) (node : String) (s : State) : Asking (Except FlowError (List String)) :=
  match g.require node with
  | .error e => pure (.error e)
  | .ok _ =>
    match g.routers.get? node with
    | some r => do return .ok (← r.asking s)
    | none => do return .ok ((← allOf (·.asking s) (g.edgesFrom node)).map Edge.target)

theorem edgeFailures_eq (g : Graph) (node : String) (s : State) :
    g.edgeFailures node s = ((g.edgesFrom node).flatMap (·.questions s)).filterMap Evaluation.failure? := by
  have hedge : ∀ e : Edge, (e.questions s).filterMap Evaluation.failure? =
      ((e.failure? s).map (Event.predicateFailed .edge e.label)).toList := by
    intro e
    unfold Edge.questions Edge.failure?
    cases e.guard with
    | none => rfl
    | some p =>
      simp only [Option.toList_some, List.map_singleton, List.filterMap_cons, List.filterMap_nil, Evaluation.failure?,
        Option.bind_some]
      cases p.failure? s <;> rfl
  unfold edgeFailures
  induction g.edgesFrom node with
  | nil => rfl
  | cons e edges ih =>
    rw [List.flatMap_cons, List.filterMap_append, hedge, ← ih, List.filterMap_cons]
    cases e.failure? s <;> rfl

/-- Where a run goes is what asking comes to, and of each evaluation on the way that fails there is one report. -/
theorem evaluate_asking (g : Graph) (node : String) (s : State) : (evaluate (g.asking node s)).1 = g.next node s ∧
    (evaluate (g.asking node s)).2.filterMap Evaluation.failure? = g.nextFailures node s := by
  unfold asking next nextFailures require
  cases hdeclared : g.declares node with
  | false => exact ⟨rfl, rfl⟩
  | true =>
    simp only [if_true]
    cases hrouter : g.routers.get? node with
    | some r =>
      simp only [evaluate_bind, evaluate_pure, List.append_nil, r.evaluate_asking, r.failures_eq]
      exact ⟨rfl, trivial⟩
    | none =>
      have htraversable : g.traversable node s = .ok (((g.edgesFrom node).filter (·.isOpen s)).map Edge.target) := by
        simp only [traversable, outgoing, require, hdeclared, if_true]
        rfl
      simp only [evaluate_bind, evaluate_pure, List.append_nil, evaluate_allOf fun e => Edge.evaluate_asking e s,
        g.edgeFailures_eq, htraversable]
      exact ⟨rfl, trivial⟩

end Graph

/-- The way in which a policy finds out why a node needs approval. -/
def Policy.asking (p : Policy) (s : State) (node : String) : Asking (Option GateReason) :=
  if node ∈ p.always then pure (some (.always node))
  else do
    let condition? ← firstOf (fun e => ask ⟨.interrupt, e.1, e.2.predicate, s⟩) p.conditions
    return condition?.map fun e => .condition e.1

/-- Why a node needs approval is what asking comes to, and of each evaluation on the way that fails there is one
report. -/
theorem Policy.evaluate_asking (p : Policy) (s : State) (node : String) :
    (evaluate (p.asking s node)).1 = p.reason? s node ∧
      (evaluate (p.asking s node)).2.filterMap Evaluation.failure? = p.failures s node := by
  have hask : ∀ e : String × Condition, evaluate (ask ⟨.interrupt, e.1, e.2.predicate, s⟩) =
      (e.2.holds s, [(⟨.interrupt, e.1, e.2.predicate, s⟩ : Evaluation)]) := fun _ => rfl
  unfold asking reason? failures
  split
  · exact ⟨rfl, rfl⟩
  · simp only [evaluate_bind, evaluate_firstOf hask, evaluate_pure, List.append_nil, ← List.map_eq_flatMap,
      List.filterMap_map]
    exact ⟨trivial, rfl⟩

end GatedFlow
