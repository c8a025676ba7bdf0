import GatedFlow.Proofs.Predicate.Replace

/-! # Views

A notice is an event and the registry whose observers are told of it. A view shows a system with other observers, with
predicates that answer as the ones they stand for, and with some failures of predicates left out. What such a predicate
reports in a view is what it reports otherwise, as far as that is heard. -/

namespace GatedFlow

/-- Whether an event reports that a predicate has failed. -/
def Event.isFailure : Event → Bool
  | predicateFailed .. => true
  | _ => false

/-- An event that the observers of a registry are told. -/
structure Notice where
  registry : Nat
  event : Event
  deriving DecidableEq

/-- The registry with a number; there are no observers behind a number that is not in use. -/
def registryAt (registries : List Registry) (registry : Nat) : Registry := (registries[registry]?).getD []

/-- What observers record of notices. -/
def recorded (registries : List Registry) (notices : List Notice) : List Delivery :=
  notices.flatMap fun n => (registryAt registries n.registry).deliver n.event

structure View where
  predicate : Predicate → Predicate
  registries : List Registry
  hears : Event → Bool
  answers : SameAnswers predicate
  reports : ∀ p s site name, ((predicate p).failure? s).map (Event.predicateFailed site name) =
    ((p.failure? s).map (.predicateFailed site name)).filter hears
  hears_of_not_isFailure : ∀ e, e.isFailure = false → hears e = true

namespace View

variable (v : View)

/-- What observers record of the notices that are heard. -/
def told (notices : List Notice) : List Delivery := recorded v.registries (notices.filter fun n => v.hears n.event)

@[simp] theorem told_nil : v.told [] = [] := rfl

@[simp] theorem told_append (notices more : List Notice) : v.told (notices ++ more) = v.told notices ++ v.told more := by
  simp only [told, recorded, List.filter_append, List.flatMap_append]

/-- Whoever is told some events is told those of them that are heard. -/
theorem told_map (registry : Nat) (events : List Event) : v.told (events.map (Notice.mk registry)) =
    (events.filter v.hears).flatMap (registryAt v.registries registry).deliver := by
  simp only [told, recorded, List.filter_map, List.flatMap_map]
  rfl

/-- The view of a system as it is, but for its observers. -/
def plain (registries : List Registry) : View where
  predicate p := p
  registries
  hears _ := true
  answers _ _ := rfl
  reports p s site name := by cases p.failure? s <;> rfl
  hears_of_not_isFailure _ _ := rfl

theorem plain_told (registries : List Registry) (notices : List Notice) :
    (plain registries).told notices = recorded registries notices :=
  congrArg (recorded registries) (List.filter_eq_self.2 fun _ _ => rfl)

theorem failures_router (r : Router) (s : State) :
    (r.replace v.predicate).failures s = (r.failures s).filter v.hears := by
  unfold Router.failures
  rw [r.asked_replace v.answers, List.filterMap_map, List.filter_filterMap]
  exact congrArg (List.filterMap · _) (funext fun rule => v.reports rule.predicate s .route rule.name)

theorem failures_edges (g : Graph) (node : String) (s : State) :
    (g.replace v.predicate).edgeFailures node s = (g.edgeFailures node s).filter v.hears := by
  unfold Graph.edgeFailures
  rw [g.edgesFrom_replace, List.filterMap_map, List.filter_filterMap]
  refine congrArg (List.filterMap · _) (funext fun e => ?_)
  -- an edge without a guard has nothing to report in either
  show ((e.guard.map v.predicate).bind (·.failure? s)).map (Event.predicateFailed .edge e.label) =
    ((e.guard.bind (·.failure? s)).map (Event.predicateFailed .edge e.label)).filter v.hears
  cases e.guard with
  | none => rfl
  | some p => exact v.reports p s .edge e.label

theorem failures_next (g : Graph) (node : String) (s : State) :
    (g.replace v.predicate).nextFailures node s = (g.nextFailures node s).filter v.hears := by
  have hdeclares : (g.replace v.predicate).declares node = g.declares node := rfl
  have hrouters : (g.replace v.predicate).routers = g.routers.map (·.replace v.predicate) := rfl
  unfold Graph.nextFailures
  rw [hdeclares, hrouters, Record.get?_map]
  split
  · cases g.routers.get? node with
    | none => exact v.failures_edges g node s
    | some r => exact v.failures_router r s
  · rfl

theorem failures_policy (p : Policy) (s : State) (node : String) :
    (p.replace v.predicate).failures s node = (p.failures s node).filter v.hears := by
  have hholds : (fun e : String × Condition => (e.2.replace v.predicate).holds s) = fun e => e.2.holds s :=
    funext fun e => v.answers e.2.predicate s
  have hasked : takeThrough (fun e => e.2.holds s) (p.replace v.predicate).conditions =
      (takeThrough (fun e => e.2.holds s) p.conditions).map fun e => (e.1, e.2.replace v.predicate) := by
    show takeThrough _ (p.conditions.map _) = _
    rw [takeThrough_map, hholds]
  unfold Policy.failures
  rw [hasked]
  show (if node ∈ p.always then _ else _) = _
  split
  · rfl
  · rw [List.filterMap_map, List.filter_filterMap]
    exact congrArg (List.filterMap · _) (funext fun e => v.reports e.2.predicate s .interrupt e.1)

end View
end GatedFlow
