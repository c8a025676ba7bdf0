import GatedFlow.Session.Basic

/-! # Systems with other predicates

`replace f` puts `f p` for every predicate `p` of a graph's edges and routers, of a policy's conditions and of the
conditions that commands bring. If `f p` always gives the same answer as `p`, everything that asks predicates decides as
before, and what is reported is reported of the same predicates (`Reports`). -/

namespace GatedFlow

theorem KeySorted.map {α β : Type} {entries : List (String × α)} (h : KeySorted entries) (f : α → β) :
    KeySorted (entries.map fun e => (e.1, f e.2)) :=
  List.pairwise_map.2 h

namespace Record

variable {α β : Type}

/-- The record with every value changed. -/
def map (f : α → β) (r : Record α) : Record β where
  entries := r.entries.map fun e => (e.1, f e.2)
  sorted := r.sorted.map f

theorem findEntry_map (f : α → β) (name : String) (entries : List (String × α)) :
    findEntry name (entries.map fun e => (e.1, f e.2)) = (findEntry name entries).map f := by
  induction entries with
  | nil => rfl
  | cons e rest ih =>
    simp only [List.map_cons, findEntry, ih]
    split <;> rfl

@[simp] theorem get?_map (f : α → β) (r : Record α) (name : String) : (r.map f).get? name = (r.get? name).map f :=
  findEntry_map f name r.entries

end Record

section

variable (f : Predicate → Predicate)

def RouteRule.replace (r : RouteRule) : RouteRule := { r with predicate := f r.predicate }

def Router.replace (r : Router) : Router := { r with rules := r.rules.map (·.replace f) }

def Edge.replace (e : Edge) : Edge := { e with guard := e.guard.map f }

def Graph.replace (g : Graph) : Graph :=
  { g with edges := g.edges.map (·.replace f), routers := g.routers.map (·.replace f) }

def Condition.replace (c : Condition) : Condition := { c with predicate := f c.predicate }

def Policy.replace (p : Policy) : Policy := { p with conditions := p.conditions.map fun e => (e.1, e.2.replace f) }

def DeskCommand.replace : DeskCommand → DeskCommand
  | addCondition name c => addCondition name (c.replace f)
  | c => c

def Command.replace : Command → Command
  | desk c => desk (c.replace f)
  | c => c

def Step.replace : Step → Step
  | command c => command (c.replace f)
  | together edits => together edits
  | wait thread limit commands => wait thread limit (commands.map fun e => (e.1, e.2.replace f))
  | invoke thread initial commands => invoke thread initial (commands.map fun e => (e.1, e.2.replace f))
  | resume thread commands => resume thread (commands.map fun e => (e.1, e.2.replace f))

def Engine.replace (E : Engine) : Engine := { E with graph := E.graph.replace f }

end

/-! ## Replacing predicates by themselves -/

theorem Router.replace_id (r : Router) : r.replace (fun p => p) = r :=
  congrArg (fun rules => { r with rules }) (List.map_id r.rules)

theorem Edge.replace_id (e : Edge) : e.replace (fun p => p) = e :=
  congrArg (fun guard => { e with guard }) Option.map_id'

theorem Graph.replace_id (g : Graph) : g.replace (fun p => p) = g := by
  have hedges : g.edges.map (·.replace fun p => p) = g.edges :=
    (List.map_congr_left fun e _ => e.replace_id).trans (List.map_id g.edges)
  have hrouters : g.routers.map (·.replace fun p => p) = g.routers := Record.ext fun name => by
    rw [Record.get?_map]
    cases g.routers.get? name with
    | none => rfl
    | some r => exact congrArg some r.replace_id
  unfold replace
  rw [hedges, hrouters]

theorem Policy.replace_id (p : Policy) : p.replace (fun p => p) = p :=
  congrArg (fun conditions => { p with conditions }) (List.map_id p.conditions)

theorem Command.replace_id (c : Command) : c.replace (fun p => p) = c := by
  cases c with
  | desk c => cases c <;> rfl
  | _ => rfl

theorem Step.replace_id (s : Step) : s.replace (fun p => p) = s := by
  have hcommands : ∀ commands : List (Nat × Command), (commands.map fun e => (e.1, e.2)) = commands := List.map_id
  cases s <;> simp only [replace, Command.replace_id, hcommands]

theorem Engine.replace_id (E : Engine) : E.replace (fun p => p) = E :=
  congrArg (fun graph => { E with graph }) E.graph.replace_id

/-! ## The same answers -/

theorem takeThrough_map {α β : Type} (f : α → β) (p : β → Bool) (l : List α) :
    takeThrough p (l.map f) = (takeThrough (fun a => p (f a)) l).map f := by
  induction l with
  | nil => rfl
  | cons a l ih =>
    simp only [List.map_cons, takeThrough, ih]
    split <;> rfl

/-- A replacement of predicates by others that give the same answers. -/
def SameAnswers (f : Predicate → Predicate) : Prop := ∀ p s, (f p).holds s = p.holds s

section

variable {f : Predicate → Predicate}

namespace Router

theorem targetsOnce_replace (f : Predicate → Predicate) (rules : List RouteRule) (seen : List String) :
    targetsOnce (rules.map (RouteRule.replace f)) seen = targetsOnce rules seen := by
  induction rules generalizing seen with
  | nil => rfl
  | cons r rules ih => exact ih _

theorem best_replace (f : Predicate → Predicate) (best? : Option RouteRule) (rules : List RouteRule) :
    best (best?.map (RouteRule.replace f)) (rules.map (RouteRule.replace f)) = (best best? rules).map (RouteRule.replace f) := by
  induction rules generalizing best? with
  | nil => rfl
  | cons r rules ih =>
    -- rules are compared by their priorities, which stay
    have hbetter : (best?.map (RouteRule.replace f)).all (fun b => decide (b.priority < r.priority)) =
        best?.all fun b => decide (b.priority < r.priority) := by
      cases best? <;> rfl
    show best (if (best?.map (RouteRule.replace f)).all (fun b => decide (b.priority < r.priority))
      then some (r.replace f) else best?.map (RouteRule.replace f)) _ = (best (if _ then _ else _) rules).map _
    rw [hbetter, ← ih]
    split <;> rfl

variable (hf : SameAnswers f) (r : Router) (s : State)

include hf

theorem decision_replace : (r.replace f).decision s = r.decision s := by
  have hholds : (fun rule : RouteRule => (rule.replace f).holds s) = (RouteRule.holds · s) :=
    funext fun rule => hf rule.predicate s
  have hfilter : (r.rules.map (RouteRule.replace f)).filter (RouteRule.holds · s) =
      (r.rules.filter (RouteRule.holds · s)).map (RouteRule.replace f) := by
    rw [List.filter_map]
    exact congrArg (fun p => (r.rules.filter p).map (RouteRule.replace f)) hholds
  have hstrategy : (r.replace f).strategy = r.strategy := rfl
  have hrules : (r.replace f).rules = r.rules.map (RouteRule.replace f) := rfl
  unfold decision
  rw [hstrategy, hrules]
  -- whichever rules a strategy picks, it picks them by their answers, places and priorities
  cases r.strategy with
  | firstMatch =>
    dsimp only
    rw [List.find?_map, Option.map_map]
    exact congrArg (fun p => ((r.rules.find? p).map RouteRule.target).toList) hholds
  | allMatch =>
    dsimp only
    rw [hfilter, targetsOnce_replace]
  | priority =>
    dsimp only
    rw [hfilter]
    show ((best (none.map (RouteRule.replace f)) _).map RouteRule.target).toList = _
    rw [best_replace, Option.map_map]
    rfl

theorem route_replace : (r.replace f).route s = r.route s := by
  simp only [route, decision_replace hf]
  rfl

theorem asked_replace : (r.replace f).asked s = (r.asked s).map (RouteRule.replace f) := by
  have hstrategy : (r.replace f).strategy = r.strategy := rfl
  have hrules : (r.replace f).rules = r.rules.map (RouteRule.replace f) := rfl
  unfold asked
  rw [hstrategy, hrules]
  cases r.strategy with
  | firstMatch =>
    dsimp only
    rw [takeThrough_map]
    exact congrArg (fun p => (takeThrough p r.rules).map _) (funext fun rule => hf rule.predicate s)
  | allMatch => rfl
  | priority => rfl

end Router

namespace Graph

variable (hf : SameAnswers f) (g : Graph) (name : String) (s : State)

theorem edgesFrom_replace (f : Predicate → Predicate) (g : Graph) (name : String) :
    (g.replace f).edgesFrom name = (g.edgesFrom name).map (·.replace f) := by
  unfold edgesFrom
  rw [List.map_filterMap]
  exact congrArg (List.filterMap · _) (funext fun i => List.getElem?_map ..)

include hf

theorem traversable_replace : (g.replace f).traversable name s = g.traversable name s := by
  unfold traversable outgoing
  show ((g.require name >>= fun _ => pure ((g.replace f).edgesFrom name)) >>= _) = _
  cases g.require name with
  | error e => rfl
  | ok _ =>
    show Except.ok ((((g.replace f).edgesFrom name).filter (·.isOpen s)).map Edge.target) = .ok _
    rw [edgesFrom_replace, List.filter_map, List.map_map]
    have hopen : (fun e : Edge => (e.replace f).isOpen s) = (·.isOpen s) := funext fun e => by
      show (e.guard.map f).all _ = e.guard.all _
      cases e.guard with
      | none => rfl
      | some p => exact hf p s
    exact congrArg (fun p => Except.ok (((g.edgesFrom name).filter p).map Edge.target)) hopen

theorem next_replace : (g.replace f).next name s = g.next name s := by
  have hrequire : (g.replace f).require name = g.require name := rfl
  have hrouters : (g.replace f).routers = g.routers.map (·.replace f) := rfl
  unfold next
  rw [traversable_replace hf, hrequire, hrouters, Record.get?_map]
  cases g.require name with
  | error e => rfl
  | ok _ =>
    cases g.routers.get? name with
    | none => rfl
    | some r => exact congrArg Except.ok (r.route_replace hf s)

end Graph

theorem Policy.reason?_replace (hf : SameAnswers f) (p : Policy) (s : State) (node : String) :
    (p.replace f).reason? s node = p.reason? s node := by
  have hholds : (fun e : String × Condition => (e.2.replace f).holds s) = fun e => e.2.holds s :=
    funext fun e => hf e.2.predicate s
  have hfind : (p.replace f).conditions.find? (fun e => e.2.holds s) =
      (p.conditions.find? fun e => e.2.holds s).map fun e => (e.1, e.2.replace f) := by
    show (p.conditions.map _).find? _ = _
    rw [List.find?_map]
    exact congrArg (fun q => (p.conditions.find? q).map _) hholds
  unfold reason?
  rw [hfind, Option.map_map]
  rfl

end
end GatedFlow
