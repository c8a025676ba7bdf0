import GatedFlow.Proofs.Graph.Built
import Mathlib.Data.List.Nodup

/-! # Strategies of a router

The three strategies read one list of rules. Where all matching rules decide, their targets come each once, in the order of
the first rule that leads there (`FirstOccurrences`); where the first rule decides, it is the first of these; and the rule of
highest priority is the first one that matches once the rules are sorted, which keeps the order of equal priorities
(`find?_mergeSort`). No two rules have one name, because a rule takes the place of the one with its name. -/

namespace GatedFlow

/-- A list holds the items of another one, each once, in the order in which they first occur there. -/
structure FirstOccurrences {α : Type} [BEq α] (items once : List α) : Prop where
  mem_iff : ∀ a, a ∈ once ↔ a ∈ items
  nodup : once.Nodup
  inOrder : once.Pairwise fun a b => items.idxOf a < items.idxOf b

namespace FirstOccurrences

variable {α : Type} [DecidableEq α] {items once : List α} {a : α}

theorem nil : FirstOccurrences ([] : List α) [] where
  mem_iff _ := .rfl
  nodup := .nil
  inOrder := .nil

theorem inOrder_append (h : FirstOccurrences items once) (more : List α) :
    once.Pairwise fun a b => (items ++ more).idxOf a < (items ++ more).idxOf b := by
  refine h.inOrder.imp_of_mem fun {a b} ha hb hlt => ?_
  rwa [List.idxOf_append_of_mem ((h.mem_iff a).1 ha), List.idxOf_append_of_mem ((h.mem_iff b).1 hb)]

theorem concat (h : FirstOccurrences items once) (a : α) :
    FirstOccurrences (items ++ [a]) (if a ∈ once then once else once ++ [a]) := by
  split_ifs with ha
  · have hitem : a ∈ items := (h.mem_iff a).1 ha
    exact ⟨fun b => by rw [h.mem_iff]; grind, h.nodup, h.inOrder_append [a]⟩
  · have hitem : a ∉ items := fun hmem => ha ((h.mem_iff a).2 hmem)
    refine ⟨fun b => by simp [h.mem_iff], List.nodup_append_comm.1 (List.nodup_cons.2 ⟨ha, h.nodup⟩), ?_⟩
    refine List.pairwise_append.2 ⟨h.inOrder_append [a], List.pairwise_singleton .., fun b hb c hc => ?_⟩
    rw [List.mem_singleton.1 hc]
    have hbefore : items.idxOf b < items.length := List.idxOf_lt_length_of_mem ((h.mem_iff b).1 hb)
    rw [List.idxOf_append_of_mem ((h.mem_iff b).1 hb), List.idxOf_append_of_notMem hitem]
    omega

end FirstOccurrences

/-- Whether a rule may stand before another when rules are sorted by descending priority. -/
def RouteRule.mayPrecede (a b : RouteRule) : Bool := decide (b.priority ≤ a.priority)

namespace Router

variable {r : Router} {rules : List RouteRule} {rule : RouteRule} {s : State} {seen items : List String}

/-! ### All matching rules, and the first of them -/

theorem firstOccurrences_targetsOnce (h : FirstOccurrences items seen) :
    FirstOccurrences (items ++ rules.map RouteRule.target) (targetsOnce rules seen) := by
  induction rules generalizing items seen with
  | nil => simpa [targetsOnce] using h
  | cons rule rules ih => simpa [targetsOnce] using ih (h.concat rule.target)

/-- Later rules add their targets behind those seen before. -/
theorem prefix_targetsOnce (rules : List RouteRule) (seen : List String) : seen <+: targetsOnce rules seen := by
  induction rules generalizing seen with
  | nil => exact List.prefix_refl seen
  | cons rule rules ih =>
    rw [targetsOnce]
    split_ifs
    · exact ih seen
    · exact (List.prefix_append seen _).trans (ih _)

theorem take_targetsOnce : (targetsOnce rules []).take 1 = (rules.head?.map RouteRule.target).toList := by
  cases rules with
  | nil => rfl
  | cons rule rules =>
    obtain ⟨more, hmore⟩ := prefix_targetsOnce rules [rule.target]
    simp [targetsOnce, ← hmore]

/-! ### The rule of highest priority -/

/-- A rule found before is kept unless one of strictly higher priority follows. -/
theorem best_some (held : RouteRule) : best (some held) rules =
    match best none rules with
    | none => some held
    | some b => if held.priority < b.priority then some b else some held := by
  induction rules generalizing held with
  | nil => rfl
  | cons rule rules ih =>
    simp only [best, Option.all_some, Option.all_none, if_true, decide_eq_true_eq]
    by_cases hrule : held.priority < rule.priority
    · rw [if_pos hrule, ih rule]
      cases best none rules with
      | none => exact (if_pos hrule).symm
      | some b => grind
    · rw [if_neg hrule, ih held, ih rule]
      cases best none rules with
      | none => exact (if_neg hrule).symm
      | some b => grind

theorem mayPrecede_trans (a b c : RouteRule) (hab : a.mayPrecede b = true) (hbc : b.mayPrecede c = true) :
    a.mayPrecede c = true := by
  simp only [RouteRule.mayPrecede, decide_eq_true_eq] at *
  omega

theorem mayPrecede_total (a b : RouteRule) : (a.mayPrecede b || b.mayPrecede a) = true := by
  simp only [RouteRule.mayPrecede, Bool.or_eq_true, decide_eq_true_eq]
  omega

/-- Of the rules with a property, the first one after sorting by descending priority is the one of highest priority. -/
theorem find?_mergeSort (p : RouteRule → Bool) (rules : List RouteRule) :
    (rules.mergeSort RouteRule.mayPrecede).find? p = best none (rules.filter p) := by
  induction rules with
  | nil => rw [List.mergeSort_nil]; rfl
  | cons rule rules ih =>
    -- The first rule comes behind those of strictly higher priority and before all others.
    obtain ⟨front, back, hsorted, hrest, hfront⟩ :=
      List.mergeSort_cons mayPrecede_trans mayPrecede_total rule rules
    have hpairwise := List.pairwise_mergeSort mayPrecede_trans mayPrecede_total (rule :: rules)
    rw [hsorted] at hpairwise ⊢
    rw [hrest, List.find?_append] at ih
    rw [List.find?_append, List.find?_cons]
    cases hp : p rule with
    | false => rw [List.filter_cons_of_neg (by simp [hp]), ← ih]
    | true =>
      rw [List.filter_cons_of_pos hp, best, Option.all_none, if_pos rfl, best_some, ← ih]
      cases hfound : front.find? p with
      | some b =>
        have hlt : rule.priority < b.priority := by
          simpa [RouteRule.mayPrecede] using hfront b (List.mem_of_find?_eq_some hfound)
        simp [hlt]
      | none =>
        cases hbehind : back.find? p with
        | none => rfl
        | some b =>
          have hle : rule.mayPrecede b = true :=
            (List.pairwise_cons.1 (List.pairwise_append.1 hpairwise).2.1).1 b (List.mem_of_find?_eq_some hbehind)
          have hnot : ¬rule.priority < b.priority := by simpa [RouteRule.mayPrecede] using hle
          simp [hnot]

/-! ### The rules and their names -/

theorem placeRule_eq : placeRule rule rules =
    if rule.name ∈ rules.map RouteRule.name then rules.set ((rules.map RouteRule.name).idxOf rule.name) rule
    else rules ++ [rule] := by
  induction rules with
  | nil => rfl
  | cons first rules ih =>
    rw [placeRule, ih, List.map_cons, List.idxOf_cons]
    by_cases h : first.name = rule.name
    · simp [h]
    · simp only [h, if_false, List.mem_cons, Ne.symm h, false_or, beq_eq_false_iff_ne.2 h, cond_false, List.set_cons_succ,
        List.cons_append]
      split_ifs <;> rfl

theorem names_placeRule : (placeRule rule rules).map RouteRule.name =
    if rule.name ∈ rules.map RouteRule.name then rules.map RouteRule.name
    else rules.map RouteRule.name ++ [rule.name] := by
  rw [placeRule_eq]
  split_ifs with h
  · have hplace := List.idxOf_lt_length_of_mem h
    have hself := List.set_getElem_self hplace
    rw [List.getElem_idxOf hplace] at hself
    rw [List.map_set, hself]
  · rw [List.map_append, List.map_singleton]

/-- No two rules have one name. -/
def DistinctNames (r : Router) : Prop := (r.rules.map RouteRule.name).Nodup

theorem distinctNames_empty (name : String) (strategy : RoutingStrategy) (default : Option String) :
    (empty name strategy default).DistinctNames :=
  List.nodup_nil

theorem DistinctNames.apply (h : r.DistinctNames) (step : RouterStep) : (r.apply step).DistinctNames := by
  cases step with
  | addRule rule =>
    show ((placeRule rule r.rules).map RouteRule.name).Nodup
    rw [names_placeRule]
    split_ifs with hmem
    · exact h
    · exact List.nodup_append_comm.1 (List.nodup_cons.2 ⟨hmem, h⟩)
  | removeRule name => exact h.sublist (List.eraseP_sublist.map _)
  | setDefault target => exact h

theorem DistinctNames.after (h : r.DistinctNames) (steps : List RouterStep) : (r.after steps).DistinctNames := by
  induction steps generalizing r with
  | nil => exact h
  | cons step steps ih => exact ih (h.apply step)

/-- A rule that is added takes the place of the one with its name, and comes last if there is none. -/
structure Replaces (r : Router) (rule : RouteRule) : Prop where
  inPlace : ∀ i earlier, r.rules[i]? = some earlier → earlier.name = rule.name →
    (r.addRule rule).rules = r.rules.set i rule
  atTheEnd : (∀ earlier ∈ r.rules, earlier.name ≠ rule.name) → (r.addRule rule).rules = r.rules ++ [rule]

theorem DistinctNames.replaces (h : r.DistinctNames) (rule : RouteRule) : r.Replaces rule where
  inPlace := by
    intro i earlier hi hname
    have hat : (r.rules.map RouteRule.name)[i]? = some rule.name := by simp [hi, hname]
    obtain ⟨hlt, hat⟩ := List.getElem?_eq_some_iff.1 hat
    have hidx : (r.rules.map RouteRule.name).idxOf rule.name = i := by
      rw [← hat]
      exact h.idxOf_getElem i hlt
    have hmem : rule.name ∈ r.rules.map RouteRule.name := hat ▸ List.getElem_mem hlt
    rw [addRule, placeRule_eq, if_pos hmem, hidx]
  atTheEnd := by
    intro hnew
    rw [addRule, placeRule_eq, if_neg]
    simpa using hnew

/-! ### The three strategies -/

/-- The router with another strategy. -/
def withStrategy (r : Router) (strategy : RoutingStrategy) : Router := { r with strategy := strategy }

/-- The router with its rules sorted by descending priority, those of equal priority in the order they had. -/
def ranked (r : Router) : Router := { r with rules := r.rules.mergeSort RouteRule.mayPrecede }

/-- The targets of the rules that match, in the order of the rules. -/
def matching (r : Router) (s : State) : List String := (r.rules.filter (·.holds s)).map RouteRule.target

/-- How the decisions of the three strategies on the same rules in a state belong together. -/
structure Agreement (r : Router) (s : State) : Prop where
  all : r.matching s ≠ [] → FirstOccurrences (r.matching s) ((r.withStrategy .allMatch).route s)
  first : (r.withStrategy .firstMatch).route s = ((r.withStrategy .allMatch).route s).take 1
  priority : (r.withStrategy .priority).route s = (r.ranked.withStrategy .firstMatch).route s
  fallback : r.matching s = [] → ∀ strategy, (r.withStrategy strategy).route s = r.default.toList
  targets : ∀ strategy, ∀ target ∈ (r.withStrategy strategy).route s, target ∈ r.targets

theorem decision_all (r : Router) (s : State) :
    FirstOccurrences (r.matching s) ((r.withStrategy .allMatch).decision s) :=
  firstOccurrences_targetsOnce .nil

theorem decision_first (r : Router) (s : State) :
    (r.withStrategy .firstMatch).decision s = ((r.withStrategy .allMatch).decision s).take 1 := by
  show ((r.rules.find? (·.holds s)).map RouteRule.target).toList = (targetsOnce (r.rules.filter (·.holds s)) []).take 1
  rw [take_targetsOnce, List.head?_filter]

theorem decision_priority (r : Router) (s : State) :
    (r.withStrategy .priority).decision s = (r.ranked.withStrategy .firstMatch).decision s := by
  show ((best none (r.rules.filter (·.holds s))).map RouteRule.target).toList =
    (((r.rules.mergeSort RouteRule.mayPrecede).find? (·.holds s)).map RouteRule.target).toList
  rw [find?_mergeSort]

theorem decision_of_unmatched (h : r.matching s = []) (strategy : RoutingStrategy) :
    (r.withStrategy strategy).decision s = [] := by
  have hall : (r.withStrategy .allMatch).decision s = [] :=
    List.eq_nil_iff_forall_not_mem.2 fun target htarget => by
      rw [(decision_all r s).mem_iff, h] at htarget
      cases htarget
  cases strategy with
  | allMatch => exact hall
  | firstMatch => rw [decision_first, hall, List.take_nil]
  | priority =>
    show ((best none (r.rules.filter (·.holds s))).map RouteRule.target).toList = []
    rw [List.map_eq_nil_iff.1 h]
    rfl

theorem route_of_decision (h : r.decision s ≠ []) : r.route s = r.decision s := by
  simp [route, h]

theorem route_of_undecided (h : r.decision s = []) : r.route s = r.default.toList := by
  simp [route, h]

theorem agreement (r : Router) (s : State) : r.Agreement s where
  all := by
    intro hmatching
    have hdecision : (r.withStrategy .allMatch).decision s ≠ [] := fun hnil => by
      obtain ⟨target, htarget⟩ := List.exists_mem_of_ne_nil _ hmatching
      rw [← (decision_all r s).mem_iff, hnil] at htarget
      cases htarget
    rw [route_of_decision hdecision]
    exact decision_all r s
  first := by
    by_cases hall : (r.withStrategy .allMatch).decision s = []
    · rw [route_of_undecided hall, route_of_undecided (by rw [decision_first, hall, List.take_nil])]
      show r.default.toList = r.default.toList.take 1
      cases r.default <;> rfl
    · rw [route_of_decision hall, route_of_decision (by simp [decision_first, hall]), decision_first]
  priority := by
    simp only [route, decision_priority]
    rfl
  fallback hmatching strategy := route_of_undecided (decision_of_unmatched hmatching strategy)
  targets strategy _ htarget := mem_targets_of_mem_route (r := r.withStrategy strategy) htarget

/-- The strategies agree in every state about a router that steps have led to, its rules have names of their own, and a
rule that is added once more keeps the place of its name. -/
theorem strategies_agree (name : String) (strategy : RoutingStrategy) (default : Option String) (steps : List RouterStep) :
    (∀ s, ((empty name strategy default).after steps).Agreement s) ∧
      ((empty name strategy default).after steps).DistinctNames ∧
      ∀ rule, ((empty name strategy default).after steps).Replaces rule := by
  have hnames : ((empty name strategy default).after steps).DistinctNames :=
    (distinctNames_empty name strategy default).after steps
  exact ⟨agreement _, hnames, hnames.replaces⟩

end Router
end GatedFlow
