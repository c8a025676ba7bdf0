import GatedFlow.Proofs.Approval.Business
import GatedFlow.Proofs.Observer.View

/-! # What the observers of a shared registry record

A registry that absorbs another holds the observers of both, each once (`mem_absorb`, `nodup_absorb`). An observer that a
registry holds once records of each event what it would record on its own, whatever the others do (`received_of_mem`). -/

namespace GatedFlow

/-- An observer that records whatever it is told and never panics. -/
def Observer.Steady (o : Observer) : Prop := ∀ e, o.receive e = some [⟨o.name, e⟩]

theorem Observer.Steady.recorded {o : Observer} (h : o.Steady) (events : List Event) :
    (events.flatMap fun e => (o.receive e).getD []).map Delivery.event = events := by
  have hone : (fun e => (o.receive e).getD []) = fun e => [(⟨o.name, e⟩ : Delivery)] := funext fun e => by
    rw [h e]
    rfl
  rw [hone, ← List.map_eq_flatMap, List.map_map]
  exact List.map_id events

namespace Registry

variable {r other : Registry} {o : Observer}

theorem mem_registerNew (new : Observer) : o ∈ r.registerNew new ↔ o ∈ r ∨ o = new := by
  unfold registerNew
  split
  · rename_i h
    exact ⟨.inl, fun ho => ho.elim id fun heq => heq ▸ h⟩
  · rw [List.mem_append, List.mem_singleton]

theorem nodup_registerNew (h : r.Nodup) (new : Observer) : (r.registerNew new).Nodup := by
  unfold registerNew
  split
  · exact h
  · rename_i hnew
    exact List.nodup_append.2 ⟨h, List.pairwise_singleton _ new, fun a ha b hb heq =>
      hnew (List.mem_singleton.1 hb ▸ heq ▸ ha)⟩

theorem mem_absorb : o ∈ r.absorb other ↔ o ∈ r ∨ o ∈ other := by
  unfold absorb
  induction other generalizing r with
  | nil => simp
  | cons new other ih => rw [List.foldl_cons, ih, mem_registerNew, List.mem_cons, or_assoc]

theorem nodup_absorb (h : r.Nodup) (other : Registry) : (r.absorb other).Nodup := by
  unfold absorb
  induction other generalizing r with
  | nil => exact h
  | cons new other ih => exact ih (nodup_registerNew h new)

/-- Whoever is registered already is not registered again. -/
theorem absorb_of_subset (h : ∀ o ∈ other, o ∈ r) : r.absorb other = r := by
  unfold absorb
  induction other with
  | nil => rfl
  | cons new other ih =>
    obtain ⟨hnew, hrest⟩ := List.forall_mem_cons.1 h
    have hknown : r.registerNew new = r := if_pos hnew
    rw [List.foldl_cons, hknown, ih hrest]

/-- An observer that is known by its name and held once records an event as it would on its own. -/
theorem received_of_mem (hnodup : r.Nodup) (ho : o ∈ r) (hname : ∀ o' ∈ r, o'.name = o.name → o' = o) (e : Event) :
    (r.deliver e).filter (·.observer = o.name) = (o.receive e).getD [] := by
  -- the name picks out the records of this observer, and it stands in the registry once
  have hothers : ∀ l : Registry, (∀ o' ∈ l, o'.name ≠ o.name) → (l.deliver e).filter (·.observer = o.name) = [] := by
    intro l hl
    rw [List.filter_eq_nil_iff]
    intro x hx
    obtain ⟨o', ho', hx⟩ := List.mem_flatMap.1 hx
    rw [Observer.eq_of_receive hx]
    simp [hl o' ho']
  have hself : ((o.receive e).getD []).filter (·.observer = o.name) = (o.receive e).getD [] :=
    List.filter_eq_self.2 fun x hx => by simp [Observer.eq_of_receive hx]
  obtain ⟨before, after, rfl⟩ := List.append_of_mem ho
  have hcut := List.nodup_append.1 hnodup
  have hbefore : ∀ o' ∈ before, o'.name ≠ o.name := fun o' ho' heq =>
    hcut.2.2 o' ho' o List.mem_cons_self (hname o' (List.mem_append_left _ ho') heq)
  have hafter : ∀ o' ∈ after, o'.name ≠ o.name := fun o' ho' heq =>
    (List.nodup_cons.1 hcut.2.1).1 (hname o' (List.mem_append_right _ (List.mem_cons_of_mem _ ho')) heq ▸ ho')
  have hdeliver : deliver (before ++ o :: after) e = deliver before e ++ ((o.receive e).getD [] ++ deliver after e) := by
    unfold deliver
    rw [List.flatMap_append, List.flatMap_cons]
  rw [hdeliver, List.filter_append, List.filter_append, hothers before hbefore, hothers after hafter, hself,
    List.nil_append, List.append_nil]

end Registry

/-- The registries after one of them has taken over the observers of another. Taking over its own is no change. -/
def sharedRegistries (registries : List Registry) (registry other : Nat) : List Registry :=
  if other = registry then registries
  else registries.set registry ((registryAt registries registry).absorb (registryAt registries other))

section sharedRegistries

variable {registries : List Registry} {registry other : Nat} (hlisted : registry < registries.length)

include hlisted

theorem registryAt_sharedRegistries_self : registryAt (sharedRegistries registries registry other) registry =
    (registryAt registries registry).absorb (registryAt registries other) := by
  unfold sharedRegistries
  split
  · subst other
    exact (Registry.absorb_of_subset fun _ ho => ho).symm
  · rw [registryAt, List.getElem?_set_self hlisted, Option.getD_some]

/-- The shared registry has the observers of both. -/
theorem mem_sharedRegistries (o : Observer) : o ∈ registryAt (sharedRegistries registries registry other) registry ↔
    o ∈ registryAt registries registry ++ registryAt registries other := by
  rw [registryAt_sharedRegistries_self hlisted, Registry.mem_absorb, List.mem_append]

/-- The shared registry has its observers once. -/
theorem nodup_sharedRegistries (h : (registryAt registries registry).Nodup) :
    (registryAt (sharedRegistries registries registry other) registry).Nodup := by
  rw [registryAt_sharedRegistries_self hlisted]
  exact Registry.nodup_absorb h _

end sharedRegistries

/-- What an observer of a registry records of notices that are all to that registry. -/
theorem received_of_recorded {registries : List Registry} {registry : Nat} {notices : List Notice} {o : Observer}
    (hall : ∀ n ∈ notices, n.registry = registry) (hnodup : (registryAt registries registry).Nodup)
    (ho : o ∈ registryAt registries registry)
    (hname : ∀ o' ∈ registryAt registries registry, o'.name = o.name → o' = o) :
    (recorded registries notices).filter (·.observer = o.name) =
      (notices.map Notice.event).flatMap fun e => (o.receive e).getD [] := by
  induction notices with
  | nil => rfl
  | cons n notices ih =>
    obtain ⟨hn, hall⟩ := List.forall_mem_cons.1 hall
    unfold recorded at ih ⊢
    rw [List.flatMap_cons, List.filter_append, ih hall, hn, Registry.received_of_mem hnodup ho hname, List.map_cons,
      List.flatMap_cons]

end GatedFlow
