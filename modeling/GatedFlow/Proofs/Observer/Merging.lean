import GatedFlow.Approval.Desk
import GatedFlow.Proofs.Observer.Shared

/-! # Merging registries

A registry that absorbs another keeps its observers and appends those of the other that it lacks, each once and in their
order (`Registry.absorb_eq`). A policy takes its observers along when it turns to another registry, and nothing else takes
an observer away from a registry. So whoever stood on a registry of the policy stands on the present one, whatever
registries the policy has had in between (`registries_merged`). -/

namespace GatedFlow

namespace Registry

variable {r other : Registry}

theorem absorb_eq : r.absorb other = r ++ (other.filter (· ∉ r)).eraseDups := by
  unfold absorb
  induction other generalizing r with
  | nil => exact (List.append_nil r).symm
  | cons new other ih =>
    rw [List.foldl_cons, ih]
    by_cases hnew : new ∈ r
    · have hknown : r.registerNew new = r := if_pos hnew
      rw [hknown, List.filter_cons_of_neg (by simpa using hnew)]
    · -- the observer is appended, and from then on it is one of those that are known
      have hadded : r.registerNew new = r ++ [new] := if_neg hnew
      have hrest : other.filter (· ∉ r ++ [new]) = (other.filter (· ∉ r)).filter fun o => !o == new := by
        rw [List.filter_filter]
        refine List.filter_congr fun o _ => ?_
        by_cases ho : o = new <;> simp [ho]
      rw [hadded, List.filter_cons_of_pos (by simpa using hnew), List.eraseDups_cons, hrest, List.append_assoc,
        List.singleton_append]

end Registry

section sharedRegistries

variable {registries : List Registry} {registry other c : Nat}

theorem length_sharedRegistries : (sharedRegistries registries registry other).length = registries.length := by
  unfold sharedRegistries
  split
  · rfl
  · exact List.length_set

theorem registryAt_sharedRegistries_of_ne (hc : c ≠ registry) :
    registryAt (sharedRegistries registries registry other) c = registryAt registries c := by
  unfold sharedRegistries
  split
  · rfl
  · rw [registryAt, List.getElem?_set_ne hc.symm, registryAt]

theorem registryAt_sharedRegistries_other :
    registryAt (sharedRegistries registries registry other) other = registryAt registries other := by
  by_cases h : other = registry
  · rw [sharedRegistries, if_pos h]
  · exact registryAt_sharedRegistries_of_ne h

/-- A registry that has the observers of another already gains nothing from it. -/
theorem sharedRegistries_of_subset (h : ∀ o ∈ registryAt registries other, o ∈ registryAt registries registry) :
    sharedRegistries registries registry other = registries := by
  unfold sharedRegistries
  split
  · rfl
  · rw [Registry.absorb_of_subset h]
    refine List.ext_getElem? fun i => ?_
    by_cases hi : registry = i
    · subst i
      by_cases hlisted : registry < registries.length
      · rw [List.getElem?_set_self hlisted, registryAt, List.getElem?_eq_getElem hlisted, Option.getD_some]
      · rw [List.set_eq_of_length_le (Nat.le_of_not_lt hlisted)]
    · exact List.getElem?_set_ne hi

theorem sharedRegistries_again (hlisted : registry < registries.length) :
    sharedRegistries (sharedRegistries registries registry other) registry other =
      sharedRegistries registries registry other := by
  refine sharedRegistries_of_subset fun o ho => ?_
  rw [registryAt_sharedRegistries_other] at ho
  exact (mem_sharedRegistries hlisted o).2 (List.mem_append_right _ ho)

end sharedRegistries

/-! ## The registries of a policy -/

/-- What happens to registries: an observer is added to one, one absorbs another, or the policy turns to one. -/
inductive RegistryStep where
  | register (registry : Nat) (o : Observer)
  | absorb (registry other : Nat)
  | share (registry : Nat)
  deriving DecidableEq

namespace Desk

/-- The observers of the registry to which the policy reports. -/
def present (d : Desk) : Registry := registryAt d.registries d.policy.registry

def registryStep (d : Desk) : RegistryStep → Desk
  | .register registry o => { d with registries := d.registries.modify registry (·.register o) }
  | .absorb registry other => { d with registries := sharedRegistries d.registries registry other }
  | .share registry => d.shareObservers registry

def registrySteps (d : Desk) (steps : List RegistryStep) : Desk := steps.foldl registryStep d

variable (d : Desk)

theorem shareObservers_registries (registry : Nat) :
    (d.shareObservers registry).registries = sharedRegistries d.registries registry d.policy.registry := by
  unfold shareObservers sharedRegistries
  split <;> rfl

theorem shareObservers_policy_registry (registry : Nat) : (d.shareObservers registry).policy.registry = registry := by
  unfold shareObservers
  split
  · assumption
  · rfl

theorem length_registryStep (step : RegistryStep) : (d.registryStep step).registries.length = d.registries.length := by
  cases step with
  | register registry o => exact List.length_modify _ _ _
  | absorb registry other => exact length_sharedRegistries
  | share registry =>
    show (d.shareObservers registry).registries.length = d.registries.length
    rw [shareObservers_registries, length_sharedRegistries]

variable {d} {o : Observer}

/-- No step takes an observer from the registry to which the policy reports, be it the same after the step or another. -/
theorem mem_present_registryStep {step : RegistryStep}
    (hlisted : ∀ registry, step = .share registry → registry < d.registries.length) (ho : o ∈ d.present) :
    o ∈ (d.registryStep step).present := by
  cases step with
  | register registry new =>
    show o ∈ ((d.registries.modify registry (·.register new))[d.policy.registry]?).getD []
    have hheld : o ∈ (d.registries[d.policy.registry]?).getD [] := ho
    rw [List.getElem?_modify]
    cases hr : d.registries[d.policy.registry]? with
    | none => simp [hr] at hheld
    | some r =>
      rw [hr, Option.getD_some] at hheld
      by_cases heq : registry = d.policy.registry
      · simpa [heq, Registry.register] using .inl hheld
      · simpa [heq] using hheld
  | absorb registry other =>
    show o ∈ registryAt (sharedRegistries d.registries registry other) d.policy.registry
    by_cases heq : d.policy.registry = registry
    · by_cases hr : registry < d.registries.length
      · rw [heq]
        exact (mem_sharedRegistries hr o).2 (List.mem_append_left _ (heq ▸ ho))
      · -- there is nobody behind a number that is not in use
        have hnobody : d.present = [] := by
          rw [present, heq, registryAt, List.getElem?_eq_none (Nat.le_of_not_lt hr), Option.getD_none]
        simp [hnobody] at ho
    · rw [registryAt_sharedRegistries_of_ne heq]
      exact ho
  | share registry =>
    show o ∈ registryAt (d.shareObservers registry).registries (d.shareObservers registry).policy.registry
    rw [shareObservers_registries, shareObservers_policy_registry, mem_sharedRegistries (hlisted registry rfl)]
    exact List.mem_append_right _ ho

theorem mem_present_registrySteps {steps : List RegistryStep}
    (hlisted : ∀ registry, .share registry ∈ steps → registry < d.registries.length) (ho : o ∈ d.present) :
    o ∈ (d.registrySteps steps).present := by
  induction steps generalizing d with
  | nil => exact ho
  | cons step steps ih =>
    have hnext : o ∈ (d.registryStep step).present :=
      mem_present_registryStep (fun registry h => hlisted registry (h ▸ List.mem_cons_self)) ho
    refine ih (fun registry h => ?_) hnext
    rw [length_registryStep]
    exact hlisted registry (List.mem_cons_of_mem _ h)

theorem length_registrySteps (steps : List RegistryStep) :
    (d.registrySteps steps).registries.length = d.registries.length := by
  induction steps generalizing d with
  | nil => rfl
  | cons step steps ih => exact (ih (d := d.registryStep step)).trans (d.length_registryStep step)

end Desk

/-- A registry that absorbs another has its own observers and then those of the other that it did not have, in their order
and each once. The other registry and all the rest are as before. Nobody stands on it twice who did not do so before, and
absorbing the other again or one with its own observers is no change. Whatever else is done with the registries, everyone
who was on the policy's registry at some time, and so when the policy left it, is on the registry that it has later. -/
theorem registries_merged :
    (∀ (registries : List Registry) (a b : Nat), a < registries.length →
      registryAt (sharedRegistries registries a b) a =
        registryAt registries a ++ ((registryAt registries b).filter (· ∉ registryAt registries a)).eraseDups ∧
      registryAt (sharedRegistries registries a b) b = registryAt registries b ∧
      (∀ c, c ≠ a → registryAt (sharedRegistries registries a b) c = registryAt registries c) ∧
      ((registryAt registries a).Nodup → (registryAt (sharedRegistries registries a b) a).Nodup) ∧
      sharedRegistries (sharedRegistries registries a b) a b = sharedRegistries registries a b ∧
      ∀ c, registryAt registries c = registryAt registries a → sharedRegistries registries a c = registries) ∧
    ∀ (d : Desk) (earlier later : List RegistryStep),
      (∀ registry, .share registry ∈ earlier ++ later → registry < d.registries.length) →
      ∀ o ∈ (d.registrySteps earlier).present, o ∈ (d.registrySteps (earlier ++ later)).present := by
  constructor
  · intro registries a b ha
    refine ⟨?_, registryAt_sharedRegistries_other, fun c hc => registryAt_sharedRegistries_of_ne hc,
      nodup_sharedRegistries ha, sharedRegistries_again ha, fun c hc => ?_⟩
    · rw [registryAt_sharedRegistries_self ha, Registry.absorb_eq]
    · exact sharedRegistries_of_subset fun o ho => hc ▸ ho
  · intro d earlier later hlisted o ho
    have hsteps : d.registrySteps (earlier ++ later) = (d.registrySteps earlier).registrySteps later := List.foldl_append
    rw [hsteps]
    refine Desk.mem_present_registrySteps (fun registry h => ?_) ho
    rw [Desk.length_registrySteps]
    exact hlisted registry (List.mem_append_right _ h)

/-- Three registries and two observers, one of whom is on two of them and twice on the second. The policy reports to the
first. -/
def threeRegistries : Desk :=
  let first : Observer := ⟨"first", .recorder⟩
  let second : Observer := ⟨"second", .recorder⟩
  ⟨.lenient none 0, [], [[first], [second, first, second], []], 0, []⟩

theorem registries_merged_threeRegistries :
    registryAt (sharedRegistries threeRegistries.registries 0 1) 0 = [⟨"first", .recorder⟩, ⟨"second", .recorder⟩] ∧
    (registryAt (sharedRegistries threeRegistries.registries 0 1) 0).Nodup ∧
    (⟨"second", .recorder⟩ : Observer) ∈ (threeRegistries.registrySteps [.share 1, .share 2]).present :=
  have hmerged := registries_merged.1 threeRegistries.registries 0 1 (by decide)
  ⟨hmerged.1.trans (by decide), hmerged.2.2.2.1 (by decide),
    registries_merged.2 threeRegistries [.share 1] [.share 2] (by simp [threeRegistries]) _ (by decide)⟩

end GatedFlow
