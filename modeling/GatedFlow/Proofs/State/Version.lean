import GatedFlow.State.Version

/-! # Versions that the strict migrator takes

The strict migrator takes a state if its version is not `Foreign`: a string other than the one wanted
(`Migrator.strict_takes_iff`). It leaves the version as it is, or puts the wanted one in the place of what is no string
(`Stamped`). -/

namespace GatedFlow

/-- A version is named, and it is a string other than the one wanted. -/
def Foreign (wanted : String) (version : Option Value) : Prop := ∃ found, version = some (.string found) ∧ found ≠ wanted

/-- A version is left as it is, or it was no string and becomes the one wanted. -/
def Stamped (wanted : String) (before after : Option Value) : Prop :=
  after = before ∨ (∀ found, before ≠ some (.string found)) ∧ after = some (.string wanted)

namespace Stamped

variable {wanted : String} {v₁ v₂ v₃ : Option Value}

theorem refl (v : Option Value) : Stamped wanted v v := .inl rfl

theorem trans (h : Stamped wanted v₁ v₂) (h' : Stamped wanted v₂ v₃) : Stamped wanted v₁ v₃ := by
  rcases h with rfl | ⟨hnone, rfl⟩
  · exact h'
  · rcases h' with rfl | ⟨hnot, -⟩
    · exact .inr ⟨hnone, rfl⟩
    · exact absurd rfl (hnot wanted)

/-- A string is not replaced. -/
theorem eq_of_string {found : String} (h : Stamped wanted (some (.string found)) v₂) : v₂ = some (.string found) := by
  rcases h with h | ⟨hnot, -⟩
  · exact h
  · exact absurd rfl (hnot found)

theorem not_foreign (h : Stamped wanted v₁ (some (.string wanted))) : ¬Foreign wanted v₁ := by
  rintro ⟨found, rfl, hne⟩
  cases h.eq_of_string
  exact hne rfl

end Stamped

namespace Migrator

variable {s s' : State} {wanted : String} {p : VersionProblem}

theorem strict_of_string {found : String} (h : s.get? versionField = some (.string found)) :
    strict.migrate s wanted = if found = wanted then .ok s else .error ⟨wanted, found⟩ := by
  rw [migrate, h]
  rfl

theorem strict_of_not_string (h : ∀ found, s.get? versionField ≠ some (.string found)) :
    strict.migrate s wanted = .ok (s.set versionField (.string wanted)) := by
  have hnone : (s.get? versionField).bind Value.asString? = none := by
    cases hget : s.get? versionField with
    | none => rfl
    | some v =>
      cases v with
      | string found => exact absurd hget (h found)
      | _ => rfl
  rw [migrate, hnone]

theorem strict_error_iff : strict.migrate s wanted = .error p ↔
    s.get? versionField = some (.string p.found) ∧ p.found ≠ wanted ∧ p.wanted = wanted := by
  by_cases h : ∃ found, s.get? versionField = some (.string found)
  · obtain ⟨found, hfound⟩ := h
    rw [strict_of_string hfound, hfound]
    constructor
    · intro hp
      split at hp
      · cases hp
      · rename_i hne
        cases hp
        exact ⟨rfl, hne, rfl⟩
    · rintro ⟨heq, hne, hwanted⟩
      cases heq
      rw [if_neg hne, ← hwanted]
  · rw [strict_of_not_string fun found hfound => h ⟨found, hfound⟩]
    exact ⟨fun hp => (by cases hp), fun hp => absurd ⟨_, hp.1⟩ h⟩

/-- A state that is taken keeps its version or is stamped with the one wanted, and nothing else of it changes. -/
theorem strict_ok_iff : strict.migrate s wanted = .ok s' ↔
    s.get? versionField = some (.string wanted) ∧ s' = s ∨
      (∀ found, s.get? versionField ≠ some (.string found)) ∧ s' = s.set versionField (.string wanted) := by
  by_cases h : ∃ found, s.get? versionField = some (.string found)
  · obtain ⟨found, hfound⟩ := h
    rw [strict_of_string hfound, hfound]
    constructor
    · intro hs
      split at hs
      · rename_i heq
        cases hs
        exact .inl ⟨by rw [heq], rfl⟩
      · cases hs
    · rintro (⟨heq, rfl⟩ | ⟨hnot, -⟩)
      · cases heq
        exact if_pos rfl
      · exact absurd rfl (hnot found)
  · have hnot : ∀ found, s.get? versionField ≠ some (.string found) := fun found hfound => h ⟨found, hfound⟩
    rw [strict_of_not_string hnot, Except.ok.injEq]
    exact ⟨fun hs => .inr ⟨hnot, hs.symm⟩, fun hs => hs.elim (fun hs => absurd hs.1 (hnot wanted)) fun hs => hs.2.symm⟩

theorem strict_takes_iff : (∃ s', strict.migrate s wanted = .ok s') ↔ ¬Foreign wanted (s.get? versionField) := by
  cases h : strict.migrate s wanted with
  | ok s' =>
    refine iff_of_true ⟨s', rfl⟩ ?_
    rintro ⟨found, hfound, hne⟩
    rw [strict_of_string hfound, if_neg hne] at h
    cases h
  | error p =>
    obtain ⟨hfound, hne, -⟩ := strict_error_iff.1 h
    exact iff_of_false (fun ⟨_, hs⟩ => by cases hs) fun hnot => hnot ⟨p.found, hfound, hne⟩

theorem strict_version (h : strict.migrate s wanted = .ok s') : s'.get? versionField = some (.string wanted) := by
  rcases strict_ok_iff.1 h with ⟨hversion, rfl⟩ | ⟨-, rfl⟩
  · exact hversion
  · rw [State.get?_set, if_pos rfl]

theorem strict_stamped (h : strict.migrate s wanted = .ok s') :
    Stamped wanted (s.get? versionField) (s'.get? versionField) := by
  rcases strict_ok_iff.1 h with ⟨-, rfl⟩ | ⟨hnot, rfl⟩
  · exact .refl _
  · exact .inr ⟨hnot, by rw [State.get?_set, if_pos rfl]⟩

/-- A state that was taken is taken again as it is. -/
theorem strict_again (h : strict.migrate s wanted = .ok s') : strict.migrate s' wanted = .ok s' := by
  rw [strict_of_string (strict_version h), if_pos rfl]

end Migrator

end GatedFlow
