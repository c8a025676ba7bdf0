import GatedFlow.Edits.Operation

/-! # What a schema accepts

A schema accepts a state if it lets each of its fields hold its value (`Schema.accepts_iff`). Whoever asks the schema
before a write goes from an accepted state to an accepted one: an assignment asks about the value, an append about the
field only, and that is enough because what it leaves in the field is an array. -/

namespace GatedFlow

namespace Schema

variable {schema : Schema} {st : State} {field : String} {value : Value}

def Accepts (schema : Schema) (st : State) : Prop := schema.validate st = .ok ()

theorem checkAll_eq_ok_iff {entries : List (String × Value)} :
    schema.checkAll entries = .ok () ↔ ∀ e ∈ entries, schema.checkAssign e.1 e.2 = .ok () := by
  induction entries with
  | nil => simp [checkAll]
  | cons e entries ih =>
    rw [List.forall_mem_cons, ← ih, checkAll, bind_eq_ok_iff]
    exact ⟨fun ⟨_, h, h'⟩ => ⟨h, h'⟩, fun ⟨h, h'⟩ => ⟨(), h, h'⟩⟩

theorem accepts_iff : schema.Accepts st ↔
    ∀ field value, st.get? field = some value → schema.checkAssign field value = .ok () := by
  unfold Accepts validate
  rw [checkAll_eq_ok_iff, Prod.forall]
  exact forall₂_congr fun field value => imp_congr_left st.fields.sorted.findEntry_eq_some_iff.symm

theorem Accepts.set (h : schema.Accepts st) (hvalue : schema.checkAssign field value = .ok ()) :
    schema.Accepts (st.set field value) := by
  rw [accepts_iff] at h ⊢
  intro name found hfound
  rw [State.get?_set] at hfound
  split at hfound
  · rename_i heq
    rw [← heq, ← Option.some.inj hfound]
    exact hvalue
  · exact h name found hfound

theorem Accepts.remove (h : schema.Accepts st) (field : String) : schema.Accepts (st.remove field) := by
  rw [accepts_iff] at h ⊢
  intro name found hfound
  rw [State.get?_remove] at hfound
  split at hfound
  · cases hfound
  · exact h name found hfound

/-- A field that can be appended to can hold any array. -/
theorem checkAssign_array (h : schema.checkAppend field = .ok ()) (items : List Value) :
    schema.checkAssign field (.array items) = .ok () := by
  unfold checkAppend at h
  unfold checkAssign
  split at h
  · rename_i hkind
    rw [hkind]
    rfl
  · rename_i hkind
    rw [hkind]
    rfl
  · cases h
  · rename_i hkind
    rw [hkind]
    exact h

theorem of_allows {check : Schema → Except SchemaProblem Unit} {u : Unit} (h : allows (some schema) check = .ok u) :
    check schema = .ok () := by
  change (check schema).mapError StoreError.schema = .ok u at h
  cases hcheck : check schema with
  | ok _ => rfl
  | error p => rw [hcheck] at h; cases h

theorem accepts_of_applyUpdate {r : State × Change} (h : Operation.applyUpdate (some schema) field value st = .ok r)
    (hst : schema.Accepts st) : schema.Accepts r.1 := by
  obtain ⟨_, hallowed, h⟩ := bind_eq_ok_iff.1 h
  cases h
  exact hst.set (of_allows hallowed)

theorem accepts_of_apply {thread : String} {op : Operation} {r : State × Change}
    (h : op.apply (some schema) thread st = .ok r) (hst : schema.Accepts st) : schema.Accepts r.1 := by
  cases op with
  | update field value => exact accepts_of_applyUpdate h hst
  | delete field =>
    obtain ⟨-, -, h⟩ := bind_eq_ok_iff.1 h
    split at h
    · cases h
      exact hst.remove field
    · cases h
  | append field value =>
    obtain ⟨_, hallowed, h⟩ := bind_eq_ok_iff.1 h
    have harray := checkAssign_array (of_allows hallowed)
    split at h
    · cases h
      exact hst.set (harray _)
    · cases h
    · cases h
      exact hst.set (harray _)

theorem accepts_of_applyAll {thread : String} {ops : List Operation} {r : State × List Change}
    (h : Operation.applyAll (some schema) thread ops st = .ok r) (hst : schema.Accepts st) : schema.Accepts r.1 := by
  induction ops generalizing st r with
  | nil => cases h; exact hst
  | cons op ops ih =>
    obtain ⟨⟨st₁, change⟩, hop, h⟩ := bind_eq_ok_iff.1 h
    obtain ⟨⟨st₂, rest⟩, hops, h⟩ := bind_eq_ok_iff.1 h
    cases h
    have hst₂ := ih hops (accepts_of_apply hop hst)
    exact hst₂

end Schema
end GatedFlow
