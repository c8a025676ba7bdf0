import GatedFlow.Edits.Operation

/-! # What operations do to a state

Said apart from how operations are carried out: what an operation leaves of a state (`Operation.onto`), what is recorded of
it (`Operation.noted`) and why it is refused (`Operation.check`). Operations one after the other are each checked, recorded
and taken into effect in the state that the ones before have left. Carrying them out comes to the same (`applyAll_eq`). -/

namespace GatedFlow

/-- The items of the array in a field; a field that is missing has none. -/
def State.itemsIn (s : State) (field : String) : List Value :=
  match s.get? field with
  | some (.array items) => items
  | _ => []

namespace Operation

/-- What an operation leaves of a state: its field is set, goes, or holds an array with one item more at the end. -/
def onto (s : State) : Operation → State
  | update field value => s.set field value
  | delete field => s.remove field
  | append field value => s.set field (.array (s.itemsIn field ++ [value]))

/-- The change that is recorded of an operation on a state, with what the field holds before. -/
def noted (s : State) : Operation → Change
  | update field value => ⟨.update, field, value, s.get? field⟩
  | delete field => ⟨.delete, field, .null, s.get? field⟩
  | append field value => ⟨.append, field, value, s.get? field⟩

/-- Why an operation is refused in a state: the schema is against it, there is no field to be deleted, or the field to be
appended to holds something else than an array. -/
def check (schema? : Option Schema) (thread : String) (s : State) : Operation → Except StoreError Unit
  | update field value => Schema.allows schema? (·.checkAssign field value)
  | delete field => do
    Schema.allows schema? (·.checkDelete field)
    if s.contains field then return () else throw (.noField thread field)
  | append field _ => do
    Schema.allows schema? (·.checkAppend field)
    match s.get? field with
    | none | some (.array _) => return ()
    | some other => throw (.notASequence field other.kindName)

/-- The changes that are recorded of operations one after the other. -/
def notedAll : List Operation → State → List Change
  | [], _ => []
  | op :: rest, s => op.noted s :: notedAll rest (op.onto s)

/-- Why operations one after the other are refused: the first that is refused settles the whole. -/
def checkAll (schema? : Option Schema) (thread : String) : List Operation → State → Except StoreError Unit
  | [], _ => .ok ()
  | op :: rest, s => do
    op.check schema? thread s
    checkAll schema? thread rest (op.onto s)

variable {schema? : Option Schema} {thread : String}

theorem apply_eq (op : Operation) (s : State) :
    op.apply schema? thread s = (op.check schema? thread s).map fun _ => (op.onto s, op.noted s) := by
  cases op with
  | update field value =>
    simp only [apply, applyUpdate, check]
    cases Schema.allows schema? (·.checkAssign field value) <;> rfl
  | delete field =>
    have hcontains : s.contains field = (s.get? field).isSome := rfl
    simp only [apply, applyDelete, check, noted, hcontains]
    cases Schema.allows schema? (·.checkDelete field) with
    | error p => rfl
    | ok _ => cases s.get? field <;> rfl
  | append field value =>
    simp only [apply, applyAppend, check, onto, noted, State.itemsIn]
    cases Schema.allows schema? (·.checkAppend field) with
    | error p => rfl
    | ok _ =>
      cases s.get? field with
      | none => rfl
      | some held => cases held <;> rfl

/-- Carrying out operations one after the other makes of a state what they leave of it, unless one is refused. -/
theorem applyAll_eq (ops : List Operation) (s : State) :
    applyAll schema? thread ops s = (checkAll schema? thread ops s).map fun _ => (ops.foldl onto s, notedAll ops s) := by
  induction ops generalizing s with
  | nil => rfl
  | cons op ops ih =>
    rw [applyAll, apply_eq, checkAll]
    cases op.check schema? thread s with
    | error p => rfl
    | ok _ =>
      show (applyAll schema? thread ops (op.onto s) >>= _) = Except.map _ (checkAll schema? thread ops (op.onto s))
      rw [ih]
      cases checkAll schema? thread ops (op.onto s) <;> rfl

end Operation
end GatedFlow
