import GatedFlow.Ledger.Change
import GatedFlow.Store.Error

/-! # Operations on a state

An operation changes one field of a state and yields the change to be recorded. A schema is asked first, then
the state: a deletion needs the field, an append needs an array or nothing in the field. -/

namespace GatedFlow

/-- A sequence ends well if its first part does and then its second. -/
theorem bind_eq_ok_iff {ε α β : Type} {x : Except ε α} {f : α → Except ε β} {b : β} :
    (x >>= f) = .ok b ↔ ∃ a, x = .ok a ∧ f a = .ok b := by
  cases x with
  | error e =>
    constructor
    · intro h; cases h
    · rintro ⟨a, h, -⟩; cases h
  | ok a =>
    constructor
    · exact fun h => ⟨a, rfl, h⟩
    · rintro ⟨_, ⟨⟩, h⟩; exact h

theorem map_eq_ok_iff {α β ε : Type} {x : Except ε α} {f : α → β} {b : β} :
    x.map f = .ok b ↔ ∃ a, x = .ok a ∧ f a = b := by
  cases x with
  | error e => simp [Except.map]
  | ok a => simp [Except.map]

inductive Operation where
  | update (field : String) (value : Value)
  | delete (field : String)
  | append (field : String) (value : Value)

def Schema.allows (schema? : Option Schema) (check : Schema → Except SchemaProblem Unit) :
    Except StoreError Unit :=
  match schema? with
  | none => .ok ()
  | some schema => (check schema).mapError .schema

namespace Operation

def applyUpdate (schema? : Option Schema) (field : String) (value : Value) (s : State) :
    Except StoreError (State × Change) := do
  Schema.allows schema? (·.checkAssign field value)
  return (s.set field value, ⟨.update, field, value, s.get? field⟩)

theorem eq_of_applyUpdate {schema? : Option Schema} {field : String} {value : Value} {s s' : State} {change : Change}
    (h : applyUpdate schema? field value s = .ok (s', change)) : s' = s.set field value := by
  obtain ⟨-, -, h⟩ := bind_eq_ok_iff.1 h
  cases h
  rfl

def applyDelete (schema? : Option Schema) (thread field : String) (s : State) :
    Except StoreError (State × Change) := do
  Schema.allows schema? (·.checkDelete field)
  match s.get? field with
  | some previous => return (s.remove field, ⟨.delete, field, .null, some previous⟩)
  | none => throw (.noField thread field)

/-- Adds an item to the array in a field; a missing field becomes an array of one item. -/
def applyAppend (schema? : Option Schema) (field : String) (value : Value) (s : State) :
    Except StoreError (State × Change) := do
  Schema.allows schema? (·.checkAppend field)
  match s.get? field with
  | some (.array items) =>
    return (s.set field (.array (items ++ [value])), ⟨.append, field, value, some (.array items)⟩)
  | some other => throw (.notASequence field other.kindName)
  | none => return (s.set field (.array [value]), ⟨.append, field, value, none⟩)

/-- What an operation makes of a thread's state, and the change to be recorded. -/
def apply (schema? : Option Schema) (thread : String) (op : Operation) (s : State) :
    Except StoreError (State × Change) :=
  match op with
  | update field value => applyUpdate schema? field value s
  | delete field => applyDelete schema? thread field s
  | append field value => applyAppend schema? field value s

/-- What setting fields one after the other makes of a state, and the changes to be recorded. The first field
that is refused settles the whole. -/
def updateAll (schema? : Option Schema) : List (String × Value) → State → Except StoreError (State × List Change)
  | [], s => .ok (s, [])
  | (field, value) :: rest, s => do
    let (s, change) ← applyUpdate schema? field value s
    let (s, changes) ← updateAll schema? rest s
    return (s, change :: changes)

/-- What operations one after the other make of a thread's state, and the changes to be recorded. The first
operation that fails settles the whole. -/
def applyAll (schema? : Option Schema) (thread : String) :
    List Operation → State → Except StoreError (State × List Change)
  | [], s => .ok (s, [])
  | op :: rest, s => do
    let (s, change) ← op.apply schema? thread s
    let (s, changes) ← applyAll schema? thread rest s
    return (s, change :: changes)

/-- Setting fields one after the other is carrying out their updates. -/
theorem updateAll_eq (schema? : Option Schema) (thread : String) (entries : List (String × Value)) (s : State) :
    updateAll schema? entries s = applyAll schema? thread (entries.map fun e => .update e.1 e.2) s := by
  induction entries generalizing s with
  | nil => rfl
  | cons e entries ih =>
    obtain ⟨field, value⟩ := e
    show (applyUpdate schema? field value s >>= _) = (applyUpdate schema? field value s >>= _)
    refine bind_congr fun ⟨s, change⟩ => ?_
    dsimp only
    rw [ih]

/-- One operation alone makes of a state what it makes of it, and records one change. -/
theorem applyAll_singleton (schema? : Option Schema) (thread : String) (op : Operation) (s : State) :
    applyAll schema? thread [op] s = (op.apply schema? thread s).map fun r => (r.1, [r.2]) := by
  rw [applyAll]
  cases op.apply schema? thread s <;> rfl

end Operation
end GatedFlow
