import GatedFlow.Json.Text
import GatedFlow.Record

/-! # Thread states

The state of one thread is a record of JSON values. A dotted path such as `user.tier` or `items.0` leads
through nested objects and arrays. -/

namespace GatedFlow

/-- A partial state: the fields a node or an operator wants to set. -/
abbrev Fields := Record Value

/-- The fields of one thread. -/
@[ext] structure State where
  fields : Fields

/-- The field that tells whether a thread is running. -/
def statusField : String := "status"

/-- Status of a thread that waits for a decision. -/
def pausedStatus : String := "paused"

def runningStatus : String := "running"

/-- Status of a thread whose run was refused. -/
def rejectedStatus : String := "rejected"

namespace State

def empty : State := ⟨.empty⟩

instance : Inhabited State := ⟨empty⟩

def ofValue? : Value → Option State
  | .object fields => some ⟨.ofList fields⟩
  | _ => none

def toValue (s : State) : Value := .object s.fields.entries

def get? (s : State) (field : String) : Option Value := s.fields.get? field

def contains (s : State) (field : String) : Bool := s.fields.contains field

def set (s : State) (field : String) (value : Value) : State := ⟨s.fields.insert field value⟩

def remove (s : State) (field : String) : State := ⟨s.fields.erase field⟩

def merge (s : State) (update : Fields) : State := ⟨s.fields.merge update⟩

/-- The status field, if it is a string. -/
def status? (s : State) : Option String := (s.get? statusField).bind Value.asString?

/-- Adds an item to the end of the array in a field, if the field holds one. -/
def pushItem? (s : State) (field : String) (item : Value) : Option State :=
  match s.get? field with
  | some (.array items) => some (s.set field (.array (items ++ [item])))
  | _ => none

@[simp] theorem get?_set (s : State) (field name : String) (value : Value) :
    (s.set field value).get? name = if field = name then some value else s.get? name :=
  Record.get?_insert ..

@[simp] theorem get?_remove (s : State) (field name : String) :
    (s.remove field).get? name = if field = name then none else s.get? name :=
  Record.get?_erase ..

theorem ext_get? {s t : State} (h : ∀ name, s.get? name = t.get? name) : s = t :=
  State.ext (Record.ext h)

theorem set_set (s : State) (field : String) (value value' : Value) :
    (s.set field value).set field value' = s.set field value' := by
  refine ext_get? fun name => ?_
  simp only [get?_set]
  split <;> rfl

theorem set_remove (s : State) (field : String) (value : Value) : (s.remove field).set field value = s.set field value := by
  refine ext_get? fun name => ?_
  simp only [get?_set, get?_remove]
  split <;> rfl

theorem set_of_get? {s : State} {field : String} {value : Value} (h : s.get? field = some value) :
    s.set field value = s := by
  refine ext_get? fun name => ?_
  rw [get?_set]
  split
  · rename_i heq
    rw [← heq, h]
  · rfl

theorem remove_set {s : State} {field : String} {value : Value} (h : s.get? field = none) :
    (s.set field value).remove field = s := by
  refine ext_get? fun name => ?_
  rw [get?_remove, get?_set]
  split
  · rename_i heq
    rw [← heq, h]
  · rfl

end State
end GatedFlow
