import GatedFlow.State.Basic

/-! # Schemas

A schema declares the kinds of fields. A closed schema refuses undeclared fields, an open one lets them
pass; names that begin with an underscore belong to the engine and pass both unless they are declared. -/

namespace GatedFlow

/-- What a declared field may hold. -/
inductive FieldKind where
  | any
  | scalar
  | sequence
  | object
  deriving DecidableEq

namespace FieldKind

def word : FieldKind → String
  | any => "any"
  | scalar => "scalar"
  | sequence => "sequence"
  | object => "object"

def ofWord? : String → Option FieldKind
  | "any" => some any
  | "scalar" => some scalar
  | "sequence" => some sequence
  | "object" => some object
  | _ => none

def title : FieldKind → String
  | any => "Any"
  | scalar => "Scalar"
  | sequence => "Sequence"
  | object => "Object"

def accepts : FieldKind → Value → Bool
  | any, _ => true
  | scalar, .array _ => false
  | scalar, .object _ => false
  | scalar, _ => true
  | sequence, .array _ => true
  | sequence, _ => false
  | object, .object _ => true
  | object, _ => false

end FieldKind

/-- What a state or a write to it has against it. -/
inductive SchemaProblem where
  | notAnObject (kind : String)
  | undeclared (field : String)
  | wrongKind (field : String) (declared : FieldKind) (assigned : String)
  | notAppendable (field : String) (declared : FieldKind)
  deriving DecidableEq

def SchemaProblem.message : SchemaProblem → String
  | notAnObject kind => s!"workflow state must be a JSON object, got {kind}"
  | undeclared field => s!"field '{field}' is not declared"
  | wrongKind field declared assigned =>
    s!"field '{field}' is declared {declared.title} but was assigned {assigned}"
  | notAppendable field declared =>
    s!"field '{field}' is declared {declared.title}, appends require a sequence"

def State.read (v : Value) : Except SchemaProblem State :=
  match State.ofValue? v with
  | some s => .ok s
  | none => .error (.notAnObject v.kindName)

structure Schema where
  kinds : Record FieldKind
  isOpen : Bool

namespace Schema

def isReserved (field : String) : Bool :=
  match field.toList with
  | c :: _ => c == '_'
  | [] => false

def declares (schema : Schema) (field : String) : Bool := schema.kinds.contains field

def declare (schema : Schema) (field : String) (kind : FieldKind) : Schema :=
  { schema with kinds := schema.kinds.insert field kind }

def admitsUndeclared (schema : Schema) (field : String) : Except SchemaProblem Unit :=
  if schema.isOpen || isReserved field then .ok () else .error (.undeclared field)

/-- Whether a value may be assigned to a field. -/
def checkAssign (schema : Schema) (field : String) (value : Value) : Except SchemaProblem Unit :=
  match schema.kinds.get? field with
  | some kind => if kind.accepts value then .ok () else .error (.wrongKind field kind value.kindName)
  | none => schema.admitsUndeclared field

/-- Whether items may be appended to a field. -/
def checkAppend (schema : Schema) (field : String) : Except SchemaProblem Unit :=
  match schema.kinds.get? field with
  | some .sequence => .ok ()
  | some .any => .ok ()
  | some kind => .error (.notAppendable field kind)
  | none => schema.admitsUndeclared field

def checkDelete (schema : Schema) (field : String) : Except SchemaProblem Unit :=
  if schema.declares field then .ok () else schema.admitsUndeclared field

/-- Whether every field in a list of entries may hold its value; the first that may not is reported. -/
def checkAll (schema : Schema) : List (String × Value) → Except SchemaProblem Unit
  | [] => .ok ()
  | (field, value) :: rest => do
    schema.checkAssign field value
    schema.checkAll rest

/-- Whether a state keeps to the schema, field by field in key order. -/
def validate (schema : Schema) (s : State) : Except SchemaProblem Unit := schema.checkAll s.fields.entries

end Schema
end GatedFlow
