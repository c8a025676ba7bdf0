import GatedFlow.Json.Value
import GatedFlow.Record

/-! # Reading and writing records as JSON

A record is written as an object. It is read from an object, in which names that it does not know are
ignored, or from an array with its fields in order. A field that may be left out is optional, which counts in
objects only, or has a default, which counts in both. -/

namespace GatedFlow

/-- What is allowed of a field. -/
inductive Presence where
  | required
  | optional
  | defaulted
  deriving DecidableEq

namespace Value

variable {α : Type}

/-- Whether a value has the form of a record of so many fields. -/
def isRecord (v : Value) (count : Nat) : Bool :=
  match v with
  | object _ => true
  | array items => items.length ≤ count
  | _ => false

/-- The field at a place and under a name, if it is there or may be left out. -/
def slot? (v : Value) (place : Nat) (name : String) (presence : Presence) : Option (Option Value) :=
  match v with
  | object fields =>
    match findEntry name fields with
    | some w => some (some w)
    | none => if presence = .required then none else some none
  | array items =>
    match items[place]? with
    | some w => some (some w)
    | none => if presence = .defaulted then some none else none
  | _ => none

def required? (v : Value) (place : Nat) (name : String) (read : Value → Option α) : Option α := do
  match ← v.slot? place name .required with
  | some w => read w
  | none => none

def defaulted? (v : Value) (place : Nat) (name : String) (default : α) (read : Value → Option α) : Option α := do
  match ← v.slot? place name .defaulted with
  | some w => read w
  | none => default

/-- Reads a value where `null` stands for none. -/
def nullable? (read : Value → Option α) : Value → Option (Option α)
  | null => some none
  | v => (read v).map some

/-- A field that may be left out of an object. -/
def optional? (v : Value) (place : Nat) (name : String) (read : Value → Option α) : Option (Option α) := do
  match ← v.slot? place name .optional with
  | some w => nullable? read w
  | none => some none

def asBool? : Value → Option Bool
  | bool b => some b
  | _ => none

/-- The whole number between bounds that a value is. -/
def asIntIn? (low high : Int) : Value → Option Int
  | number (.int i) => if low ≤ i ∧ i ≤ high then some i else none
  | _ => none

/-- The unsigned 64-bit word that a value is. -/
def asWord? (v : Value) : Option Nat := (v.asIntIn? 0 (wordCount - 1)).map Int.toNat

def asList? (read : Value → Option α) : Value → Option (List α)
  | array items => items.mapM read
  | _ => none

def asRecord? (read : Value → Option α) : Value → Option (Record α)
  | object fields => (fields.mapM fun e => (read e.2).map fun a => (e.1, a)).map Record.ofList
  | _ => none

def asFields? : Value → Option (Record Value)
  | object fields => some (.ofList fields)
  | _ => none

/-- The word of an enumeration, alone or as the one name in an object that leads to `null`. -/
def asWordOf? (ofWord? : String → Option α) : Value → Option α
  | string word => ofWord? word
  | object [(word, null)] => ofWord? word
  | _ => none

def ofFields (fields : List (String × Value)) : Value := object (Record.ofList fields).entries

/-- A text, or `null` for none. -/
def ofOptional : Option String → Value
  | some text => string text
  | none => null

end Value

/-- A field that is written if there is a value. -/
def writtenIf {α : Type} (name : String) (write : α → Value) : Option α → List (String × Value)
  | some a => [(name, write a)]
  | none => []

/-- A record that is written unless it is empty. -/
def writtenUnlessEmpty {α : Type} (name : String) (write : α → Value) (r : Record α) : List (String × Value) :=
  if r.isEmpty then [] else [(name, .object (r.entries.map fun e => (e.1, write e.2)))]

/-- How values of a type are written as texts. -/
structure TextForm (α : Type) where
  write : α → String
  read? : String → Option α

def TextForm.toValue {α : Type} (f : TextForm α) (a : α) : Value := .string (f.write a)

def TextForm.ofValue? {α : Type} (f : TextForm α) (v : Value) : Option α := v.asString?.bind f.read?

end GatedFlow
