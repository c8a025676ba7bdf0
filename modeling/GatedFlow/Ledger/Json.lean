import GatedFlow.Json.Layout
import GatedFlow.Ledger.Change

/-! # The JSON form of a ledger

A change is written together with the time at which it was made, a snapshot together with the time at which it
was taken. How times are written is left open. -/

namespace GatedFlow

/-- A change and when it was made. -/
structure DatedChange (Time : Type) where
  change : Change
  time : Time

namespace DatedChange

variable {Time : Type}

/-- The JSON form of a dated change; a value before is written only if there was one. -/
def toValue (form : TextForm Time) (d : DatedChange Time) : Value :=
  .ofFields ([("modification_type", .string d.change.kind.word), ("field", .string d.change.field),
      ("value", d.change.value)] ++ writtenIf "previous" id d.change.previous ++
    [("timestamp", form.toValue d.time)])

def ofValue? (form : TextForm Time) (v : Value) : Option (DatedChange Time) := do
  guard (v.isRecord 5)
  let kind ← v.required? 0 "modification_type" (Value.asWordOf? ChangeKind.ofWord?)
  let field ← v.required? 1 "field" Value.asString?
  let value ← v.required? 2 "value" some
  let previous ← v.defaulted? 3 "previous" none (Value.nullable? some)
  let time ← v.required? 4 "timestamp" form.ofValue?
  return ⟨⟨kind, field, value, previous⟩, time⟩

end DatedChange

/-- The state of a thread at a time. -/
structure Snapshot (Time : Type) where
  thread : String
  state : State
  time : Time

namespace Snapshot

variable {Time : Type}

def toValue (form : TextForm Time) (s : Snapshot Time) : Value :=
  .ofFields [("thread_id", .string s.thread), ("state", s.state.toValue), ("timestamp", form.toValue s.time)]

def ofValue? (form : TextForm Time) (v : Value) : Option (Snapshot Time) := do
  guard (v.isRecord 3)
  return {
    thread := ← v.required? 0 "thread_id" Value.asString?
    state := ← v.required? 1 "state" State.ofValue?
    time := ← v.required? 2 "timestamp" form.ofValue? }

end Snapshot
end GatedFlow
