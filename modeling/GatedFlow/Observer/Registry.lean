import GatedFlow.Observer.Event

/-! # Observers and their registries

A registry is a list of observers, which are told every event in order. What an observer does with an event
has no effect on anything else: a logger leaves no trace here, and an observer that panics does so on its own. -/

namespace GatedFlow

inductive ObserverKind where
  | recorder
  | logger
  /-- Panics whatever it is told. -/
  | faulty
  /-- Records what it is told but panics at some events. -/
  | brittle (panicsAt : List Event)
  deriving DecidableEq

/-- An observer. Two observers with the same name and kind are the same observer. -/
structure Observer where
  name : String
  kind : ObserverKind
  deriving DecidableEq

/-- An event that an observer has recorded. -/
structure Delivery where
  observer : String
  event : Event
  deriving DecidableEq

/-- What an observer records of an event; none if it panics. -/
def Observer.receive (o : Observer) (e : Event) : Option (List Delivery) :=
  match o.kind with
  | .recorder => some [⟨o.name, e⟩]
  | .logger => some []
  | .faulty => none
  | .brittle panicsAt => if e ∈ panicsAt then none else some [⟨o.name, e⟩]

/-- The observers that are told the same events, in the order in which they are told. -/
abbrev Registry := List Observer

namespace Registry

/-- Adds an observer, also one that is there already. -/
def register (r : Registry) (o : Observer) : Registry := r ++ [o]

def registerNew (r : Registry) (o : Observer) : Registry := if o ∈ r then r else r ++ [o]

/-- Adds the observers of another registry that are not there yet, in their order. -/
def absorb (r other : Registry) : Registry := other.foldl registerNew r

/-- Tells every observer an event, whichever of them panic. -/
def deliver (r : Registry) (e : Event) : List Delivery := r.flatMap fun o => (o.receive e).getD []

def diagnostic (r : Registry) : String :=
  "ObserverRegistry \x7b observers: " ++ toString r.length ++ " \x7d"

end Registry
end GatedFlow
