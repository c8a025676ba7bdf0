import GatedFlow.Json.Value
import GatedFlow.Observer.Registry

/-! # The JSON form of what observers record

A recorded event is written as an array: the observer, the kind of the event and its parts. -/

namespace GatedFlow

/-- The kind of an event and its parts. -/
def Event.words : Event → List String
  | nodeEntered thread node => ["node_entered", thread, node]
  | edgeTraversed thread source target => ["edge_traversed", thread, source, target]
  | interruptRaised thread node reason => ["interrupt_raised", thread, node, reason]
  | approvalResolved thread node status => ["approval_resolved", thread, node, status.word]
  | predicateFailed site name error => ["predicate_error", site.title, name, error.code, error.message]

def Delivery.toValue (d : Delivery) : Value := .array ((d.observer :: d.event.words).map .string)

end GatedFlow
