import GatedFlow.Number.Word
import GatedFlow.State.Basic

/-! # Paths into a state

A path names a field first and then goes on through objects by key and through arrays by position. Dotted
text and the segments of a condition both come down to `Value.child?`. -/

namespace GatedFlow

inductive Segment where
  | key (name : String)
  | index (position : Nat)
  deriving DecidableEq

/-- The parts of a text between full stops; `part` holds the current one in reverse. -/
def splitDots (part : List Char) : List Char → List (List Char)
  | [] => [part.reverse]
  | '.' :: rest => part.reverse :: splitDots [] rest
  | c :: rest => splitDots (c :: part) rest

namespace Value

/-- What a segment leads to: a field of an object or an item of an array. -/
def child? : Value → Segment → Option Value
  | .object fields, .key name => findEntry name fields
  | .array items, .index position => items[position]?
  | _, _ => none

/-- What a part of a dotted path leads to: in an array it is read as a position. -/
def dotted? (v : Value) (part : List Char) : Option Value :=
  match v with
  | .object _ => v.child? (.key (String.ofList part))
  | .array _ => (readWord part).toOption.bind fun i => v.child? (.index i)
  | _ => none

end Value

namespace State

def getPath? (s : State) (path : String) : Option Value :=
  match splitDots [] path.toList with
  | [] => none
  | first :: rest => (s.get? (String.ofList first)).bind fun v => rest.foldlM Value.dotted? v

/-- What the segments of a condition lead to: no segment at all is the whole state, and the first segment
has to be a key. -/
def resolve? (s : State) : List Segment → Option Value
  | [] => some s.toValue
  | .key name :: rest => (s.get? name).bind fun v => rest.foldlM Value.child? v
  | .index _ :: _ => none

end State
end GatedFlow
