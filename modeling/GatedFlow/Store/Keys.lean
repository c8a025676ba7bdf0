/-! # Store keys

A thread's live state lies under the thread's own id, its checkpoints under `<thread>:checkpoint:<name>` in
the same key space. -/

namespace GatedFlow

/-- What stands between a thread id and a checkpoint name. -/
def checkpointMark : String := ":checkpoint:"

def checkpointKey (thread name : String) : String := thread ++ checkpointMark ++ name

/-- No checkpoint lies under the id of its own thread. -/
theorem checkpointKey_ne (thread name : String) : checkpointKey thread name ≠ thread := by
  intro h
  have hlength := congrArg String.length h
  have hmark : checkpointMark.length = 12 := by decide
  rw [checkpointKey, String.length_append, String.length_append] at hlength
  omega

/-- What every checkpoint key of a thread starts with. -/
def checkpointStart (thread : String) : String := thread ++ checkpointMark

/-- Splits a text at the first occurrence of a mark; `before` holds what was passed, in reverse. -/
def splitAtMark (mark : List Char) (before : List Char) : List Char → Option (List Char × List Char)
  | [] => if mark.isEmpty then some (before.reverse, []) else none
  | c :: rest =>
    if mark.isPrefixOf (c :: rest) then some (before.reverse, (c :: rest).drop mark.length)
    else splitAtMark mark (c :: before) rest

def parseCheckpointKey? (key : String) : Option (String × String) :=
  (splitAtMark checkpointMark.toList [] key.toList).map fun (thread, name) =>
    (String.ofList thread, String.ofList name)

def isCheckpointKey (key : String) : Bool := (parseCheckpointKey? key).isSome

end GatedFlow
