import GatedFlow.State.Basic

/-! # State versions

A state may name the version it was written by. On the way to a resumed run it passes a migrator: the lenient
one changes nothing, the strict one refuses a state of another version and stamps one without a version. -/

namespace GatedFlow

/-- The field with the version a state was written by. -/
def versionField : String := "_version"

/-- How states of other versions are treated. -/
inductive Migrator where
  | lenient
  | strict
  deriving DecidableEq

/-- A state was written by another version than the one wanted. -/
structure VersionProblem where
  wanted : String
  found : String
  deriving DecidableEq

def VersionProblem.message (p : VersionProblem) : String :=
  s!"Migration to version '{p.wanted}' failed: state was written by version '{p.found}'"

namespace Migrator

/-- The state as the wanted version takes it. A version that is not a string counts as none. -/
def migrate (m : Migrator) (s : State) (wanted : String) : Except VersionProblem State :=
  match m with
  | lenient => .ok s
  | strict =>
    match (s.get? versionField).bind Value.asString? with
    | some found => if found = wanted then .ok s else .error ⟨wanted, found⟩
    | none => .ok (s.set versionField (.string wanted))

end Migrator
end GatedFlow
