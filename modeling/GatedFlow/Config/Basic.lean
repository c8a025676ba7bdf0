import GatedFlow.Text.Blank
import GatedFlow.Text.Lowercase

/-! # Configuration of a run -/

namespace GatedFlow

/-- What a run does at a node that needs approval: keep the rest of its work and return, or wait. -/
inductive ApprovalMode where
  | pause
  | wait
  deriving DecidableEq

/-- A text that names no approval mode, in lower case. -/
structure UnknownMode where
  text : String
  deriving DecidableEq

def UnknownMode.message (p : UnknownMode) : String :=
  s!"unknown approval mode '{p.text}', expected 'pause' or 'wait'"

namespace ApprovalMode

def word : ApprovalMode → String
  | pause => "pause"
  | wait => "wait"

def ofWord? : String → Option ApprovalMode
  | "pause" => some pause
  | "wait" => some wait
  | _ => none

/-- The mode that a text names in any case. -/
def read (text : String) : Except UnknownMode ApprovalMode :=
  let word := lowercase text
  match ofWord? word with
  | some mode => .ok mode
  | none => .error ⟨word⟩

end ApprovalMode

inductive ConfigProblem where
  | noSteps
  | zeroTimeout
  | blankVersion
  deriving DecidableEq

def ConfigProblem.message : ConfigProblem → String
  | noSteps => "max_steps must be at least 1"
  | zeroTimeout => "approval_timeout_secs must be positive when set"
  | blankVersion => "state_version must not be empty"

structure Config where
  /-- The most node executions of one run. -/
  maxSteps : Nat
  mode : ApprovalMode
  /-- The timeout of the run's approval requests in seconds. -/
  timeoutSecs : Option Nat
  /-- The version wanted of a state on resume. -/
  version : String
  logFilter : String
  deriving DecidableEq

namespace Config

/-- A hundred steps, pausing, without a timeout, version `1`. -/
def standard : Config := ⟨100, .pause, none, "1", "info"⟩

instance : Inhabited Config := ⟨standard⟩

/-- Sets the timeout to the whole seconds of a duration in milliseconds. -/
def withTimeout (c : Config) (ms : Nat) : Config := { c with timeoutSecs := some (ms / 1000) }

def timeout? (c : Config) : Option Nat := c.timeoutSecs.map (· * 1000)

/-- Whether a run may be carried out this way; of several problems the first counts. -/
def validate (c : Config) : Except ConfigProblem Unit :=
  if c.maxSteps = 0 then .error .noSteps
  else if c.timeoutSecs = some 0 then .error .zeroTimeout
  else if (trimBlanks c.version).isEmpty then .error .blankVersion
  else .ok ()

end Config
end GatedFlow
