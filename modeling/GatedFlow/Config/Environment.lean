import GatedFlow.Config.Basic
import GatedFlow.Number.Word
import GatedFlow.Record

/-! # Configuration from environment variables

Variables are named by a common start and the setting in upper case. Settings are read in a fixed order and
the first that cannot be read is reported; a variable that is not set leaves the standard value. -/

namespace GatedFlow

/-- The variables that are set, with their contents as bytes. -/
abbrev Environment := Record ByteArray

inductive SettingProblem where
  | word (problem : WordProblem)
  | mode (problem : UnknownMode)
  deriving DecidableEq

def SettingProblem.message : SettingProblem → String
  | word problem => problem.message
  | mode problem => problem.message

/-- Why a variable cannot be used. -/
inductive VariableProblem where
  | notUtf8 (name : String)
  | unreadable (name : String) (problem : SettingProblem)
  deriving DecidableEq

def VariableProblem.message : VariableProblem → String
  | notUtf8 name => s!"Environment variable {name} contains invalid UTF-8"
  | unreadable name problem => s!"Failed to parse environment variable {name}: " ++ problem.message

namespace Environment

def text? (env : Environment) (name : String) : Except VariableProblem (Option String) :=
  match env.get? name with
  | none => .ok none
  | some bytes =>
    match String.fromUTF8? bytes with
    | some text => .ok (some text)
    | none => .error (.notUtf8 name)

/-- What the text of a variable without the blanks around it stands for, if it is set. -/
def read? {α : Type} (env : Environment) (name : String) (reader : String → Except SettingProblem α) :
    Except VariableProblem (Option α) := do
  match ← env.text? name with
  | none => return none
  | some text =>
    match reader (trimBlanks text) with
    | .ok a => return some a
    | .error p => throw (.unreadable name p)

end Environment

/-- The configuration that the variables with a common start of their names describe. -/
def Config.ofEnvironment (env : Environment) (start : String) : Except VariableProblem Config := do
  let standard := Config.standard
  let word (text : String) := (readWord text.toList).mapError .word
  let mode (text : String) := (ApprovalMode.read text).mapError .mode
  let maxSteps ← env.read? (start ++ "MAX_STEPS") word
  let approvalMode ← env.read? (start ++ "APPROVAL_MODE") mode
  let timeoutSecs ← env.read? (start ++ "APPROVAL_TIMEOUT_SECS") word
  let version ← env.text? (start ++ "STATE_VERSION")
  let logFilter ← env.text? (start ++ "LOG")
  return {
    maxSteps := maxSteps.getD standard.maxSteps
    mode := approvalMode.getD standard.mode
    timeoutSecs
    version := version.getD standard.version
    logFilter := logFilter.getD standard.logFilter }

end GatedFlow
