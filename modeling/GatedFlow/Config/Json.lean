import GatedFlow.Config.Basic
import GatedFlow.Json.Layout

/-! # The JSON form of a configuration

Every setting may be left out and then has its standard value. -/

namespace GatedFlow
namespace Config

/-- The JSON form of a configuration; a missing timeout is written as `null`. -/
def toValue (c : Config) : Value :=
  .ofFields [("max_steps", .int c.maxSteps), ("approval_mode", .string c.mode.word),
    ("approval_timeout_secs", (c.timeoutSecs.map fun n => Value.int n).getD .null),
    ("state_version", .string c.version), ("log_filter", .string c.logFilter)]

def ofValue? (v : Value) : Option Config := do
  guard (v.isRecord 5)
  return {
    maxSteps := ← v.defaulted? 0 "max_steps" standard.maxSteps Value.asWord?
    mode := ← v.defaulted? 1 "approval_mode" standard.mode (Value.asWordOf? ApprovalMode.ofWord?)
    timeoutSecs := ← v.defaulted? 2 "approval_timeout_secs" standard.timeoutSecs (Value.nullable? Value.asWord?)
    version := ← v.defaulted? 3 "state_version" standard.version Value.asString?
    logFilter := ← v.defaulted? 4 "log_filter" standard.logFilter Value.asString? }

end Config
end GatedFlow
