import GatedFlow.Pattern.Basic
import GatedFlow.Pattern.Reader

/-! # The engine of runs

Where no other engine is given, a pattern is read by `PatternTree.ofText?` and matched by its tree. -/

namespace GatedFlow

instance : PatternEngine where
  compile source := (PatternTree.ofText? source).map PatternTree.matchesIn

end GatedFlow
