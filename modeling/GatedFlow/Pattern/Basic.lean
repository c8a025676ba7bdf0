/-! # Patterns

What a pattern is written like and what it matches is the business of an engine that compiles patterns. Reading and
evaluating conditions is said for any engine: nothing is assumed of which texts it compiles and what they match. -/

namespace GatedFlow

/-- An engine compiles the text of a pattern to the test for a match, unless it refuses the text. -/
class PatternEngine where
  compile : String → Option (String → Bool)

/-- A compiled pattern with the text it was written as. -/
structure Pattern where
  source : String
  isMatch : String → Bool

/-- The pattern a text describes, if it is one to the engine. -/
def Pattern.ofText? [PatternEngine] (source : String) : Option Pattern :=
  (PatternEngine.compile source).map (Pattern.mk source)

end GatedFlow
