import GatedFlow.Proofs.Run.Earlier

/-! # Sessions and earlier requests

`Engine.stepsDecides` lists the requests on which the commands and waits of a session decide, at the moments at which they
come. If these are all later ones, the session leaves the earlier requests as they are, whatever it runs
(`spares_steps`). -/

namespace GatedFlow.Engine

/-- The numbers of the requests that a step of a session may decide: those on which its commands decide, and for a wait the
request that is waited for. -/
def stepDecides (E : Engine) (patience : Nat) (s : Step) (w : World) : List Nat :=
  match s with
  | .command c => c.decides w
  | .wait thread limit commands => (w.desk.current? thread).toList.map (·.record.id) ++
      (E.stepTrace patience (.wait thread limit commands) w).flatMap E.momentDecides
  | s => (E.stepTrace patience s w).flatMap E.momentDecides

def stepsDecides (E : Engine) (patience : Nat) : List Step → World → List Nat
  | [], _ => []
  | s :: rest, w => E.stepDecides patience s w ++ E.stepsDecides patience rest (E.stepWithin patience s w).2

variable {patience old : Nat} {w : World} (E : Engine)

theorem spares_step {s : Step} (hw : old ≤ w.desk.requests.length) (h : ∀ id ∈ E.stepDecides patience s w, old ≤ id) :
    w.desk.Spares old (E.stepWithin patience s w).2.desk := by
  cases s with
  | command c => exact c.spares E.rules hw h
  | together edits => exact .refl _
  | wait thread limit commands =>
    obtain ⟨hcurrent, hcommands⟩ := List.forall_mem_append.1 h
    exact wait_spares (c := .start patience w commands) hw
      (fun r hr => hcurrent _ (List.mem_map.2 ⟨r, Option.mem_toList.2 hr, rfl⟩)) hcommands
  | invoke thread initial commands => exact sparing_invoke initial (.start patience w commands) hw h
  | resume thread commands => exact sparing_resume (.start patience w commands) hw h

/-- A session leaves the requests that were there before it as they are, if what its commands decide is later. -/
theorem spares_steps {steps : List Step} (hw : old ≤ w.desk.requests.length)
    (h : ∀ id ∈ E.stepsDecides patience steps w, old ≤ id) :
    w.desk.Spares old (E.stepsWithin patience steps w).2.desk := by
  induction steps generalizing w with
  | nil => exact .refl _
  | cons s rest ih =>
    obtain ⟨hfirst, hrest⟩ := List.forall_mem_append.1 h
    have hstep := E.spares_step hw hfirst
    exact hstep.trans (ih (Nat.le_trans hw hstep.made) hrest)

end GatedFlow.Engine
