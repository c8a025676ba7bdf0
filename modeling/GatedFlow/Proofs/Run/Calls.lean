import GatedFlow.Proofs.Run.Requests

/-! # What runs on a thread can call for

`Engine.Calls` lists the calls that starting or resuming a thread can come to. What is proved of each of them holds of all
moments of such runs (`calls_invoke`, `calls_resume`), in whatever course. -/

namespace GatedFlow.Engine

/-- The calls of runs on a thread: they write the state of this thread only and ask for approvals on it only. -/
inductive Calls (E : Engine) (thread : String) : {β : Type} → RunCall β → Prop
  | load : E.Calls thread (.edit (Edit.loadState thread))
  | loadForResume (version : String) : E.Calls thread (.edit (Edit.loadForResume E.rules.migrator thread version))
  | save (st : State) : E.Calls thread (.edit (Edit.saveState E.rules.schema thread st))
  | modify (updates : Fields) : E.Calls thread (.edit (Edit.modify E.rules.schema thread updates))
  | deleteField (field : String) : E.Calls thread (.edit (Edit.deleteField E.rules.schema thread field))
  | setStatus (status : String) : E.Calls thread (.edit (Edit.setStatus E.rules.schema thread status))
  | askReason (s : State) (node : String) : E.Calls thread (.askReason s node)
  | createRequest (node reason : String) (timeout : Option Nat) :
    E.Calls thread (.createRequest thread node reason timeout)
  | currentRequest : E.Calls thread (.currentRequest thread)
  | latest (r : Request) : E.Calls thread (.latest r)
  | cancelRequest : E.Calls thread (.cancelRequest thread)
  | await (r : Request) (limit : Option Nat) : E.Calls thread (.await r limit)
  | tell (events : List Event) : E.Calls thread (.tell events)
  | execute (node : String) (s : State) : E.Calls thread (.execute E.graph node s)
  | next (node : String) (s : State) : E.Calls thread (.next E.graph node s)

/-- Every moment of a run is one of such a call. -/
def RunsOn (E : Engine) (thread : String) {α : Type} (p : Run α) : Prop := E.Only (fun m => E.Calls thread m.call) p

variable {E : Engine} {thread : String}

theorem calls_ofEdit {α : Type} {e : Edit α} (h : E.Calls thread (.edit e)) : E.RunsOn thread (Run.ofEdit e) :=
  only_ofEdit fun _ _ => h

theorem calls_ofCall {α : Type} {call : RunCall α} (h : E.Calls thread call) : E.RunsOn thread (Run.ofCall call) :=
  only_ofCall fun _ _ => h

theorem calls_ofTry {α : Type} {call : RunCall (Except FlowError α)} (h : E.Calls thread call) :
    E.RunsOn thread (Run.ofTry call) :=
  only_ofTry fun _ _ => h

theorem composes_runsOn : Composes (E.RunsOn thread) := ⟨only_ofExcept, Only.bind⟩

theorem calls_wait (limit : Option Nat) : E.RunsOn thread (Run.wait thread limit) := by
  refine (calls_ofCall .currentRequest).bind fun request? => ?_
  split
  · exact only_throw _
  · exact calls_ofTry (.await _ _)

theorem calls_pause (node : String) (rest : List String) (request : Request) :
    E.RunsOn thread (E.pause thread node rest request) :=
  composes_runsOn.binds.pause (calls_ofEdit (.modify _)) (calls_ofEdit (.setStatus _)) (calls_ofCall (.latest request))

theorem calls_gate (node : String) (s : State) (rest : List String) : E.RunsOn thread (E.gate thread node s rest) :=
  composes_runsOn.binds.gate (calls_ofCall (.askReason s node)) (fun _ => calls_ofCall (.createRequest node _ _))
    (calls_pause node rest) fun request => composes_runsOn.binds.awaitDecision (calls_ofTry (.await request none))
      (calls_ofCall .cancelRequest) (calls_ofCall (.latest request))

theorem calls_perform (node : String) (s : State) : E.RunsOn thread (E.perform thread node s) :=
  only_perform (fun _ _ _ => .tell _) (fun _ _ _ _ => .execute _ _) (fun _ _ _ _ => .next _ _) (fun _ _ _ => .modify _) s

theorem calls_drive (left : Nat) (frontier : List String) (approved : Option String) (visited : List String) :
    E.RunsOn thread (E.drive thread left frontier approved visited) :=
  composes_runsOn.drive (calls_ofEdit .load) calls_gate calls_perform left frontier approved visited

theorem calls_invoke (initial : State) : E.RunsOn thread (E.invoke thread initial) :=
  composes_runsOn.invoke calls_drive (fun _ => calls_ofEdit (.save _)) initial

theorem calls_prepare : E.RunsOn thread (E.prepare thread) := by
  have hclear : E.RunsOn thread (E.clearPending thread) :=
    composes_runsOn.binds.clearPending (calls_ofEdit .load) (calls_ofEdit (.deleteField _))
  refine composes_runsOn.prepare (calls_ofCall .currentRequest) (fun request => ?_) fun request kept? => ?_
  · exact composes_runsOn.claim (calls_ofEdit (.loadForResume _)) (fun _ => calls_ofEdit (.save _)) hclear
  · exact composes_runsOn.binds.settle (fun _ => calls_ofEdit (.setStatus _)) (calls_ofCall .cancelRequest)
      (calls_ofCall (.latest request))

theorem calls_resume : E.RunsOn thread (E.resume thread) := composes_runsOn.resume calls_drive calls_prepare

end GatedFlow.Engine
