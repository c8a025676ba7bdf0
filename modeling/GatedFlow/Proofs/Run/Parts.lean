import GatedFlow.Run.Basic

/-! # From calls to the parts of a run

A property of runs that sequences inherit from their parts (`Binds`) holds of a gate, of what carries out a node and of what
resuming does, if it holds of the calls that are made there. Claiming what a request stands for may fail without a call,
so that there the property has to hold of every run that makes none (`Composes`). -/

namespace GatedFlow.Engine

/-- A property of runs that a sequence has if its parts have it, and a run that only answers. -/
structure Binds (P : {α : Type} → Run α → Prop) : Prop where
  done : ∀ {α : Type} (a : α), P (pure a : Run α)
  bind : ∀ {α β : Type} {p : Run α} {f : α → Run β}, P p → (∀ a, P (f a)) → P (p >>= f)

/-- A property of runs that a sequence has if its parts have it, and a run that makes no call. -/
structure Composes (P : {α : Type} → Run α → Prop) : Prop where
  ofExcept : ∀ {α : Type} (r : Except FlowError α), P (Run.ofExcept r)
  bind : ∀ {α β : Type} {p : Run α} {f : α → Run β}, P p → (∀ a, P (f a)) → P (p >>= f)

variable {E : Engine} {P : {α : Type} → Run α → Prop} {thread node : String} {request : Request}

namespace Binds

variable (hP : Binds P)

include hP

theorem pause {rest : List String} (hkeep : P (Run.ofEdit (E.keep thread (node :: rest))))
    (hstatus : P (Run.ofEdit (Edit.setStatus E.rules.schema thread pausedStatus)))
    (hlatest : P (Run.ofCall (.latest request))) : P (E.pause thread node rest request) :=
  hP.bind hkeep fun _ => hP.bind hstatus fun _ => hP.bind hlatest fun _ => hP.done _

theorem awaitDecision (hawait : P (Run.ofTry (.await request none))) (hcancel : P (Run.ofCall (.cancelRequest thread)))
    (hlatest : P (Run.ofCall (.latest request))) : P (Engine.awaitDecision thread node request) := by
  refine hP.bind hawait fun status => ?_
  split
  · exact hP.bind hcancel fun _ => hP.done _
  · exact hP.bind hlatest fun _ => hP.done _

theorem gate {s : State} {rest : List String} (hask : P (Run.ofCall (.askReason s node)))
    (hcreate : ∀ reason, P (Run.ofCall (.createRequest thread node reason E.config.timeout?)))
    (hpause : ∀ request, P (E.pause thread node rest request))
    (hawait : ∀ request, P (Engine.awaitDecision thread node request)) : P (E.gate thread node s rest) := by
  refine hP.bind hask fun reason? => ?_
  split
  · exact hP.done _
  refine hP.bind (hcreate _) fun request => ?_
  split
  · exact hP.bind (hpause request) fun _ => hP.done _
  · exact hawait request

theorem perform {s : State} (htell : ∀ events, P (tell events)) (hexecute : P (Run.ofTry (.execute E.graph node s)))
    (hmodify : ∀ update, P (Run.ofEdit (Edit.modify E.rules.schema thread update)))
    (hnext : ∀ s, P (Run.ofTry (.next E.graph node s))) : P (E.perform thread node s) := by
  refine hP.bind (htell _) fun _ => hP.bind hexecute fun update => hP.bind ?_ fun s' => ?_
  · unfold mergeUpdate
    split
    · exact hP.done s
    · exact hmodify update
  · exact hP.bind (htell _) fun _ => hP.bind (hnext s') fun targets => hP.bind (htell _) fun _ => hP.done _

theorem clearPending (hload : P (Run.ofEdit (Edit.loadState thread)))
    (hdelete : P (Run.ofEdit (Edit.deleteField E.rules.schema thread pendingField))) : P (E.clearPending thread) := by
  refine hP.bind hload fun s => ?_
  split
  · exact hP.bind hdelete fun _ => hP.done _
  · exact hP.done _

theorem settle {kept? : Option (List String)}
    (hstatus : ∀ status, P (Run.ofEdit (Edit.setStatus E.rules.schema thread status)))
    (hcancel : P (Run.ofCall (.cancelRequest thread))) (hlatest : P (Run.ofCall (.latest request))) :
    P (E.settle thread request kept?) := by
  cases kept? with
  | some kept => exact hP.bind (hstatus _) fun _ => hP.bind hcancel fun _ => hP.done _
  | none => exact hP.bind (hstatus _) fun _ => hP.bind hcancel fun _ => hP.bind hlatest fun _ => hP.done _

end Binds

namespace Composes

variable (hP : Composes P)

include hP

theorem done {α : Type} (a : α) : P (pure a : Run α) := hP.ofExcept (.ok a)

theorem binds : Binds P := ⟨hP.done, hP.bind⟩

theorem claim (hload : P (Run.ofEdit (Edit.loadForResume E.rules.migrator thread E.config.version)))
    (hsave : ∀ s, P (Run.ofEdit (Edit.saveState E.rules.schema thread s))) (hclear : P (E.clearPending thread)) :
    P (E.claim thread request) := by
  unfold Engine.claim
  split
  · exact hP.bind hload fun s => hP.bind (hsave s) fun _ => hP.bind hclear fun _ => hP.done _
  · exact hP.bind hclear fun _ => hP.done _
  · exact hP.ofExcept (.error _)

theorem prepare (hcurrent : P (Run.ofCall (.currentRequest thread))) (hclaim : ∀ request, P (E.claim thread request))
    (hsettle : ∀ request kept?, P (E.settle thread request kept?)) : P (E.prepare thread) := by
  refine hP.bind (hP.ofExcept _) fun _ => hP.bind hcurrent fun request? => ?_
  split
  · exact hP.ofExcept (.error _)
  · exact hP.bind (hclaim _) fun kept? => hsettle _ kept?

end Composes
end GatedFlow.Engine
