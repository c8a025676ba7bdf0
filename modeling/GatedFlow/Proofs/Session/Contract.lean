import GatedFlow.Proofs.Edits.Contract
import GatedFlow.Proofs.Run.Calls
import GatedFlow.Proofs.Session.Charges

/-! # Sessions under a contract

A contract says what the edits and the direct calls of a session may ask of the store. A turn is allowed if the commands it
brings and the edits of its run keep to the contract (`Turn.Allowed`). An invariant of the store that such calls keep then
holds after every allowed turn, whatever falls due while a run waits (`Turn.next_keeps`), and after any number of them
(`Turn.after_keeps`). -/

namespace GatedFlow

variable {C : Contract EditCall} {J : Store → Prop} {rules : EditRules} {thread : String}

/-- A direct call that a contract allows; calls may be made to fail if the invariant holds all the same. -/
def StoreCommand.Allowed (C : Contract EditCall) (J : Store → Prop) : StoreCommand → Prop
  | save key st => C.Asks (.store (.save key st))
  | tryLoad key => C.Asks (.store (.load key))
  | delete key => C.Asks (.store (.delete key))
  | appendHistory key change => C.Asks (.store (.appendHistory key change))
  | listThreads => C.Asks (.store (.listKeys ""))
  | listKeys start => C.Asks (.store (.listKeys start))
  | plan kind p => ∀ s, J s → J { s with faults := s.faults.set kind p }
  | _ => True

def Command.Allowed (C : Contract EditCall) (J : Store → Prop) (rules : EditRules) : Command → Prop
  | edit c => (c.edit rules).Keeps C fun _ => True
  | store c => c.Allowed C J
  | desk _ => True

/-- A call of a run that is an edit under the contract, or no edit. -/
def RunCall.Allowed {α : Type} (C : Contract EditCall) : RunCall α → Prop
  | edit e => e.Keeps C fun _ => True
  | _ => True

/-- The edits that runs on a thread call for keep to a contract. -/
def Engine.RunsKeep (E : Engine) (C : Contract EditCall) (thread : String) : Prop :=
  ∀ {β : Type} (call : RunCall β), E.Calls thread call → call.Allowed C

def Step.Allowed (E : Engine) (C : Contract EditCall) (J : Store → Prop) : Step → Prop
  | command c => c.Allowed C J E.rules
  | together edits => ∀ c ∈ edits, (c.edit E.rules).Keeps C fun _ => True
  | wait thread _ commands => E.RunsKeep C thread ∧ ∀ c ∈ commands.map Prod.snd, c.Allowed C J E.rules
  | invoke thread _ commands => E.RunsKeep C thread ∧ ∀ c ∈ commands.map Prod.snd, c.Allowed C J E.rules
  | resume thread commands => E.RunsKeep C thread ∧ ∀ c ∈ commands.map Prod.snd, c.Allowed C J E.rules

def Turn.Allowed (C : Contract EditCall) (J : Store → Prop) (t : Turn) : Prop := t.step.Allowed t.engine C J

theorem StoreCommand.Allowed.run {c : StoreCommand} {s : Store} (h : c.Allowed C J) (hC : C.Served J) (hs : J s) :
    J (c.run s).2 := by
  have hanswer {α : Type} (call : StoreCall α) (hcall : C.Asks (.store call)) : J (s.answer call).2 :=
    (hC.answer (.store call) s hcall hs).2
  cases c with
  | save key st => exact hanswer _ h
  | tryLoad key => exact (Edit.Keeps.tryLoad h).run hC hs
  | holds key => exact hs
  | delete key => exact hanswer _ h
  | appendHistory key change => exact hanswer _ h
  | listThreads => exact hanswer _ h
  | listKeys start => exact hanswer _ h
  | size => exact hs
  | plan kind p => exact h s hs

theorem Command.Allowed.run {c : Command} {w : World} (h : c.Allowed C J rules) (hC : C.Served J) (hw : J w.store) :
    J (c.run rules w).2.store := by
  cases c with
  | edit c => exact Edit.Keeps.run h hC hw
  | store c => exact StoreCommand.Allowed.run h hC hw
  | desk c => exact hw

/-- The invariant holds, and the commands that are still to happen are allowed. -/
structure Course.Keeps (C : Contract EditCall) (J : Store → Prop) (rules : EditRules) (c : Course) : Prop where
  stored : J c.world.store
  commands : ∀ a ∈ c.agenda, a.command.Allowed C J rules

theorem Course.Keeps.await {c : Course} (h : c.Keeps C J rules) (hC : C.Served J) (r : Request) (limit : Option Nat) :
    (c.await rules r limit).2.Keeps C J rules where
  stored := Course.await_keeps (J := fun w => J w.store) (fun a ha _ hw => (h.commands a ha).run hC hw)
    (fun _ _ hw => hw) (fun _ hw => hw) h.stored
  commands a ha := h.commands a (Course.agenda_of_await ha)

namespace Engine

variable {E : Engine} {c : Course} {α : Type}

theorem Calls.keeps {call : RunCall α} (h : E.Calls thread call) (hE : E.RunsKeep C thread) (hC : C.Served J)
    (hc : c.Keeps C J E.rules) : (call.answer E.rules E.registry c).2.Keeps C J E.rules := by
  cases call with
  | edit e => exact ⟨Edit.Keeps.run (hE _ h) hC hc.stored, hc.commands⟩
  | await r limit => exact hc.await hC r limit
  | _ => exact ⟨hc.stored, hc.commands⟩

theorem RunsOn.keeps {p : Run α} (h : E.RunsOn thread p) (hE : E.RunsKeep C thread) (hC : C.Served J)
    (hc : c.Keeps C J E.rules) : E.wp p (fun _ _ c' => c'.Keeps C J E.rules) c :=
  h.related (R := fun c c' => c.Keeps C J E.rules → c'.Keeps C J E.rules) (fun _ hc => hc)
    (fun h h' hc => h' (h hc)) (fun _ hm hc => hm.keeps hE hC hc) c hc

end Engine

namespace Turn

variable {t : Turn} {w : World} {turns : List Turn}

theorem next_keeps (ht : t.Allowed C J) (hC : C.Served J) (hw : J w.store) : J (t.next w).store := by
  obtain ⟨E, patience, s⟩ := t
  have hrun {α : Type} {thread : String} (p : Run α) {commands : List (Nat × Command)} (hp : E.RunsOn thread p)
      (h : E.RunsKeep C thread ∧ ∀ c ∈ commands.map Prod.snd, c.Allowed C J E.rules) :
      J (E.outcome p (.start patience w commands)).2.world.store := by
    have hstart : (Course.start patience w commands).Keeps C J E.rules :=
      ⟨hw, fun a ha => h.2 _ (Course.mem_start_agenda ha)⟩
    have hkeeps : E.wp p _ (.start patience w commands) := hp.keeps h.1 hC hstart
    exact hkeeps.stored
  cases s with
  | command c => exact Command.Allowed.run ht hC hw
  | together edits =>
    refine Edit.Keeps.runTogether (Q := fun _ => True) (fun e he => ?_) hC hw
    obtain ⟨c, hc, rfl⟩ := List.mem_map.1 he
    exact ht c hc
  | wait thread limit commands => exact hrun (Run.wait thread limit) (Engine.calls_wait limit) ht
  | invoke thread initial commands => exact hrun (E.invoke thread initial) (Engine.calls_invoke initial) ht
  | resume thread commands => exact hrun (E.resume thread) Engine.calls_resume ht

theorem after_keeps (hturns : ∀ t ∈ turns, t.Allowed C J) (hC : C.Served J) (hw : J w.store) :
    J (after turns w).store := by
  induction turns generalizing w with
  | nil => exact hw
  | cons t turns ih =>
    obtain ⟨ht, hturns⟩ := List.forall_mem_cons.1 hturns
    exact ih hturns (next_keeps ht hC hw)

end Turn
end GatedFlow
