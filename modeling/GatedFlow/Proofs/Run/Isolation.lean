import GatedFlow.Proofs.Approval.Isolation
import GatedFlow.Proofs.Edits.Keys
import GatedFlow.Proofs.Edits.Mutation
import GatedFlow.Proofs.Run.Calls

/-! # Runs and what belongs to a thread

A command or a run on a thread writes only keys that the thread owns and changes only the thread's own requests
(`World.OnlyFor`). While a run waits, commands for its thread may come; the request that it waits for is one it has made
itself. -/

namespace GatedFlow

variable {α : Type} {thread : String}

/-- A world is as it was but for what a thread owns. -/
structure World.OnlyFor (thread : String) (w w' : World) : Prop where
  store : w.store.SameAt (fun key => ¬Owns thread key) w'.store
  desk : w.desk.OnlyFor thread w'.desk

theorem World.OnlyFor.refl (w : World) : w.OnlyFor thread w := ⟨.refl _, .refl _⟩

theorem World.OnlyFor.trans {w w' w'' : World} (h : w.OnlyFor thread w') (h' : w'.OnlyFor thread w'') :
    w.OnlyFor thread w'' := ⟨h.store.trans h'.store, h.desk.trans h'.desk⟩

theorem Edit.Touches.frame {e : Edit α} (h : e.Touches (Owns thread)) (s : Store) :
    s.SameAt (fun key => ¬Owns thread key) (e.run s).2 :=
  h.run (Contract.frame_served (fun _ howns hnot => hnot howns) s) (.refl s)

/-- An edit for a thread, or for none. -/
def EditCommand.IsFor (thread : String) (c : EditCommand) : Prop := ∀ t, c.thread? = some t → t = thread

theorem EditCommand.IsFor.touches {c : EditCommand} (h : c.IsFor thread) (rules : EditRules) :
    (c.edit rules).Touches (Owns thread) := by
  refine EditCommand.touches rules c fun t ht key hkey => ?_
  rw [h t ht] at hkey
  exact hkey

/-- A direct call that writes only keys that a thread owns. -/
def StoreCommand.IsFor (thread : String) : StoreCommand → Prop
  | save key _ => Owns thread key
  | delete key => Owns thread key
  | appendHistory key _ => Owns thread key
  | _ => True

theorem Store.Idle.sameAt {K : String → Prop} {s s' : Store} (h : s.Idle s') : s.SameAt K s' :=
  fun _ _ => ⟨by rw [h.snapshots], by rw [h.ledgers]⟩

theorem tryLoad_frame {K : String → Prop} (key : String) (s : Store) : s.SameAt K ((Edit.tryLoad key).run s).2 := by
  obtain ⟨s', hidle, h | ⟨-, kind, h⟩⟩ := Edit.reads_tryLoad (s := s) key
  all_goals
    rw [h]
    exact hidle.sameAt

theorem listKeys_frame {K : String → Prop} (start : String) (s : Store) : s.SameAt K (s.answer (.listKeys start)).2 := by
  rcases s.answer_cases (.listKeys start) with h | ⟨h, -⟩ <;> rw [h] <;> exact .refl s

theorem StoreCommand.IsFor.frame {c : StoreCommand} (h : c.IsFor thread) (s : Store) :
    s.SameAt (fun key => ¬Owns thread key) (c.run s).2 := by
  cases c with
  | save key st => exact Edit.Touches.frame (Edit.touches_save h st) s
  | delete key => exact Edit.Touches.frame (Edit.touches_delete h) s
  | appendHistory key change => exact Edit.Touches.frame (Edit.touches_appendHistory h change) s
  | tryLoad key => exact tryLoad_frame key s
  | listThreads => exact listKeys_frame "" s
  | listKeys start => exact listKeys_frame start s
  | holds key => exact .refl s
  | size => exact .refl s
  | plan kind p => exact .refl s

/-- A command for a thread, or for none; a request that it means by its number is not one of another thread. -/
def Command.IsFor (thread : String) (d : Desk) : Command → Prop
  | edit c => c.IsFor thread
  | store c => c.IsFor thread
  | desk c => c.IsFor thread d

theorem Command.IsFor.later {c : Command} {d d' : Desk} (h : c.IsFor thread d) (hd : d.OnlyFor thread d') :
    c.IsFor thread d' := by
  cases c with
  | desk c => exact DeskCommand.IsFor.later h hd
  | _ => exact h

theorem Command.IsFor.onlyFor {c : Command} {w : World} (h : c.IsFor thread w.desk) (hw : w.desk.Sound) (rules : EditRules) :
    w.OnlyFor thread (c.run rules w).2 := by
  cases c with
  | edit c => exact ⟨(EditCommand.IsFor.touches h rules).frame w.store, .refl _⟩
  | store c => exact ⟨StoreCommand.IsFor.frame h w.store, .refl _⟩
  | desk c => exact ⟨.refl _, DeskCommand.run_onlyFor h hw⟩

/-- A course on a sound desk, whose commands are for a thread. -/
structure Course.IsFor (thread : String) (c : Course) : Prop where
  sound : c.world.desk.Sound
  commands : ∀ a ∈ c.agenda, a.command.IsFor thread c.world.desk

/-- A course in which nothing has happened but for a thread. -/
structure Course.OnlyFor (thread : String) (c c' : Course) : Prop where
  world : c.world.OnlyFor thread c'.world
  agenda : ∀ a ∈ c'.agenda, a ∈ c.agenda

namespace Course

variable {c c' c'' : Course}

theorem OnlyFor.refl (c : Course) : c.OnlyFor thread c := ⟨.refl _, fun _ ha => ha⟩

theorem OnlyFor.trans (h : c.OnlyFor thread c') (h' : c'.OnlyFor thread c'') : c.OnlyFor thread c'' :=
  ⟨h.world.trans h'.world, fun a ha => h.agenda a (h'.agenda a ha)⟩

theorem IsFor.later (h : c.IsFor thread) (h' : c.OnlyFor thread c') : c'.IsFor thread where
  sound := h'.world.desk.grows.sound h.sound
  commands a ha := (h.commands a (h'.agenda a ha)).later h'.world.desk

theorem onlyFor_withStore {s : Store} (h : c.world.store.SameAt (fun key => ¬Owns thread key) s) :
    c.OnlyFor thread (c.withStore s) := ⟨⟨h, .refl _⟩, fun _ ha => ha⟩

theorem onlyFor_withDesk {d : Desk} (h : c.world.desk.OnlyFor thread d) : c.OnlyFor thread (c.withDesk d) :=
  ⟨⟨.refl _, h⟩, fun _ ha => ha⟩

/-- A wait for a request of the thread. -/
theorem IsFor.await (h : c.IsFor thread) {r : Request} (hr : c.world.desk.IsOf thread r.record.id) (rules : EditRules)
    (limit : Option Nat) : c.OnlyFor thread (c.await rules r limit).2 where
  world := by
    refine await_keeps (J := fun w => c.world.OnlyFor thread w) (fun a ha w hw => ?_) (fun w time hw => ?_)
      (fun w hw => ?_) (.refl _)
    · exact hw.trans (((h.commands a ha).later hw.desk).onlyFor (hw.desk.grows.sound h.sound) rules)
    · exact ⟨hw.store, hw.desk.trans (.of_eq rfl rfl)⟩
    · exact ⟨hw.store, hw.desk.trans (Desk.resolve_onlyFor (hw.desk.isOf hr) .expire)⟩
  agenda _ ha := agenda_of_await ha

end Course

/-- A call that changes only what a thread owns, and does not wait. -/
def RunCall.IsFor (thread : String) : RunCall α → Prop
  | .edit e => e.Touches (Owns thread)
  | .createRequest t _ _ _ => t = thread
  | .cancelRequest t => t = thread
  | .await .. => False
  | _ => True

theorem RunCall.IsFor.onlyFor {call : RunCall α} {c : Course} (h : call.IsFor thread) (hc : c.IsFor thread)
    (rules : EditRules) (registry : Nat) : c.OnlyFor thread (call.answer rules registry c).2 := by
  cases call with
  | edit e => exact Course.onlyFor_withStore (Edit.Touches.frame h _)
  | askReason s node =>
    exact Course.onlyFor_withDesk (.of_eq (Desk.tellAll_requests ..) (congrArg Policy.current (Desk.tellAll_policy ..)))
  | createRequest t node reason timeout => cases h; exact Course.onlyFor_withDesk (Desk.createRequest_onlyFor ..)
  | cancelRequest t => cases h; exact Course.onlyFor_withDesk (Desk.cancelRequest_onlyFor hc.sound _)
  | tell events =>
    exact Course.onlyFor_withDesk (.of_eq (Desk.tellAll_requests ..) (congrArg Policy.current (Desk.tellAll_policy ..)))
  | await r limit => exact h.elim
  | currentRequest t => exact .refl c
  | latest r => exact .refl c
  | execute g node s => exact .refl c
  | next g node s => exact .refl c

namespace Engine

variable {E : Engine} {c : Course} {p : Run α}

theorem Calls.isFor {m : RunMoment} (h : E.Calls thread m.call) (hm : m.Clerical) : m.call.IsFor thread := by
  obtain ⟨call, answer, c⟩ := m
  cases h with
  | load => exact Edit.touches_loadState (owns_self thread)
  | loadForResume version => exact Edit.touches_loadForResume _ version
  | save st => exact Edit.touches_saveState st
  | modify updates => exact Edit.touches_mutate _
  | deleteField field => exact Edit.touches_mutate _
  | setStatus status => exact Edit.touches_setStatus status
  | createRequest node reason timeout => rfl
  | cancelRequest => rfl
  | await r limit => exact hm.elim
  | _ => trivial

theorem Only.onlyFor (h : E.Only (fun m => m.call.IsFor thread) p) (hc : c.IsFor thread) :
    E.wp p (fun _ _ c' => c.OnlyFor thread c') c := by
  have hrelated := h.related (R := fun c c' => c.IsFor thread → c.OnlyFor thread c') (fun c _ => .refl c)
    (fun h h' hc => (h hc).trans (h' (hc.later (h hc)))) (fun m hm hc => hm.onlyFor hc E.rules E.registry) c
  exact wp_mono hrelated fun _ _ _ h => h hc

/-- Where nothing is waited for and no node is carried out. -/
theorem RunsOn.onlyFor (h : E.RunsOn thread p) (hp : E.Only RunMoment.Clerical p) (hc : c.IsFor thread) :
    E.wp p (fun _ _ c' => c.OnlyFor thread c') c :=
  Only.onlyFor (fun c m hm => (h c m hm).isFor (hp c m hm)) hc

theorem load_onlyFor : c.OnlyFor thread (c.withStore ((Edit.loadState thread).run c.world.store).2) :=
  Course.onlyFor_withStore (Edit.Touches.frame (Edit.touches_loadState (owns_self thread)) _)

theorem perform_onlyFor {node : String} {s : State} (hc : c.IsFor thread) :
    E.wp (E.perform thread node s) (fun _ _ c' => c.OnlyFor thread c') c :=
  Only.onlyFor (only_perform (fun _ _ _ => trivial) (fun _ _ _ _ => trivial) (fun _ _ _ _ => trivial)
    (fun _ _ _ => Edit.touches_mutate _) s) hc

/-- A run waits for a request that it has made for its thread. -/
theorem awaitDecision_onlyFor {node : String} {request : Request} (hc : c.IsFor thread)
    (hrequest : c.world.desk.IsOf thread request.record.id) :
    E.wp (awaitDecision thread node request) (fun _ _ c' => c.OnlyFor thread c') c := by
  unfold awaitDecision
  rw [wp_bind, wp_await]
  have hawait := hc.await hrequest E.rules none
  rcases (c.await E.rules request none).1 with _ | (e | status)
  · exact hawait
  · exact hawait
  · refine wp_mono (Q := fun _ _ c' => (c.await E.rules request none).2.OnlyFor thread c') ?_ fun _ _ _ h => hawait.trans h
    refine Only.onlyFor ?_ (hc.later hawait)
    split
    · exact (only_ofCall fun _ _ => rfl).bind fun _ => only_pure _
    · exact (only_ofCall fun _ _ => trivial).bind fun _ => only_pure _

theorem gate_onlyFor {node : String} {s : State} {rest : List String} (hc : c.IsFor thread) :
    E.wp (E.gate thread node s rest) (fun _ _ c' => c.OnlyFor thread c') c := by
  have hasked : ∀ {d request}, c.world.desk.Asked d thread node request →
      c.OnlyFor thread (c.withDesk d) ∧ d.IsOf thread request.record.id := fun {d request} h => by
    refine ⟨Course.onlyFor_withDesk (.of_append h.id_eq h.thread_eq h.requests (.inr (h.id_eq ▸ h.others))), fun r hr => ?_⟩
    rw [Desk.request?, h.requests, h.id_eq, List.getElem?_concat_length, Option.some.injEq] at hr
    rw [← hr, h.thread_eq]
  refine wp_gate (fun _ tr d hpolicy hrequests => ?_) (fun _ tr d request h => ?_) fun _ tr d request h => ?_
  · exact Course.onlyFor_withDesk (.of_eq hrequests (congrArg Policy.current hpolicy))
  · obtain ⟨honly, -⟩ := hasked h
    refine wp_mono ?_ fun _ _ _ h => honly.trans h
    exact RunsOn.onlyFor (calls_pause node rest request) (clerical_pause thread node rest request) (hc.later honly)
  · obtain ⟨honly, hrequest⟩ := hasked h
    exact wp_mono (awaitDecision_onlyFor (hc.later honly) hrequest) fun _ _ _ h => honly.trans h

theorem drive_onlyFor {left : Nat} {frontier visited : List String} {approved : Option String} (hc : c.IsFor thread) :
    E.wp (E.drive thread left frontier approved visited) (fun _ _ c' => c.OnlyFor thread c') c := by
  have hgate : ∀ node s rest c₁, c.OnlyFor thread c₁ →
      E.wp (E.gate thread node s rest) (fun _ _ c' => c.OnlyFor thread c') c₁ := fun node s rest c₁ h =>
    wp_mono (gate_onlyFor (hc.later h)) fun _ _ _ h' => h.trans h'
  refine drive_keeps ⟨fun c₁ h => h.trans load_onlyFor, fun node s rest c₁ h => ?_, fun node s c₁ h => ?_⟩
    hgate left frontier (.refl c)
  · exact wp_mono (hgate node s rest c₁ h) fun _ _ _ h _ => h
  · exact wp_mono (perform_onlyFor (hc.later h)) fun _ _ _ h' => h.trans h'

/-- What a first part leaves to a thread, the rest goes on with. -/
theorem bind_onlyFor {β : Type} {f : α → Run β} (hc : c.IsFor thread) (hp : E.wp p (fun _ _ c' => c.OnlyFor thread c') c)
    (hf : ∀ a c, c.IsFor thread → E.wp (f a) (fun _ _ c' => c.OnlyFor thread c') c) :
    E.wp (p >>= f) (fun _ _ c' => c.OnlyFor thread c') c := by
  rw [wp_bind]
  refine wp_mono hp fun tr r c₁ h => ?_
  rcases r with _ | (e | a)
  · exact h
  · exact h
  · exact wp_mono (hf a c₁ (hc.later h)) fun _ _ _ h' => h.trans h'

theorem invoke_onlyFor {initial : State} (hc : c.IsFor thread) :
    E.wp (E.invoke thread initial) (fun _ _ c' => c.OnlyFor thread c') c := by
  rw [invoke_eq]
  refine bind_onlyFor hc (Only.onlyFor ?_ hc) fun _ c₁ hc₁ => drive_onlyFor hc₁
  exact (only_ofExcept _).bind fun _ => only_ofEdit fun _ _ => Edit.touches_saveState _

theorem resume_onlyFor (hc : c.IsFor thread) : E.wp (E.resume thread) (fun _ _ c' => c.OnlyFor thread c') c := by
  refine bind_onlyFor hc (RunsOn.onlyFor calls_prepare (clerical_prepare thread) hc) fun resumption c₁ hc₁ => ?_
  split
  · exact .refl c₁
  · exact drive_onlyFor hc₁

theorem wait_onlyFor {limit : Option Nat} (hc : c.IsFor thread) :
    E.wp (Run.wait thread limit) (fun _ _ c' => c.OnlyFor thread c') c := by
  unfold Run.wait
  rw [wp_bind, wp_currentRequest]
  rcases hcurrent : c.world.desk.current? thread with _ | request
  · exact .refl c
  dsimp only
  rw [wp_await]
  refine hc.await (fun r hr => ?_) E.rules limit
  obtain ⟨id, hid, hrequest⟩ := Option.bind_eq_some_iff.1 hcurrent
  rw [hc.sound.numbered id request hrequest] at hr
  exact hc.sound.isOf_current hid r hr

end Engine
end GatedFlow
