import GatedFlow.Proofs.Graph.Drafts
import GatedFlow.Proofs.Run.Apart
import GatedFlow.Proofs.Run.Mirror

/-! # Runs that find every node

Off declared nodes a run comes to declared nodes only, and it finds all of them (`drive_finds`). So does a run that is
resumed, if what is kept for its thread and the request for it name declared nodes (`Graph.Names`). A run leaves it so,
since it keeps and asks for what it comes to, as long as the nodes themselves keep no others (`drive_names`). -/

namespace GatedFlow

/-- An error that tells of a node that is not there. -/
def FlowError.isLost : FlowError → Bool
  | noNode _ => true
  | _ => false

namespace FlowError

theorem OfStore.found {e : FlowError} (h : e.OfStore) : e.isLost = false := by
  obtain ⟨p, rfl, -⟩ := h
  rfl

theorem found_of_early {e : FlowError} (h : e.OfStore ∨ e.refuses = true) : e.isLost = false := by
  rcases h with h | h
  · exact h.found
  · cases e with
    | noNode name => cases h
    | _ => rfl

end FlowError

namespace Graph

variable {g : Graph} {node : String} {s : State} {e : FlowError}

/-- Every declared node is found. -/
def Finds (g : Graph) : Prop := ∀ name, g.declares name = true → (g.node? name).isSome

theorem finds_of_build {d : Draft} (h : d.build = .ok g) : g.Finds := by
  obtain ⟨entry, rfl⟩ := Draft.ofParts_of_build h
  intro name hname
  obtain ⟨n, hn, -⟩ := node?_ofParts hname
  exact Option.isSome_iff_exists.2 ⟨n, hn⟩

theorem found_of_execute (hfinds : g.Finds) (hnode : g.declares node = true) (h : g.execute node s = .error e) :
    e.isLost = false := by
  obtain ⟨n, hn⟩ := Option.isSome_iff_exists.1 (hfinds node hnode)
  unfold execute at h
  rw [hn] at h
  dsimp only at h
  cases haction : n.action s with
  | ok update => rw [haction] at h; cases h
  | error text => rw [haction] at h; cases h; rfl

theorem next_of_declared (hnode : g.declares node = true) (s : State) : ∃ targets, g.next node s = .ok targets := by
  have hrequire : g.require node = .ok () := if_pos hnode
  unfold next traversable outgoing
  rw [hrequire]
  cases g.routers.get? node with
  | some r => exact ⟨_, rfl⟩
  | none => exact ⟨_, rfl⟩

end Graph

namespace Engine

variable {E : Engine} {c c' : Course} {thread node : String} {rest : List String} {s : State} {tr : List RunMoment}

/-- No error of this part of a run tells of a node that is not there. -/
def FindsAll {α : Type} (E : Engine) (p : Run α) : Prop := E.Fails (fun e => e.isLost = false) p

theorem awaitDecision_finds (request : Request) : E.FindsAll (awaitDecision thread node request) := by
  have hawait : E.FindsAll (Run.ofTry (.await request none)) := .ofTry fun c e he => by
    obtain ⟨limit, rfl⟩ := Course.eq_of_await he
    rfl
  refine hawait.bind fun status => ?_
  split
  · exact (Fails.ofCall _).bind fun _ => .pure _
  · exact (Fails.ofCall _).bind fun _ => .pure _

theorem gate_finds (thread node : String) (s : State) (rest : List String) : E.FindsAll (E.gate thread node s rest) := by
  refine (Fails.ofCall _).bind fun reason? => ?_
  split
  · exact .pure _
  · refine (Fails.ofCall _).bind fun request => ?_
    split
    · exact ((pause_fails rest request).mono fun _ h => h.found).bind fun _ => .pure _
    · exact awaitDecision_finds request

theorem perform_finds (hfinds : E.graph.Finds) (hnode : E.graph.declares node = true) (s : State) :
    E.FindsAll (E.perform thread node s) := by
  refine (Fails.ofCall _).bind fun _ => Fails.bind ?_ fun update => Fails.bind ?_ fun s' => (Fails.ofCall _).bind fun _ =>
    Fails.bind ?_ fun targets => (Fails.ofCall _).bind fun _ => .pure _
  · exact .ofTry fun c e he => Graph.found_of_execute hfinds hnode (Option.some.inj he)
  · unfold mergeUpdate
    split
    · exact .pure _
    · exact (Fails.ofEdit (.modify _ _ _)).mono fun _ h => h.found
  · refine .ofTry fun c e he => ?_
    obtain ⟨targets, htargets⟩ := Graph.next_of_declared hnode s'
    cases (Option.some.inj he).symm.trans htargets

/-- The rounds of a run off declared nodes. -/
theorem Rounds.finds (hclosed : E.graph.Closed) (hfinds : E.graph.Finds) {left : Nat} {frontier visited : List String}
    {approved : Option String} {r : Option (Except FlowError Outcome)}
    (h : E.Rounds thread left frontier approved visited c tr r c')
    (hfrontier : ∀ node ∈ frontier, E.graph.declares node = true) : ∀ e, r = some (.error e) → e.isLost = false := by
  induction h with
  | unread hload =>
    rintro _ ⟨⟩
    rfl
  | completed hload => rintro _ ⟨⟩
  | @stopped left node rest visited approved c c' s store r hasked hload hgate =>
    rintro e rfl
    exact (wp_iff_of_outcome hgate).1 (gate_finds thread node s rest (c.withStore store)) e rfl
  | exhausted hpass =>
    rintro _ ⟨⟩
    rfl
  | @broken left node rest visited approved c c₁ c' s tr e? hpass hperform =>
    rintro e he
    have hnode := hfrontier node List.mem_cons_self
    refine (wp_iff_of_outcome hperform).1 (perform_finds hfinds hnode s c₁) e ?_
    cases e? <;> cases he
    rfl
  | @round left node rest targets visited approved c c₁ c₂ c' s tr tr' r hpass hperform _ ih =>
    obtain ⟨-, s', hs'⟩ := (wp_iff_of_outcome hperform).1 (perform_goes thread node s c₁) targets rfl
    refine ih fun n hn => ?_
    rcases mem_joinFrontier.1 hn with hrest | htarget
    · exact hfrontier n (List.mem_cons_of_mem _ hrest)
    · exact hclosed.next node s' targets hs' n htarget

theorem drive_finds (hclosed : E.graph.Closed) (hfinds : E.graph.Finds) {left : Nat} {frontier visited : List String}
    {approved : Option String} (hfrontier : ∀ node ∈ frontier, E.graph.declares node = true) :
    E.wp (E.drive thread left frontier approved visited) (fun _ r _ => ∀ e, r = some (.error e) → e.isLost = false) c :=
  wp_mono (drive_rounds left frontier approved visited c) fun _ _ _ h => h.finds hclosed hfinds hfrontier

/-- A new run begins at the entry point, which is declared. -/
theorem invoke_finds (hclosed : E.graph.Closed) (hfinds : E.graph.Finds) (thread : String) (initial : State) :
    E.FindsAll (E.invoke thread initial) := by
  rw [invoke_eq]
  refine ((seed_fails thread initial).mono fun _ h => FlowError.found_of_early h).bind fun _ c => ?_
  refine drive_finds hclosed hfinds fun n hn => ?_
  rw [List.mem_singleton.1 hn]
  exact hclosed.entry

end Engine

/-- Nothing but what a thread has is kept for it, and no other request than the one that it has is made for it. -/
structure World.Unsteered (thread : String) (w w' : World) : Prop where
  pending : ∀ value, pendingIn w'.store.snapshots thread = some value → pendingIn w.store.snapshots thread = some value
  unasked : w.desk.Unasked thread w'.desk

namespace World.Unsteered

variable {thread : String} {w w' w'' : World}

theorem refl (w : World) : w.Unsteered thread w := ⟨fun _ h => h, .refl _⟩

theorem trans (h : w.Unsteered thread w') (h' : w'.Unsteered thread w'') : w.Unsteered thread w'' :=
  ⟨fun value hvalue => h.pending value (h'.pending value hvalue), h.unasked.trans h'.unasked⟩

theorem of_untouched (h : w.Untouched thread w') : w.Unsteered thread w' := by
  refine ⟨fun value hvalue => ?_, h.unasked⟩
  rwa [pendingIn, h.stored] at hvalue

end World.Unsteered

/-- A command that keeps nothing new for a thread and makes no request for it. -/
def Command.Unsteered (rules : EditRules) (thread : String) (command : Command) : Prop :=
  ∀ w : World, w.Unsteered thread (command.run rules w).2

/-- What is kept for a thread and what its current request asks about are declared nodes. -/
structure Graph.Names (g : Graph) (thread : String) (w : World) : Prop where
  kept : ∀ node ∈ keptOf (pendingIn w.store.snapshots thread), g.declares node = true
  request : ∀ id, w.desk.policy.current.get? thread = some id →
    ∃ r, w.desk.request? id = some r ∧ g.declares r.record.node = true

namespace Graph.Names

variable {g : Graph} {thread : String} {w w' : World}

theorem of_nothing (hpending : pendingIn w.store.snapshots thread = none)
    (hcurrent : w.desk.policy.current.get? thread = none) : g.Names thread w where
  kept node hnode := by
    rw [hpending] at hnode
    cases hnode
  request id hid := by
    rw [hcurrent] at hid
    cases hid

theorem unsteered (h : g.Names thread w) (hsame : w.Unsteered thread w') (hgrows : w.desk.Grows w'.desk) :
    g.Names thread w' where
  kept node hnode := by
    cases hpending : pendingIn w'.store.snapshots thread with
    | none =>
      rw [hpending] at hnode
      cases hnode
    | some value =>
      rw [hpending] at hnode
      refine h.kept node ?_
      rwa [hsame.pending value hpending]
  request id hid := by
    obtain ⟨r, hr, hnode⟩ := h.request id (hsame.unasked id hid)
    obtain ⟨r', hr', hlater⟩ := hgrows.kept id r hr
    exact ⟨r', hr', by rwa [hlater.node_eq]⟩

/-- What is kept has changed to declared nodes, and the desk has not. -/
theorem withStore {store : Store} (h : g.Names thread w)
    (hkept : ∀ node ∈ keptOf (pendingIn store.snapshots thread), g.declares node = true) :
    g.Names thread { w with store } := ⟨hkept, h.request⟩

theorem withDesk {d : Desk} (h : g.Names thread w) (hpolicy : d.policy = w.desk.policy)
    (hrequests : d.requests = w.desk.requests) : g.Names thread { w with desk := d } where
  kept := h.kept
  request id hid := by
    rw [hpolicy] at hid
    obtain ⟨r, hr, hnode⟩ := h.request id hid
    refine ⟨r, ?_, hnode⟩
    rwa [Desk.request?, hrequests]

end Graph.Names

/-- What a thread names is declared, and no command that is still to come steers it. -/
structure Course.Names (g : Graph) (rules : EditRules) (thread : String) (c : Course) : Prop where
  names : g.Names thread c.world
  agenda : ∀ a ∈ c.agenda, a.command.Unsteered rules thread

theorem Course.await_unsteered {rules : EditRules} {thread : String} {c : Course}
    (hagenda : ∀ a ∈ c.agenda, a.command.Unsteered rules thread) (r : Request) (limit : Option Nat) :
    c.world.Unsteered thread (c.await rules r limit).2.world :=
  Course.await_keeps (J := fun w => c.world.Unsteered thread w) (fun a ha w hw => hw.trans (hagenda a ha w))
    (fun _ _ hw => ⟨hw.pending, hw.unasked⟩) (fun _ hw => ⟨hw.pending, hw.unasked.trans (.of_policy (Desk.resolve_policy ..))⟩)
    (.refl _)

namespace Engine

variable {E : Engine} {g : Graph} {c c' : Course} {thread node : String} {rest : List String} {s : State}

theorem mergeUpdate_names {update : Fields} (hupdate : ∀ node ∈ keptOf (update.get? pendingField), g.declares node = true)
    (hc : c.Names g E.rules thread) :
    E.wp (E.mergeUpdate thread s update) (fun _ _ c' => c'.Names g E.rules thread) c := by
  unfold mergeUpdate
  split
  · exact hc
  · have hdoes : (Edit.modify E.rules.schema thread update).Does c.world.store False _ := Edit.does_modify False.elim
    rw [← bind_pure (Run.ofEdit _)]
    refine wp_edit_cases hdoes (fun st store _ h => ⟨hc.names.withStore ?_, hc.agenda⟩)
      fun p store _ h _ => ⟨hc.names.withStore ?_, hc.agenda⟩
    · obtain ⟨s₀, hs₀, rfl, hsnapshots⟩ := h
      rw [hsnapshots, pendingIn_insert]
      show ∀ node ∈ keptOf ((s₀.fields.merge update).get? pendingField), g.declares node = true
      cases hpending : update.get? pendingField with
      | none =>
        rw [Record.get?_merge_of_none hpending]
        have hkept := hc.names.kept
        rwa [pendingIn_of_get? hs₀] at hkept
      | some value =>
        rw [Record.get?_merge_of_some hpending, ← hpending]
        exact hupdate
    · rw [h]
      exact hc.names.kept

theorem tell_names {events : List Event} (hc : c.Names g E.rules thread) :
    (c.withDesk (c.world.desk.tellAll E.registry events)).Names g E.rules thread :=
  ⟨hc.names.withDesk (Desk.tellAll_policy ..) (Desk.tellAll_requests ..), hc.agenda⟩

theorem perform_names (hupdates : ∀ node s update, E.graph.execute node s = .ok update →
      ∀ n ∈ keptOf (update.get? pendingField), g.declares n = true) (hc : c.Names g E.rules thread) :
    E.wp (E.perform thread node s) (fun _ _ c' => c'.Names g E.rules thread) c := by
  unfold perform
  rw [wp_bind, wp_tell]
  dsimp only
  rw [wp_bind, wp_execute]
  rcases hexecute : E.graph.execute node s with e | update
  · exact tell_names hc
  dsimp only
  rw [wp_bind]
  refine wp_mono (mergeUpdate_names (hupdates node s update hexecute) (tell_names hc)) fun _ r c₁ h => ?_
  rcases r with _ | (e | s')
  · exact h
  · exact h
  dsimp only
  rw [wp_bind, wp_tell]
  dsimp only
  rw [wp_bind, wp_next]
  rcases E.graph.next node s' with e | targets
  · exact tell_names h
  · dsimp only
    rw [wp_bind, wp_tell]
    exact tell_names (tell_names h)

/-- A wait that is over has left what is kept and the request that was waited for, or less. -/
theorem awaitDecision_unsteered {request : Request} (hagenda : ∀ a ∈ c.agenda, a.command.Unsteered E.rules thread) :
    E.wp (awaitDecision thread node request) (fun _ r c' => c.world.Unsteered thread c'.world ∧
      (∀ a ∈ c'.agenda, a.command.Unsteered E.rules thread) ∧
      (r = some (.ok none) → c'.world.desk.policy.current.get? thread = none)) c := by
  have hawait := Course.await_unsteered hagenda request none
  have hlater : ∀ a ∈ (c.await E.rules request none).2.agenda, a.command.Unsteered E.rules thread :=
    fun a ha => hagenda a (Course.agenda_of_await ha)
  refine wp_mono awaitDecision_spec fun _ r c' h => ?_
  rcases r with _ | (e | (_ | outcome))
  · rw [h]
    exact ⟨hawait, hlater, fun h => by cases h⟩
  · rw [h]
    exact ⟨hawait, hlater, fun h => by cases h⟩
  · rw [h]
    refine ⟨⟨hawait.pending, hawait.unasked.trans (.cancelRequest _ _)⟩, hlater, fun _ => ?_⟩
    rw [Course.withDesk_desk, Desk.cancelRequest_current, if_pos rfl]
  · obtain ⟨status, hstatus, -⟩ := h
    rw [hstatus] at hawait hlater
    exact ⟨hawait, hlater, fun h => by cases h⟩

/-- From gate to gate a run names declared nodes. A request that it waits for at a gate that it passes is withdrawn. -/
theorem kept_names (hupdates : ∀ node s update, E.graph.execute node s = .ok update →
      ∀ n ∈ keptOf (update.get? pendingField), g.declares n = true) : E.Kept thread (Course.Names g E.rules thread) where
  load c hc := by
    have hload : E.wp (Run.ofEdit (Edit.loadState thread) >>= pure) (fun _ _ c' => c'.Names g E.rules thread) c :=
      wp_edit_cases (Edit.does_loadState False.elim)
        (fun _ _ _ h => ⟨hc.names.withStore (h.2 ▸ hc.names.kept), hc.agenda⟩)
        fun _ _ _ h _ => ⟨hc.names.withStore (h ▸ hc.names.kept), hc.agenda⟩
    rw [bind_pure] at hload
    exact hload
  pass node s rest c hc := by
    refine wp_gate (fun _ _ d hpolicy hrequests _ => ⟨hc.names.withDesk hpolicy hrequests, hc.agenda⟩)
      (fun _ _ d r₀ _ => ?_) fun _ _ d r₀ _ => ?_
    · refine wp_mono pause_interrupts fun _ r _ _ hr => ?_
      rcases r with _ | (e | outcome) <;> cases hr
    · refine wp_mono (awaitDecision_unsteered (c := c.withDesk d) hc.agenda) fun _ r c' h hr => ?_
      obtain ⟨hsame, hagenda, hcancelled⟩ := h
      refine ⟨⟨fun n hn => ?_, fun id hid => ?_⟩, hagenda⟩
      · cases hpending : pendingIn c'.world.store.snapshots thread with
        | none =>
          rw [hpending] at hn
          cases hn
        | some value =>
          have hbefore : pendingIn c.world.store.snapshots thread = some value := hsame.pending value hpending
          refine hc.names.kept n ?_
          rwa [hbefore, ← hpending]
      · rw [hcancelled hr] at hid
        cases hid
  perform node s c hc := perform_names hupdates hc

/-- At the gate of a declared node a run names declared nodes, also if it ends there. -/
theorem gate_names (hc : c.Names g E.rules thread) (hfrontier : ∀ n ∈ node :: rest, g.declares n = true) :
    E.wp (E.gate thread node s rest) (fun _ _ c' => g.Names thread c'.world) c := by
  have hasked : ∀ d request, c.world.desk.Asked d thread node request → g.Names thread (c.withDesk d).world := by
    intro d request h
    refine ⟨hc.names.kept, fun id hid => ⟨request, ?_, ?_⟩⟩
    · obtain rfl : request.record.id = id := Option.some.inj (h.current.symm.trans hid)
      exact h.found
    · rw [h.node_eq]
      exact hfrontier node List.mem_cons_self
  refine wp_gate (fun _ _ d hpolicy hrequests => hc.names.withDesk hpolicy hrequests) (fun _ _ d r₀ h => ?_)
    fun _ _ d r₀ h => ?_
  · refine wp_mono (pause_pending (c := c.withDesk d)) fun _ r c' hpause => ?_
    obtain ⟨hdesk, hkeeps, hfails⟩ := hpause
    refine ⟨?_, by rw [hdesk]; exact (hasked d r₀ h).request⟩
    by_cases hk : E.Keeps thread (node :: rest) c.world.store
    · rw [hkeeps hk, keptOf_frontierValue]
      exact hfrontier
    · rw [hfails hk]
      exact hc.names.kept
  · refine wp_mono (wp_grows (awaitDecision_unsteered (c := c.withDesk d) hc.agenda)) fun _ r c' hwait => ?_
    exact (hasked d r₀ h).unsteered hwait.1.1 hwait.2

theorem Rounds.names {tr : List RunMoment} (hclosed : E.graph.Closed)
    (hkept : E.Kept thread (Course.Names E.graph E.rules thread)) {left : Nat} {frontier visited : List String}
    {approved : Option String} {r : Option (Except FlowError Outcome)}
    (h : E.Rounds thread left frontier approved visited c tr r c') (hc : c.Names E.graph E.rules thread)
    (hfrontier : ∀ n ∈ frontier, E.graph.declares n = true) : E.graph.Names thread c'.world := by
  induction h with
  | unread hload => exact (hkept.loaded hload hc).names
  | completed hload => exact (hkept.loaded hload hc).names
  | @stopped left node rest visited approved c c' s store r hasked hload hgate =>
    exact (wp_iff_of_outcome hgate).1 (gate_names (hkept.loaded hload hc) hfrontier)
  | exhausted hpass => exact (hpass.kept hkept hc).names
  | broken hpass hperform => exact (hkept.performed hperform (hpass.kept hkept hc)).names
  | @round left node rest targets visited approved c c₁ c₂ c' s tr tr' r hpass hperform _ ih =>
    obtain ⟨-, s', hs'⟩ := (wp_iff_of_outcome hperform).1 (perform_goes thread node s c₁) targets rfl
    refine ih (hkept.performed hperform (hpass.kept hkept hc)) fun n hn => ?_
    rcases mem_joinFrontier.1 hn with hrest | htarget
    · exact hfrontier n (List.mem_cons_of_mem _ hrest)
    · exact hclosed.next node s' targets hs' n htarget

/-- A run off declared nodes leaves what names declared nodes. -/
theorem drive_names (hclosed : E.graph.Closed) (hupdates : ∀ node s update, E.graph.execute node s = .ok update →
      ∀ n ∈ keptOf (update.get? pendingField), E.graph.declares n = true) {left : Nat} {frontier visited : List String}
    {approved : Option String} (hc : c.Names E.graph E.rules thread)
    (hfrontier : ∀ n ∈ frontier, E.graph.declares n = true) :
    E.wp (E.drive thread left frontier approved visited) (fun _ _ c' => E.graph.Names thread c'.world) c :=
  wp_mono (drive_rounds left frontier approved visited c) fun _ _ _ h => h.names hclosed (kept_names hupdates) hc hfrontier

theorem invoke_names (hclosed : E.graph.Closed) (hupdates : ∀ node s update, E.graph.execute node s = .ok update →
      ∀ n ∈ keptOf (update.get? pendingField), E.graph.declares n = true) (initial : State)
    (hc : c.Names E.graph E.rules thread) :
    E.wp (E.invoke thread initial) (fun _ _ c' => E.graph.Names thread c'.world) c := by
  rw [invoke_eq, wp_bind]
  refine wp_mono seed_spec fun tr r c₁ h => ?_
  obtain ⟨store, rfl, hstored⟩ := h
  rcases r with _ | (e | u)
  · exact hc.names.withStore (hstored ▸ hc.names.kept)
  · exact hc.names.withStore (hstored ▸ hc.names.kept)
  · have hnone : pendingIn store.snapshots thread = none := by
      rw [hstored, pendingIn_insert, State.get?_remove, if_pos rfl]
    have hseeded : E.graph.Names thread (c.withStore store).world := hc.names.withStore (by rw [hnone]; rintro _ ⟨⟩)
    refine drive_names hclosed hupdates ⟨hseeded, hc.agenda⟩ fun n hn => ?_
    rw [List.mem_singleton.1 hn]
    exact hclosed.entry

end Engine

/-- What resuming does before any node gives a thread no request and lets nothing else happen. -/
theorem RunMoment.Settles.unasked {m : RunMoment} (h : m.Settles) (thread : String) (rules : EditRules) (registry : Nat) :
    m.before.world.desk.Unasked thread (m.call.answer rules registry m.before).2.world.desk ∧
      (m.call.answer rules registry m.before).2.agenda = m.before.agenda := by
  obtain ⟨call, answer, c⟩ := m
  cases call with
  | edit e => exact ⟨.refl _, rfl⟩
  | currentRequest t => exact ⟨.refl _, rfl⟩
  | latest r => exact ⟨.refl _, rfl⟩
  | cancelRequest t => exact ⟨.cancelRequest _ _, rfl⟩
  | _ => exact h.elim

namespace Engine

variable {E : Engine} {c : Course} {thread : String}

theorem prepare_unsteered : E.wp (E.prepare thread) (fun _ _ c' => c.world.Unsteered thread c'.world ∧
    c'.agenda = c.agenda) c := by
  have hrelated := (settles_prepare (E := E) thread).related
    (R := fun c c' => c.world.desk.Unasked thread c'.world.desk ∧ c'.agenda = c.agenda) (fun _ => ⟨.refl _, rfl⟩)
    (fun h h' => ⟨h.1.trans h'.1, h'.2.trans h.2⟩) (fun _ hm => hm.unasked thread E.rules E.registry) c
  refine wp_mono (wp_and prepare_pending hrelated) fun _ _ c' h => ?_
  obtain ⟨⟨hunclaimed, hclaimed, -⟩, hunasked, hagenda⟩ := h
  refine ⟨⟨fun value hvalue => ?_, hunasked⟩, hagenda⟩
  by_cases hclaims : E.Claims thread c
  · cases hvalue.symm.trans (hclaimed hclaims)
  · exact (hunclaimed hclaims).symm.trans hvalue

/-- A run that is resumed begins with declared nodes if the thread names none but those. -/
theorem prepare_begins (hnames : E.graph.Names thread c.world) : E.wp (E.prepare thread) (fun _ r _ =>
    ∀ node frontier, r = some (.ok (.ready node frontier)) → ∀ n ∈ frontier, E.graph.declares n = true) c := by
  refine wp_mono prepare_pending fun _ r c' h node frontier hready n hn => ?_
  obtain ⟨request, kept, hcurrent, rfl, rfl, rfl⟩ := h.2.2 node frontier hready
  split at hn
  · obtain ⟨id, hid, hr⟩ := Option.bind_eq_some_iff.1 hcurrent
    obtain ⟨r₀, hr₀, hdeclared⟩ := hnames.request id hid
    obtain rfl : r₀ = request := Option.some.inj (hr₀.symm.trans hr)
    rwa [List.mem_singleton.1 hn]
  · exact hnames.kept n hn

/-- A run that is resumed finds every node if the thread names declared nodes. -/
theorem resume_finds (hclosed : E.graph.Closed) (hfinds : E.graph.Finds) (hnames : E.graph.Names thread c.world) :
    E.wp (E.resume thread) (fun _ r _ => ∀ e, r = some (.error e) → e.isLost = false) c := by
  unfold resume
  rw [wp_bind]
  refine wp_mono (wp_and (prepare_begins hnames) (prepare_fails thread c)) fun _ r c₁ h => ?_
  obtain ⟨hbegins, hfails⟩ := h
  rcases r with _ | (e | (outcome | ⟨node, frontier⟩))
  · rintro _ ⟨⟩
  · rintro _ ⟨⟩
    exact FlowError.found_of_early (hfails e rfl)
  · rintro _ ⟨⟩
  · exact drive_finds hclosed hfinds (hbegins node frontier rfl)

theorem resume_names (hclosed : E.graph.Closed) (hupdates : ∀ node s update, E.graph.execute node s = .ok update →
      ∀ n ∈ keptOf (update.get? pendingField), E.graph.declares n = true) (hc : c.Names E.graph E.rules thread) :
    E.wp (E.resume thread) (fun _ _ c' => E.graph.Names thread c'.world) c := by
  unfold resume
  rw [wp_bind]
  refine wp_mono (wp_grows (wp_and (prepare_begins hc.names) prepare_unsteered)) fun _ r c₁ h => ?_
  obtain ⟨⟨hbegins, hsame, hagenda⟩, hgrows⟩ := h
  have hnames : E.graph.Names thread c₁.world := hc.names.unsteered hsame hgrows
  rcases r with _ | (e | (outcome | ⟨node, frontier⟩))
  · exact hnames
  · exact hnames
  · exact hnames
  · exact drive_names hclosed hupdates ⟨hnames, hagenda ▸ hc.agenda⟩ (hbegins node frontier rfl)

end Engine
end GatedFlow
