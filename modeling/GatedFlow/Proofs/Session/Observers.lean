import GatedFlow.Proofs.Approval.Connected
import GatedFlow.Proofs.Observer.Shared
import GatedFlow.Proofs.Session.Attempts
import GatedFlow.Proofs.Session.Earlier
import GatedFlow.Proofs.Session.Views

/-! # Observers only observe

An engine is connected with a policy by having the policy share the registry of its graph (`World.connect`). From then
on all that runs, commands and timers tell is told to that registry (`Engine.tells_steps`), as long as no earlier request
is decided. Whatever observers there are, a session that decides on later requests only comes to the same, and each observer
of the graph or of the policy records the same events, each once and in order (`observers_only_observe`). -/

namespace GatedFlow

variable {registry old : Nat}

/-! ## What sessions tell -/

theorem Command.tells (c : Command) (rules : EditRules) (w : World) :
    Desk.Tells registry old w.desk (c.notices w) (c.run rules w).2.desk := by
  cases c with
  | edit e => exact .refl _
  | store s => exact .refl _
  | desk c => exact w.desk.tells_deskCommand c

theorem World.tells_after (rules : EditRules) (agenda : List Appointment) (w : World) :
    Desk.Tells registry old w.desk (World.agendaNotices rules agenda w) (w.after rules agenda).desk := by
  induction agenda generalizing w with
  | nil => exact .refl _
  | cons a rest ih =>
    have hcommand : Desk.Tells registry old w.desk (a.command.notices (w.advanceTo a.due))
        (a.command.run rules (w.advanceTo a.due)).2.desk :=
      (w.desk.tells_advanceTo a.due).trans (a.command.tells rules (w.advanceTo a.due))
    exact hcommand.trans (ih _)

theorem Course.tells_await (rules : EditRules) (r : Request) (limit : Option Nat) (c : Course) :
    Desk.Tells registry old c.world.desk (c.awaitNotices rules r limit) (c.await rules r limit).2.world.desk := by
  obtain ⟨happened, wake, hagenda, hends, -⟩ := c.await_ends rules r limit
  unfold awaitNotices
  rw [happened_eq hagenda]
  refine (World.tells_after rules happened c.world).trans ?_
  generalize c.world.after rules happened = w at hends
  generalize (c.await rules r limit).1 = result at hends
  generalize (c.await rules r limit).2.world = w' at hends
  cases hends with
  | decided h =>
    -- its timer has nothing to tell any more
    obtain ⟨r', hr', rfl, ht⟩ := World.decision?_eq_some_iff.1 h
    rw [Option.isSome_some, if_pos rfl, Desk.resolveNotices_of_request hr', if_pos ht]
    exact .refl _
  | timeUp time hlimit =>
    rw [Option.isSome_some, if_pos rfl, Desk.timeUp_snd, ← Desk.resolveNotices_advanceTo w.desk time]
    exact (w.desk.tells_advanceTo time).trans ((w.desk.advanceTo time).tells_resolve r.record.id .expire)
  | never time => exact w.desk.tells_advanceTo time

theorem RunCall.tells {α : Type} (rules : EditRules) (call : RunCall α) (c : Course) :
    Desk.Tells registry old c.world.desk (call.notices rules registry c) (call.answer rules registry c).2.world.desk := by
  cases call with
  | askReason s node => exact c.world.desk.tells_askReason s node
  | createRequest thread node reason timeout => exact c.world.desk.tells_createRequest thread node reason timeout
  | cancelRequest thread => exact c.world.desk.tells_cancelRequest thread
  | await r limit => exact c.tells_await rules r limit
  | tell events => exact c.world.desk.tells_tellAll events
  | _ => exact .refl _

namespace Engine

variable (E : Engine) (patience : Nat)

theorem tells_run {α : Type} (p : Run α) (c : Course) :
    Desk.Tells E.registry old c.world.desk (E.notices p c) (E.outcome p c).2.world.desk :=
  Program.runWhile_accumulates (R := fun (c : Course) notices (c' : Course) => Desk.Tells E.registry old c.world.desk notices c'.world.desk)
    (fun _ => .refl _) (fun h h' => h.trans h') (fun call c => call.tells E.rules c) (ExceptT.run p) c

theorem tells_step (s : Step) (w : World) :
    Desk.Tells E.registry old w.desk (E.stepNotices patience s w) (E.stepWithin patience s w).2.desk := by
  cases s with
  | command c => exact c.tells E.rules w
  | together edits => exact .refl _
  | wait thread limit commands => exact E.tells_run (Run.wait thread limit) (.start patience w commands)
  | invoke thread initial commands => exact E.tells_run (E.invoke thread initial) (.start patience w commands)
  | resume thread commands => exact E.tells_run (E.resume thread) (.start patience w commands)

theorem tells_steps (steps : List Step) (w : World) :
    Desk.Tells E.registry old w.desk (E.stepsNotices patience steps w) (E.stepsWithin patience steps w).2.desk := by
  induction steps generalizing w with
  | nil => exact .refl _
  | cons s rest ih => exact (E.tells_step patience s w).trans (ih _)

end Engine

/-! ## Connecting -/

/-- The world after an engine of a graph with a registry has been connected with the policy. -/
def World.connect (w : World) (registry : Nat) : World := { w with desk := w.desk.shareObservers registry }

theorem Desk.shareObservers_requests (d : Desk) (registry : Nat) : (d.shareObservers registry).requests = d.requests := by
  unfold shareObservers
  split <;> rfl

theorem Desk.connected_shareObservers (d : Desk) (registry : Nat) :
    (d.shareObservers registry).Connected registry d.requests.length := by
  unfold shareObservers
  have hmade : ∀ id r, d.requests.length ≤ id → d.request? id ≠ some r := fun id r hid hr =>
    Nat.not_lt_of_le hid (request?_lt hr)
  split
  · exact ⟨by assumption, Nat.le_refl _, fun id r k hid hr => (hmade id r hid hr).elim⟩
  · exact ⟨rfl, Nat.le_refl _, fun id r k hid hr => (hmade id r hid hr).elim⟩

theorem World.connect_shownTo (w : World) (registry : Nat) (registries : List Registry) (log : List Delivery) :
    (w.shownTo registries log).connect registry = ((w.shownTo [] []).connect registry).shownTo
      (sharedRegistries registries registry w.desk.policy.registry) log := by
  unfold connect Desk.shareObservers sharedRegistries
  show ({ w with desk := if w.desk.policy.registry = registry then _ else _ } : World) =
    shownTo { w with desk := if w.desk.policy.registry = registry then _ else _ } _ log
  split <;> rfl

/-! ## Without observers -/

theorem World.connect_nobody (w : World) (registry : Nat) :
    ((w.shownTo [] []).connect registry).shownTo [] [] = (w.shownTo [] []).connect registry := by
  have hshared : sharedRegistries [] registry w.desk.policy.registry = [] := by
    unfold sharedRegistries
    split <;> rfl
  have hconnect := w.connect_shownTo registry [] []
  rw [hshared] at hconnect
  exact hconnect.symm

theorem recorded_nobody (notices : List Notice) : recorded [] notices = [] :=
  List.flatMap_eq_nil_iff.2 fun _ _ => rfl

/-- A session without observers records nothing. -/
theorem Engine.stepsWithin_nobody (E : Engine) (patience : Nat) (steps : List Step) {w : World} (hw : w.shownTo [] [] = w) :
    (E.stepsWithin patience steps w).2.shownTo [] [] = (E.stepsWithin patience steps w).2 := by
  have hself := E.stepsWithin_shownTo patience w steps [] []
  rw [hw, recorded_nobody] at hself
  exact (congrArg Prod.snd hself).symm

/-- A session after connecting tells the graph's registry only, if what its commands decide is later. -/
theorem Engine.registry_of_connected (E : Engine) (patience : Nat) (steps : List Step) (w : World)
    (hlater : ∀ id ∈ E.stepsDecides patience steps (w.connect E.registry), w.desk.requests.length ≤ id) :
    ∀ n ∈ E.stepsNotices patience steps (w.connect E.registry), n.registry = E.registry := by
  have hmade : (w.connect E.registry).desk.requests.length = w.desk.requests.length :=
    congrArg List.length (w.desk.shareObservers_requests E.registry)
  have hspares := E.spares_steps (Nat.le_of_eq hmade.symm) hlater
  exact (E.tells_steps patience steps (w.connect E.registry)).all (w.desk.connected_shareObservers E.registry) hspares.leaves

/-- Let an engine be connected with a policy, with any observers on the registries of the graph and of the policy, on that
of the graph each at most once. In a session of runs, resumes and decisions on requests that are made after that (of
any steps, if only their commands and waits decide on such requests) everything is answered and left as without observers.
An observer of either registry that no other is named like records of the events, one after the other, what it would record
on its own, whatever observers there are and whether they panic; one that never panics records exactly the events. -/
theorem observers_only_observe (E : Engine) (patience : Nat) (steps : List Step) (w : World) (registries : List Registry)
    (log : List Delivery) (hlisted : E.registry < registries.length) (honce : (registryAt registries E.registry).Nodup)
    (hlater : ∀ id ∈ E.stepsDecides patience steps ((w.shownTo [] []).connect E.registry), w.desk.requests.length ≤ id) :
    let unobserved := (w.shownTo [] []).connect E.registry
    let events := (E.stepsNotices patience steps unobserved).map Notice.event
    let bare := E.stepsWithin patience steps unobserved
    let run := E.stepsWithin patience steps ((w.shownTo registries log).connect E.registry)
    let observers := registryAt registries E.registry ++ registryAt registries w.desk.policy.registry
    run.1 = bare.1 ∧ run.2.shownTo [] [] = bare.2 ∧
      ∃ news, run.2.desk.log = log ++ news ∧ ∀ o ∈ observers, (∀ o' ∈ observers, o'.name = o.name → o' = o) →
        news.filter (·.observer = o.name) = events.flatMap (fun e => (o.receive e).getD []) ∧
        (o.Steady → (news.filter (·.observer = o.name)).map Delivery.event = events) := by
  intro unobserved events bare run observers
  let shared := sharedRegistries registries E.registry w.desk.policy.registry
  let notices := E.stepsNotices patience steps unobserved
  -- the session is the one without observers, shown to them
  have hrun : run = (bare.1, bare.2.shownTo shared (log ++ recorded shared notices)) := by
    show E.stepsWithin patience steps ((w.shownTo registries log).connect E.registry) = _
    rw [World.connect_shownTo]
    exact E.stepsWithin_shownTo patience unobserved steps shared log
  have hbare : bare.2.shownTo [] [] = bare.2 := E.stepsWithin_nobody patience steps (w.connect_nobody E.registry)
  have hall : ∀ n ∈ notices, n.registry = E.registry := E.registry_of_connected patience steps (w.shownTo [] []) hlater
  rw [hrun]
  refine ⟨rfl, hbare, recorded shared notices, rfl, fun o ho hname => ?_⟩
  have hreceived : (recorded shared notices).filter (·.observer = o.name) = events.flatMap fun e => (o.receive e).getD [] :=
    received_of_recorded hall (nodup_sharedRegistries hlisted honce) ((mem_sharedRegistries hlisted o).2 ho)
      fun o' ho' => hname o' ((mem_sharedRegistries hlisted o').1 ho')
  exact ⟨hreceived, fun hsteady => hreceived ▸ hsteady.recorded events⟩

/-- Two registries: one observer is on both, one panics at all events and one at some. -/
def watchers : List Registry :=
  [[⟨"x", .recorder⟩, ⟨"p", .faulty⟩], [⟨"y", .recorder⟩, ⟨"x", .recorder⟩, ⟨"z", .brittle [.nodeEntered "t" "b"]⟩]]

/-- A thread has a request from before. -/
def watchedWorld : World := ((Command.desk (.createRequest "u" "a" "asked" none)).run ⟨none, .lenient⟩ (.fresh [] [] none)).2

/-- Another thread is run until it stops, its request is approved, and the run goes on. -/
def watchedSteps : List Step :=
  [.command (.desk (.addAlways "b")), .invoke "t" .empty [],
    .command (.desk (.decide (.ofThread "t") (.approve "operator" none))), .resume "t" []]

theorem observers_only_observe_watched :
    forked.registry < watchers.length ∧ (registryAt watchers forked.registry).Nodup ∧
      (∀ id ∈ forked.stepsDecides patience watchedSteps ((watchedWorld.shownTo [] []).connect forked.registry),
        watchedWorld.desk.requests.length ≤ id) ∧
      ∃ news, (forked.stepsWithin patience watchedSteps
          ((watchedWorld.shownTo watchers []).connect forked.registry)).2.desk.log = news ∧
        (news.filter (·.observer = "y")).map Delivery.event =
          [.nodeEntered "t" "a", .edgeTraversed "t" "a" "b", .edgeTraversed "t" "a" "c",
            .interruptRaised "t" "b" "node 'b' always requires approval", .approvalResolved "t" "b" .approved,
            .nodeEntered "t" "b", .nodeEntered "t" "c"] := by
  have hdecides : forked.stepsDecides patience watchedSteps ((watchedWorld.shownTo [] []).connect forked.registry) = [1] := by
    cbv
  have hlater : ∀ id ∈ forked.stepsDecides patience watchedSteps ((watchedWorld.shownTo [] []).connect forked.registry),
      watchedWorld.desk.requests.length ≤ id := by
    rw [hdecides]
    decide
  have hlisted : forked.registry < watchers.length := by decide
  have honce : (registryAt watchers forked.registry).Nodup := by decide
  obtain ⟨-, -, news, hlog, hreceived⟩ :=
    observers_only_observe forked patience watchedSteps watchedWorld watchers [] hlisted honce hlater
  obtain ⟨-, hsteady⟩ := hreceived ⟨"y", .recorder⟩ (by decide) (by decide)
  refine ⟨hlisted, honce, hlater, news, hlog, (hsteady fun _ => rfl).trans ?_⟩
  cbv

end GatedFlow
