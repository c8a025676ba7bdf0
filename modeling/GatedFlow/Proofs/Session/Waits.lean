import GatedFlow.Proofs.Approval.Growth
import GatedFlow.Session.Waiting

/-! # How waits end

The commands of an agenda come one after the other while a request is waited for (`World.after`), and then the wait
ends: it sees a decision, its time is up, or it is given up (`WaitEnds`). A timer may go off although a decision has
just come; `Desk.timeUp` says what the wait answers then. -/

namespace GatedFlow

namespace World

variable {w : World} {id : Nat} {status : ApprovalStatus}

/-- The world after commands that each came when it was due. -/
def after (rules : EditRules) (happened : List Appointment) (w : World) : World :=
  happened.foldl (fun w a => (a.command.run rules (w.advanceTo a.due)).2) w

theorem decision?_eq_some_iff : w.decision? id = some status ↔
    ∃ r, w.desk.request? id = some r ∧ r.status = status ∧ status.isTerminal = true := by
  simp only [decision?, Option.bind_eq_some_iff]
  refine exists_congr fun r => and_congr_right fun _ => ?_
  constructor
  · intro h
    split at h
    · rw [Option.some.injEq] at h
      exact ⟨h, h ▸ ‹_›⟩
    · cases h
  · rintro ⟨rfl, ht⟩
    exact if_pos ht

end World

section passTime

variable {rules : EditRules} {id horizon : Nat} {deadline : Option Nat} {agenda rest : List Appointment} {w : World}
  {replies : List (Nat × Reply)}

theorem passTime_of_decided {status : ApprovalStatus} (h : w.decision? id = some status) :
    passTime rules id horizon deadline agenda w replies = (.decided status, w, agenda, replies) := by
  unfold passTime
  rw [h]

theorem passTime_of_due {a : Appointment} (h : w.decision? id = none)
    (hdue : (a.due ≤ horizon && deadline.all fun d => a.due < d) = true) :
    passTime rules id horizon deadline (a :: rest) w replies =
      passTime rules id horizon deadline rest (a.command.run rules (w.advanceTo a.due)).2
        (replies ++ [(a.place, (a.command.run rules (w.advanceTo a.due)).1)]) := by
  rw [passTime, h]
  exact if_pos hdue

theorem passTime_of_end (h : w.decision? id = none)
    (hend : ∀ a ∈ agenda.head?, (a.due ≤ horizon && deadline.all fun d => a.due < d) = false) :
    passTime rules id horizon deadline agenda w replies = passTime.atTheEnd horizon deadline w agenda replies := by
  unfold passTime
  rw [h]
  cases agenda with
  | nil => rfl
  | cons a rest =>
    dsimp only
    rw [if_neg]
    simp [hend a rfl]

end passTime

/-- The end of a wait: what it answers and the course it leaves. -/
def Course.woken (r : Request) (limit : Option Nat) (c : Course) : Wake → Option (Except FlowError ApprovalStatus) × Course
  | .decided status => (some (.ok status), c)
  | .never => (none, c)
  | .timeUp => (some (c.world.desk.timeUp r ((limit.or r.timeout).getD 0)).1,
      { c with world := { c.world with desk := (c.world.desk.timeUp r ((limit.or r.timeout).getD 0)).2 } })

theorem Course.await_of_passTime {rules : EditRules} {r : Request} {limit : Option Nat} {c : Course} {wake : Wake} {w : World}
    {left : List Appointment} {replies : List (Nat × Reply)}
    (h : passTime rules r.record.id c.horizon ((limit.or r.timeout).map (c.world.desk.clock + ·)) c.agenda c.world c.replies =
      (wake, w, left, replies)) :
    c.await rules r limit = { c with world := w, agenda := left, replies }.woken r limit wake := by
  unfold await
  dsimp only
  rw [h]
  cases wake <;> rfl

/-- How time has passed in a world when it passes no further, and the world with its clock set to that time. -/
inductive Passed (id : Nat) (deadline : Option Nat) (w : World) : Wake → World → Prop
  | decided {status : ApprovalStatus} (h : w.decision? id = some status) : Passed id deadline w (.decided status) w
  | timeUp {time : Nat} (h : w.decision? id = none) (hdeadline : deadline = some time) :
      Passed id deadline w .timeUp (w.advanceTo time)
  | never (time : Nat) (h : w.decision? id = none) : Passed id deadline w .never (w.advanceTo time)

section passTime

variable (rules : EditRules) (id horizon : Nat) (deadline : Option Nat)

theorem passTime_atTheEnd_passed {w : World} (h : w.decision? id = none) (agenda : List Appointment)
    (replies : List (Nat × Reply)) :
    (passTime.atTheEnd horizon deadline w agenda replies).2.2.1 = agenda ∧
      Passed id deadline w (passTime.atTheEnd horizon deadline w agenda replies).1
        (passTime.atTheEnd horizon deadline w agenda replies).2.1 := by
  unfold passTime.atTheEnd
  cases deadline with
  | none => exact ⟨rfl, .never horizon h⟩
  | some time =>
    dsimp only
    split
    · exact ⟨rfl, .timeUp h rfl⟩
    · exact ⟨rfl, .never horizon h⟩

/-- Time passes through the first commands of the agenda and no others. -/
theorem passTime_passed (agenda : List Appointment) (w : World) (replies : List (Nat × Reply)) :
    ∃ happened, agenda = happened ++ (passTime rules id horizon deadline agenda w replies).2.2.1 ∧
      Passed id deadline (w.after rules happened) (passTime rules id horizon deadline agenda w replies).1
        (passTime rules id horizon deadline agenda w replies).2.1 := by
  induction agenda generalizing w replies with
  | nil =>
    unfold passTime
    cases hw : w.decision? id with
    | some status => exact ⟨[], rfl, .decided hw⟩
    | none =>
      obtain ⟨hleft, hpassed⟩ := passTime_atTheEnd_passed id horizon deadline hw [] replies
      exact ⟨[], hleft.symm, hpassed⟩
  | cons a rest ih =>
    unfold passTime
    cases hw : w.decision? id with
    | some status => exact ⟨[], rfl, .decided hw⟩
    | none =>
      dsimp only
      split
      · obtain ⟨happened, hrest, hpassed⟩ := ih (a.command.run rules (w.advanceTo a.due)).2
          (replies ++ [(a.place, (a.command.run rules (w.advanceTo a.due)).1)])
        exact ⟨a :: happened, congrArg (a :: ·) hrest, hpassed⟩
      · obtain ⟨hleft, hpassed⟩ := passTime_atTheEnd_passed id horizon deadline hw (a :: rest) replies
        exact ⟨[], hleft.symm, hpassed⟩

end passTime

namespace Desk

variable {d : Desk} {r r₀ : Request} {limit : Nat}

theorem timeUp_of_isTerminal (hr : d.request? r.record.id = some r₀) (ht : r₀.status.isTerminal = true) :
    d.timeUp r limit = (if r₀.status ≠ .timeout then .ok r₀.status else .error (r.timeoutError limit), d) := by
  have hresolve : d.resolve r.record.id .expire = (some (.error (.alreadyResolved r₀.record.id r₀.status)), d) := by
    simp only [resolve, hr, Request.resolve, if_pos ht]
  simp only [timeUp, hresolve]

theorem timeUp_of_pending (hr : d.request? r.record.id = some r₀) (ht : r₀.status.isTerminal = false) :
    (d.timeUp r limit).1 = .error (r.timeoutError limit) ∧
      ∃ r₁, (d.timeUp r limit).2.request? r.record.id = some r₁ ∧ r₁.status = .timeout := by
  obtain ⟨r₁, hr₁⟩ : ∃ r₁, r₀.resolve .expire d.clock = .ok r₁ := ⟨_, Request.resolve_eq_ok_iff.2 ⟨ht, rfl⟩⟩
  have hfirst : (d.resolve r.record.id .expire).1 = some (.ok ()) := by simp only [resolve, hr, hr₁]
  have htimeUp : d.timeUp r limit = (.error (r.timeoutError limit), (d.resolve r.record.id .expire).2) := by
    unfold timeUp
    rcases hresolve : d.resolve r.record.id .expire with ⟨result, d'⟩
    obtain rfl : result = some (.ok ()) := by rw [hresolve] at hfirst; exact hfirst
    rfl
  rw [htimeUp]
  refine ⟨rfl, r₁, ?_, by rw [(Request.resolve_eq_ok_iff.1 hr₁).2]; rfl⟩
  show (d.resolve r.record.id .expire).2.requests[r.record.id]? = some r₁
  rw [(resolve_of_ok hr hr₁).1, List.getElem?_set_self (request?_lt hr)]

theorem of_timeUp_eq_ok {status : ApprovalStatus} (h : (d.timeUp r limit).1 = .ok status) :
    ∃ r₀, d.request? r.record.id = some r₀ ∧ r₀.status.isTerminal = true ∧ r₀.status = status ∧
      (d.timeUp r limit).2 = d := by
  cases hr : d.request? r.record.id with
  | none =>
    simp only [timeUp, resolve, hr] at h
    cases h
  | some r₀ =>
    cases ht : r₀.status.isTerminal with
    | false =>
      rw [(timeUp_of_pending hr ht).1] at h
      cases h
    | true =>
      rw [timeUp_of_isTerminal hr ht] at h ⊢
      dsimp only at h
      split at h
      · exact ⟨r₀, rfl, ht, Except.ok.inj h, rfl⟩
      · cases h

/-- A wait that fails has lasted too long. -/
theorem eq_of_timeUp {e : FlowError} (h : (d.timeUp r limit).1 = .error e) : e = r.timeoutError limit := by
  unfold timeUp at h
  split at h
  · dsimp only at h
    split at h <;> cases h
    rfl
  · cases h
    rfl

theorem timeUp_snd (d : Desk) (r : Request) (limit : Nat) :
    (d.timeUp r limit).2 = (d.resolve r.record.id .expire).2 := by
  unfold timeUp
  split <;> rename_i h <;> rw [h]

end Desk

/-- What ends a wait for a request in a world, what the wait answers, and the world it leaves. -/
inductive WaitEnds (r : Request) (limit : Option Nat) (w : World) :
    Wake → Option (Except FlowError ApprovalStatus) → World → Prop
  | decided {status : ApprovalStatus} (h : w.decision? r.record.id = some status) :
      WaitEnds r limit w (.decided status) (some (.ok status)) w
  | timeUp {ms : Nat} (time : Nat) (hlimit : limit.or r.timeout = some ms) :
      WaitEnds r limit w .timeUp (some ((w.advanceTo time).desk.timeUp r ms).1)
        { w with desk := ((w.advanceTo time).desk.timeUp r ms).2 }
  | never (time : Nat) : WaitEnds r limit w .never none (w.advanceTo time)

theorem WaitEnds.decision {r : Request} {limit : Option Nat} {w w' : World} {wake : Wake}
    {result : Option (Except FlowError ApprovalStatus)} {status : ApprovalStatus} (h : WaitEnds r limit w wake result w')
    (hresult : result = some (.ok status)) :
    w.decision? r.record.id = some status ∧ w'.decision? r.record.id = some status := by
  cases h with
  | decided h => cases hresult; exact ⟨h, h⟩
  | never time => cases hresult
  | @timeUp ms time hlimit =>
    rw [Option.some.injEq] at hresult
    obtain ⟨r₀, hr, ht, rfl, hdesk⟩ := Desk.of_timeUp_eq_ok hresult
    exact ⟨World.decision?_eq_some_iff.2 ⟨r₀, hr, rfl, ht⟩,
      World.decision?_eq_some_iff.2 ⟨r₀, by rw [hdesk]; exact hr, rfl, ht⟩⟩

/-- What a wait answers, told from the status that its request has come to and from whether its own timer has ended it. -/
structure Reports (r : Request) (limit : Option Nat) (byTimer : Prop) (result : Except FlowError ApprovalStatus)
    (status : ApprovalStatus) : Prop where
  approved : result = .ok .approved ↔ status = .approved
  rejected : result = .ok .rejected ↔ status = .rejected
  expired : (∃ ms, limit.or r.timeout = some ms ∧ result = .error (r.timeoutError ms)) ↔ status = .timeout ∧ byTimer
  seen : result = .ok .timeout ↔ status = .timeout ∧ ¬byTimer

theorem Reports.of_ok {r : Request} {limit : Option Nat} {byTimer : Prop} {status : ApprovalStatus}
    (h : byTimer → status ≠ .timeout) : Reports r limit byTimer (.ok status) status where
  approved := by rw [Except.ok.injEq]
  rejected := by rw [Except.ok.injEq]
  expired := iff_of_false (fun ⟨ms, _, h⟩ => by cases h) fun ⟨hstatus, htimer⟩ => h htimer hstatus
  seen := by
    rw [Except.ok.injEq]
    exact ⟨fun hstatus => ⟨hstatus, fun htimer => h htimer hstatus⟩, And.left⟩

theorem Reports.of_expired {r : Request} {limit : Option Nat} {byTimer : Prop} {ms : Nat}
    (hlimit : limit.or r.timeout = some ms) (h : byTimer) :
    Reports r limit byTimer (.error (r.timeoutError ms)) .timeout where
  approved := iff_of_false (fun h => by cases h) fun h => by cases h
  rejected := iff_of_false (fun h => by cases h) fun h => by cases h
  expired := iff_of_true ⟨ms, hlimit, rfl⟩ ⟨rfl, h⟩
  seen := iff_of_false (fun h => by cases h) fun hnot => hnot.2 h

/-- However commands and the timer come one after the other, a wait that ends leaves its request decided, and answers
with the decision. A timeout is an error if the timer has ended the wait, and else a decision like the others. -/
theorem WaitEnds.reports {r r₀ : Request} {limit : Option Nat} {w w' : World} {wake : Wake}
    {result : Except FlowError ApprovalStatus} (hr : w.desk.request? r.record.id = some r₀)
    (h : WaitEnds r limit w wake (some result) w') :
    ∃ status, w'.decision? r.record.id = some status ∧ Reports r limit (wake = .timeUp) result status := by
  cases h with
  | decided h => exact ⟨_, h, .of_ok fun h => by cases h⟩
  | @timeUp ms time hlimit =>
    have hr' : (w.advanceTo time).desk.request? r.record.id = some r₀ := hr
    cases ht : r₀.status.isTerminal with
    | false =>
      obtain ⟨herror, r₁, hr₁, hstatus⟩ : ((w.advanceTo time).desk.timeUp r ms).1 = _ ∧ _ :=
        Desk.timeUp_of_pending hr' ht
      rw [herror]
      exact ⟨.timeout, World.decision?_eq_some_iff.2 ⟨r₁, hr₁, hstatus, rfl⟩, .of_expired hlimit rfl⟩
    | true =>
      rw [Desk.timeUp_of_isTerminal hr' ht]
      refine ⟨r₀.status, World.decision?_eq_some_iff.2 ⟨r₀, hr, rfl, ht⟩, ?_⟩
      by_cases hstatus : r₀.status = .timeout
      · rw [hstatus, if_neg fun h => h rfl]
        exact .of_expired hlimit rfl
      · rw [if_pos hstatus]
        exact .of_ok fun _ => hstatus

theorem WaitEnds.of_none {r : Request} {limit : Option Nat} {w w' : World} {wake : Wake}
    (h : WaitEnds r limit w wake none w') : wake = .never ∧ w'.decision? r.record.id = w.decision? r.record.id := by
  cases h with
  | never time => exact ⟨rfl, rfl⟩

theorem WaitEnds.timeUp_of_open {r : Request} {limit : Option Nat} {w w' : World} {wake : Wake}
    {result : Except FlowError ApprovalStatus} (h : WaitEnds r limit w wake (some result) w')
    (hopen : w.decision? r.record.id = none) : wake = .timeUp := by
  cases h with
  | decided h => cases hopen.symm.trans h
  | timeUp time hlimit => rfl

theorem WaitEnds.of_decided {r : Request} {limit : Option Nat} {w w' : World} {status : ApprovalStatus}
    {result : Option (Except FlowError ApprovalStatus)} (h : WaitEnds r limit w (.decided status) result w') : w' = w := by
  cases h with
  | decided h => rfl

/-- A wait ends after the first commands of its agenda, and unless it sees a decision there is none. -/
theorem Course.await_ends (rules : EditRules) (r : Request) (limit : Option Nat) (c : Course) :
    ∃ happened wake, c.agenda = happened ++ (c.await rules r limit).2.agenda ∧
      WaitEnds r limit (c.world.after rules happened) wake (c.await rules r limit).1 (c.await rules r limit).2.world ∧
      ((c.world.after rules happened).decision? r.record.id = none ∨
        ∃ status, wake = .decided status) := by
  obtain ⟨happened, hagenda, hpassed⟩ := passTime_passed rules r.record.id c.horizon
    ((limit.or r.timeout).map (c.world.desk.clock + ·)) c.agenda c.world c.replies
  unfold await
  dsimp only
  rcases hpass : passTime rules r.record.id c.horizon ((limit.or r.timeout).map (c.world.desk.clock + ·)) c.agenda c.world
    c.replies with ⟨wake, w', left, replies⟩
  rw [hpass] at hagenda hpassed
  cases hpassed with
  | decided h => exact ⟨happened, _, hagenda, .decided h, .inr ⟨_, rfl⟩⟩
  | never time h => exact ⟨happened, _, hagenda, .never time, .inl h⟩
  | timeUp h hdeadline =>
    obtain ⟨ms, hlimit, -⟩ := Option.map_eq_some_iff.1 hdeadline
    rw [hlimit]
    exact ⟨happened, _, hagenda, .timeUp _ hlimit, .inl h⟩

theorem Course.eq_of_await {rules : EditRules} {r : Request} {limit : Option Nat} {c : Course} {e : FlowError}
    (h : (c.await rules r limit).1 = some (.error e)) : ∃ ms, e = r.timeoutError ms := by
  obtain ⟨happened, wake, -, hends, -⟩ := c.await_ends rules r limit
  generalize (c.await rules r limit).1 = result at h hends
  generalize (c.await rules r limit).2.world = w at hends
  subst h
  generalize hresult : some (Except.error e) = result at hends
  cases hends with
  | decided h => cases hresult
  | never time => cases hresult
  | @timeUp ms time hlimit => exact ⟨ms, Desk.eq_of_timeUp (Option.some.inj hresult).symm⟩

theorem Course.await_of_ok {rules : EditRules} {r : Request} {limit : Option Nat} {c c' : Course} {status : ApprovalStatus}
    (h : c.await rules r limit = (some (.ok status), c')) :
    ∃ happened, c.agenda = happened ++ c'.agenda ∧ c'.world = c.world.after rules happened := by
  obtain ⟨happened, wake, hagenda, hends, hwake⟩ := c.await_ends rules r limit
  rw [h] at hagenda hends
  refine ⟨happened, hagenda, ?_⟩
  obtain ⟨status', rfl⟩ := hwake.resolve_left fun hopen => by cases hopen.symm.trans (hends.decision rfl).1
  exact hends.of_decided

theorem World.after_keeps {rules : EditRules} {J : World → Prop} {happened : List Appointment} {w : World}
    (hcommand : ∀ a ∈ happened, ∀ w, J w → J (a.command.run rules w).2) (htime : ∀ w time, J w → J (w.advanceTo time))
    (h : J w) : J (w.after rules happened) := by
  induction happened generalizing w with
  | nil => exact h
  | cons a happened ih =>
    exact ih (fun b hb => hcommand b (List.mem_cons_of_mem _ hb)) (hcommand a List.mem_cons_self _ (htime w a.due h))

theorem WaitEnds.keeps {r : Request} {limit : Option Nat} {w w' : World} {wake : Wake}
    {result : Option (Except FlowError ApprovalStatus)} {J : World → Prop} (h : WaitEnds r limit w wake result w')
    (htime : ∀ w time, J w → J (w.advanceTo time))
    (hexpire : ∀ w, J w → J { w with desk := (w.desk.resolve r.record.id .expire).2 }) (hw : J w) : J w' := by
  cases h with
  | decided h => exact hw
  | never time => exact htime w time hw
  | timeUp time hlimit =>
    rw [Desk.timeUp_snd]
    exact hexpire _ (htime w time hw)

namespace Course

variable {rules : EditRules} {r : Request} {limit : Option Nat} {c : Course}

theorem mem_start_agenda {patience : Nat} {w : World} {commands : List (Nat × Command)} {a : Appointment}
    (h : a ∈ (start patience w commands).agenda) : a.command ∈ commands.map Prod.snd := by
  obtain ⟨i, hi, rfl⟩ := List.mem_mapIdx.1 (List.mem_mergeSort.1 h)
  exact List.mem_map_of_mem (List.getElem_mem hi)

theorem agenda_of_await {a : Appointment} (h : a ∈ (c.await rules r limit).2.agenda) : a ∈ c.agenda := by
  obtain ⟨happened, -, hagenda, -⟩ := c.await_ends rules r limit
  rw [hagenda]
  exact List.mem_append_right _ h

/-- What the commands of an agenda keep, and the passing of time and the expiry of a request as well, a wait keeps. -/
theorem await_keeps {J : World → Prop} (hcommand : ∀ a ∈ c.agenda, ∀ w, J w → J (a.command.run rules w).2)
    (htime : ∀ w time, J w → J (w.advanceTo time))
    (hexpire : ∀ w, J w → J { w with desk := (w.desk.resolve r.record.id .expire).2 }) (h : J c.world) :
    J (c.await rules r limit).2.world := by
  obtain ⟨happened, wake, hagenda, hends, -⟩ := c.await_ends rules r limit
  refine hends.keeps htime hexpire (World.after_keeps (fun a ha => hcommand a ?_) htime h)
  rw [hagenda]
  exact List.mem_append_left _ ha

end Course
end GatedFlow
