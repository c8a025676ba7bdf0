import GatedFlow.Proofs.Approval.Notices
import GatedFlow.Proofs.Program.Simulation
import GatedFlow.Proofs.Run.Trace

/-! # What observers are told during runs

`Engine.notices` lists what a run tells the observers, call by call, with what the commands tell that come while it
waits. In a view every run goes as it does otherwise, and the observers of the view record what is heard of the notices
(`View.outcome_course`). -/

namespace GatedFlow

def Command.notices (c : Command) (w : World) : List Notice :=
  match c with
  | desk c => c.notices w.desk
  | _ => []

/-- What commands tell that each come when they are due. -/
def World.agendaNotices (rules : EditRules) : List Appointment → World → List Notice
  | [], _ => []
  | a :: rest, w => a.command.notices (w.advanceTo a.due) ++
      agendaNotices rules rest (a.command.run rules (w.advanceTo a.due)).2

namespace Course

/-- The commands that come while a request is waited for. -/
def happened (rules : EditRules) (r : Request) (limit : Option Nat) (c : Course) : List Appointment :=
  c.agenda.take (c.agenda.length - (c.await rules r limit).2.agenda.length)

theorem happened_eq {rules : EditRules} {r : Request} {limit : Option Nat} {c : Course} {l : List Appointment}
    (h : c.agenda = l ++ (c.await rules r limit).2.agenda) : c.happened rules r limit = l := by
  unfold happened
  rw [congrArg List.length h, List.length_append, Nat.add_sub_cancel, h, List.take_left]

/-- What is told during a wait: what the commands tell that come, and unless the wait is given up, what its timer may
tell. -/
def awaitNotices (rules : EditRules) (r : Request) (limit : Option Nat) (c : Course) : List Notice :=
  World.agendaNotices rules (c.happened rules r limit) c.world ++
    if (c.await rules r limit).1.isSome then
      (c.world.after rules (c.happened rules r limit)).desk.resolveNotices r.record.id .expire
    else []

end Course

/-- What a call of a run tells the observers. -/
def RunCall.notices {α : Type} (rules : EditRules) (registry : Nat) (call : RunCall α) (c : Course) : List Notice :=
  match call with
  | askReason s node => c.world.desk.askNotices s node
  | createRequest thread node reason _ => c.world.desk.createNotices thread node reason
  | cancelRequest thread => c.world.desk.cancelNotices thread
  | await r limit => c.awaitNotices rules r limit
  | tell events => events.map (Notice.mk registry)
  | _ => []

namespace Engine

def momentNotices (E : Engine) (m : RunMoment) : List Notice := m.call.notices E.rules E.registry m.before

/-- What a run tells the observers. -/
def notices {α : Type} (E : Engine) (p : Run α) (c : Course) : List Notice := (E.trace p c).flatMap E.momentNotices

end Engine

/-! ## Waits -/

/-- What the timer of a wait tells at its end. -/
def Course.wokenNotices (r : Request) (c : Course) : Wake → List Notice
  | .timeUp => c.world.desk.resolveNotices r.record.id .expire
  | _ => []

theorem Course.woken_agenda (r : Request) (limit : Option Nat) (c : Course) (wake : Wake) :
    (c.woken r limit wake).2.agenda = c.agenda := by
  cases wake <;> rfl

namespace View

variable (v : View) (w : World) (c : Course) (log : List Delivery) (rules : EditRules)

def world (w : World) (log : List Delivery) : World := { w with desk := v.desk w.desk log }

def appointment (a : Appointment) : Appointment := { a with command := a.command.replace v.predicate }

def course (c : Course) (log : List Delivery) : Course :=
  { c with world := v.world c.world log, agenda := c.agenda.map v.appointment }

theorem run_command (command : Command) : (command.replace v.predicate).run rules (v.world w log) =
    ((command.run rules w).1, v.world (command.run rules w).2 (log ++ v.told (command.notices w))) := by
  cases command with
  | edit e =>
    simp only [Command.notices, told_nil, List.append_nil]
    rfl
  | store s =>
    simp only [Command.notices, told_nil, List.append_nil]
    rfl
  | desk command => exact congrArg (fun p : Reply × Desk => (p.1, { w with desk := p.2 })) (v.run_desk w.desk log command)

theorem atTheEnd_world (horizon : Nat) (deadline : Option Nat) (agenda : List Appointment) (replies : List (Nat × Reply)) :
    passTime.atTheEnd horizon deadline (v.world w log) (agenda.map v.appointment) replies =
      let p := passTime.atTheEnd horizon deadline w agenda replies
      (p.1, v.world p.2.1 log, p.2.2.1.map v.appointment, p.2.2.2) := by
  cases deadline with
  | none => rfl
  | some d =>
    unfold passTime.atTheEnd
    dsimp only
    split <;> rfl

section

variable (id horizon : Nat) (deadline : Option Nat)

/-- Time has passed in a view as it has otherwise. -/
def Passes (agenda : List Appointment) (w : World) (replies : List (Nat × Reply)) (log : List Delivery) : Prop :=
  passTime rules id horizon deadline (agenda.map v.appointment) (v.world w log) replies =
    let p := passTime rules id horizon deadline agenda w replies
    (p.1, v.world p.2.1 (log ++ v.told (World.agendaNotices rules (agenda.take (agenda.length - p.2.2.1.length)) w)),
      p.2.2.1.map v.appointment, p.2.2.2)

variable {rules id horizon deadline}

theorem Passes.of_decided {agenda : List Appointment} {w : World} {status : ApprovalStatus} (h : w.decision? id = some status)
    (replies : List (Nat × Reply)) (log : List Delivery) : v.Passes rules id horizon deadline agenda w replies log := by
  have h' : (v.world w log).decision? id = some status := h
  unfold Passes
  rw [passTime_of_decided h, passTime_of_decided h']
  simp only [Nat.sub_self, List.take_zero, World.agendaNotices, told_nil, List.append_nil]

theorem Passes.of_end {agenda : List Appointment} {w : World} (h : w.decision? id = none)
    (hend : ∀ a ∈ agenda.head?, (a.due ≤ horizon && deadline.all fun d => a.due < d) = false)
    (replies : List (Nat × Reply)) (log : List Delivery) : v.Passes rules id horizon deadline agenda w replies log := by
  have h' : (v.world w log).decision? id = none := h
  have hend' : ∀ a ∈ (agenda.map v.appointment).head?, (a.due ≤ horizon && deadline.all fun d => a.due < d) = false := by
    cases agenda with
    | nil => simp
    | cons a rest =>
      rintro b ⟨⟩
      exact hend a rfl
  unfold Passes
  rw [passTime_of_end h hend, passTime_of_end h' hend', atTheEnd_world]
  simp only [(passTime_atTheEnd_passed id horizon deadline h agenda replies).1, Nat.sub_self, List.take_zero,
    World.agendaNotices, told_nil, List.append_nil]

theorem Passes.of_due {a : Appointment} {rest : List Appointment} {w : World} {replies : List (Nat × Reply)}
    {log : List Delivery} (h : w.decision? id = none)
    (hdue : (a.due ≤ horizon && deadline.all fun d => a.due < d) = true)
    (hrest : v.Passes rules id horizon deadline rest (a.command.run rules (w.advanceTo a.due)).2
      (replies ++ [(a.place, (a.command.run rules (w.advanceTo a.due)).1)])
      (log ++ v.told (a.command.notices (w.advanceTo a.due)))) :
    v.Passes rules id horizon deadline (a :: rest) w replies log := by
  have h' : (v.world w log).decision? id = none := h
  have hdue' : ((v.appointment a).due ≤ horizon && deadline.all fun d => (v.appointment a).due < d) = true := hdue
  have hrun : (v.appointment a).command.run rules ((v.world w log).advanceTo (v.appointment a).due) = _ :=
    v.run_command (w.advanceTo a.due) log rules a.command
  -- what is left of the agenda is no more than what comes after this command, which has happened thus too
  obtain ⟨happened, hhappened, -⟩ := passTime_passed rules id horizon deadline rest (a.command.run rules (w.advanceTo a.due)).2
    (replies ++ [(a.place, (a.command.run rules (w.advanceTo a.due)).1)])
  have hlength := congrArg List.length hhappened
  rw [List.length_append] at hlength
  unfold Passes at hrest ⊢
  rw [passTime_of_due h hdue, List.map_cons, passTime_of_due h' hdue', hrun]
  refine hrest.trans ?_
  dsimp only
  rw [List.length_cons, Nat.succ_sub (by omega), List.take_succ_cons, World.agendaNotices, told_append, List.append_assoc]

/-- Time passes in a view as it does otherwise, and what the commands tell is recorded. -/
theorem passes (agenda : List Appointment) (w : World) (replies : List (Nat × Reply)) (log : List Delivery) :
    v.Passes rules id horizon deadline agenda w replies log := by
  induction agenda generalizing w replies log with
  | nil =>
    cases hw : w.decision? id with
    | some status => exact .of_decided v hw replies log
    | none => exact .of_end v hw (by simp) replies log
  | cons a rest ih =>
    cases hw : w.decision? id with
    | some status => exact .of_decided v hw replies log
    | none =>
      cases hdue : a.due ≤ horizon && deadline.all fun d => a.due < d with
      | false => exact .of_end v hw (by simpa using hdue) replies log
      | true => exact .of_due v hw hdue (ih _ _ _)

end

theorem woken_course (r : Request) (limit : Option Nat) (wake : Wake) : (v.course c log).woken r limit wake =
    ((c.woken r limit wake).1, v.course (c.woken r limit wake).2 (log ++ v.told (c.wokenNotices r wake))) := by
  cases wake with
  | decided status =>
    rw [Course.wokenNotices, told_nil, List.append_nil]
    · rfl
    · nofun
  | never =>
    rw [Course.wokenNotices, told_nil, List.append_nil]
    · rfl
    · nofun
  | timeUp =>
    exact congrArg (fun p : Except FlowError ApprovalStatus × Desk =>
      (some p.1, { v.course c log with world := { c.world with desk := p.2 } }))
      (v.timeUp_desk c.world.desk log r ((limit.or r.timeout).getD 0))

/-- A wait in a view goes as it does otherwise. -/
theorem await_course (r : Request) (limit : Option Nat) : (v.course c log).await rules r limit =
    ((c.await rules r limit).1, v.course (c.await rules r limit).2 (log ++ v.told (c.awaitNotices rules r limit))) := by
  have hview : v.Passes rules r.record.id c.horizon ((limit.or r.timeout).map (c.world.desk.clock + ·)) c.agenda c.world
    c.replies log := v.passes ..
  obtain ⟨happened, hagenda, hpassed⟩ := passTime_passed rules r.record.id c.horizon
    ((limit.or r.timeout).map (c.world.desk.clock + ·)) c.agenda c.world c.replies
  rcases hp : passTime rules r.record.id c.horizon ((limit.or r.timeout).map (c.world.desk.clock + ·)) c.agenda c.world
    c.replies with ⟨wake, w', left, replies⟩
  unfold Passes at hview
  rw [hp] at hview hagenda hpassed
  dsimp only at hview
  have hleft : (c.await rules r limit).2.agenda = left := by rw [Course.await_of_passTime hp, Course.woken_agenda]
  have hhappened : c.happened rules r limit = happened := Course.happened_eq (hagenda.trans (by rw [hleft]))
  have htake : c.agenda.take (c.agenda.length - left.length) = happened := hleft ▸ hhappened
  have hnotices : c.awaitNotices rules r limit = World.agendaNotices rules happened c.world ++
      { c with world := w', agenda := left, replies }.wokenNotices r wake := by
    unfold Course.awaitNotices
    rw [hhappened, Course.await_of_passTime hp]
    refine congrArg _ ?_
    cases hpassed with
    | decided h =>
      -- a decided request tells nothing when its time is up
      obtain ⟨r', hr', rfl, ht⟩ := World.decision?_eq_some_iff.1 h
      exact (Desk.resolveNotices_of_request hr' .expire).trans (if_pos ht)
    | never time h => rfl
    | @timeUp time h hdeadline => exact (Desk.resolveNotices_advanceTo ..).symm
  rw [htake] at hview
  rw [Course.await_of_passTime hp, Course.await_of_passTime hview, hnotices, told_append, ← List.append_assoc]
  exact v.woken_course { c with world := w', agenda := left, replies } _ r limit wake

/-- A call in a view: it tells what is heard and asks the predicates of the view. -/
def call {α : Type} : RunCall α → RunCall α
  | .tell events => .tell (events.filter v.hears)
  | .execute g node s => .execute (g.replace v.predicate) node s
  | .next g node s => .next (g.replace v.predicate) node s
  | call => call

theorem atDesk_course {α : Type} (f g : Desk → α × Desk) {notices : List Notice}
    (h : g (v.desk c.world.desk log) = ((f c.world.desk).1, v.desk (f c.world.desk).2 (log ++ v.told notices))) :
    (v.course c log).atDesk g = ((c.atDesk f).1, v.course (c.atDesk f).2 (log ++ v.told notices)) := by
  unfold Course.atDesk
  exact congrArg (fun p : α × Desk => (some p.1, { v.course c log with world := { c.world with desk := p.2 } })) h

/-- A call in a view is answered as it is otherwise. -/
theorem answer_course {α : Type} (registry : Nat) (call : RunCall α) :
    (v.call call).answer rules registry (v.course c log) = ((call.answer rules registry c).1,
      v.course (call.answer rules registry c).2 (log ++ v.told (call.notices rules registry c))) := by
  cases call with
  | await r limit => exact v.await_course c log rules r limit
  | askReason s node =>
    exact v.atDesk_course c log (·.askReason s node) (·.askReason s node) (v.askReason_desk c.world.desk log s node)
  | createRequest thread node reason timeout =>
    exact v.atDesk_course c log (·.createRequest thread node reason timeout) (·.createRequest thread node reason timeout)
      (v.createRequest_desk c.world.desk log thread node reason timeout)
  | cancelRequest thread =>
    exact v.atDesk_course c log (fun d => ((), (d.cancelRequest thread).2)) (fun d => ((), (d.cancelRequest thread).2))
      (congrArg (fun p : Option Request × Desk => ((), p.2)) (v.cancelRequest_desk c.world.desk log thread))
  | tell events =>
    refine v.atDesk_course c log (fun d => ((), d.tellAll registry events))
      (fun d => ((), d.tellAll registry (events.filter v.hears))) ?_
    rw [desk_tellAll]
    exact congrArg (Prod.mk ()) (v.tellAll_desk c.world.desk log registry events)
  | next g node s =>
    simp only [call, RunCall.answer, RunCall.notices, told_nil, List.append_nil, g.next_replace v.answers]
  | _ =>
    simp only [RunCall.notices, told_nil, List.append_nil]
    rfl

end View
end GatedFlow
