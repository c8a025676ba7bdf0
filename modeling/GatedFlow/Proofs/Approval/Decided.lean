import GatedFlow.Proofs.Approval.Business

/-! # A request is decided once

Whatever happens at the desk, a request is open until something brings it a decision, and from then on its record never
changes and every other decision is refused with the status that it has (`Fate`). The observers hear once of each request
that is decided and of no other (`Desk.Told`): a decision that is taken adds its announcement to the log, and nothing else
adds announcements. -/

namespace GatedFlow

variable {id : Nat} {B : Nat → Decision → Prop} {now : Nat}

namespace Desk

/-- Whether a request is there and decided. -/
def isDecided (d : Desk) (id : Nat) : Bool := (d.request? id).any fun r => r.status.isTerminal

/-- What the observers of a request have to be told: nothing before it is decided. -/
def announcement (d : Desk) (id : Nat) : List Delivery :=
  match d.request? id with
  | some r => if r.status.isTerminal then r.announcement d.registries else []
  | none => []

/-- The requests that are decided and were not at an earlier desk. -/
def decidedSince (d₀ d : Desk) : List Nat :=
  (List.range d.requests.length).filter fun id => d.isDecided id && !d₀.isDecided id

/-- Of decisions, the observers have heard since an earlier desk just the announcement of each request decided since. -/
def Told (d₀ d : Desk) : Prop := ∃ news, d.log = d₀.log ++ news ∧
  (news.filter (·.event.isResolution)).Perm ((d₀.decidedSince d).flatMap d.announcement)

variable {d₀ d d' : Desk} {r r' : Request} {decision : Decision}

theorem isDecided_of_request? (hr : d.request? id = some r) : d.isDecided id = r.status.isTerminal := by
  rw [isDecided, hr]
  rfl

theorem isDecided_congr (h : d'.request? id = d.request? id) : d'.isDecided id = d.isDecided id := by
  rw [isDecided, isDecided, h]

theorem announcement_congr (h : d'.request? id = d.request? id) (hregistries : d'.registries = d.registries) :
    d'.announcement id = d.announcement id := by
  rw [announcement, announcement, h, hregistries]

theorem mem_decidedSince : id ∈ d₀.decidedSince d ↔ d.isDecided id = true ∧ d₀.isDecided id = false := by
  rw [decidedSince, List.mem_filter, List.mem_range, Bool.and_eq_true, Bool.not_eq_true', and_iff_right_iff_imp]
  rintro ⟨hdecided, -⟩
  obtain ⟨r, hr, -⟩ := (Option.any_eq_true ..).1 hdecided
  exact request?_lt hr

theorem nodup_decidedSince (d₀ d : Desk) : (d₀.decidedSince d).Nodup := List.Pairwise.filter _ List.nodup_range

theorem Told.refl (d : Desk) : d.Told d := by
  refine ⟨[], (List.append_nil _).symm, ?_⟩
  have hnone : d.decidedSince d = [] := List.filter_eq_nil_iff.2 fun id _ => by simp
  rw [hnone]
  exact .refl _

theorem Quiet.request? (h : d.Quiet d') : d'.request? id = d.request? id ∨
    d.request? id = none ∧ d'.isDecided id = false := by
  obtain ⟨made, hmade, hopen⟩ := h.requests
  by_cases hid : id < d.requests.length
  · exact .inl (by rw [Desk.request?, Desk.request?, hmade, List.getElem?_append_left hid])
  have hid := Nat.le_of_not_lt hid
  refine .inr ⟨List.getElem?_eq_none hid, ?_⟩
  rw [isDecided, Desk.request?, hmade, List.getElem?_append_right hid]
  cases hr : made[id - d.requests.length]? with
  | none => rfl
  | some r => rw [Option.any_some, hopen r (List.mem_of_getElem? hr)]; rfl

theorem Quiet.isDecided (h : d.Quiet d') (id : Nat) : d'.isDecided id = d.isDecided id := by
  rcases h.request? with hsame | ⟨hnone, hopen⟩
  · exact isDecided_congr hsame
  · rw [hopen, Desk.isDecided, hnone]
    rfl

/-- The account still holds when `fresh` requests have been decided and announced and the others are as they were. -/
theorem Told.grow {more : List Delivery} (fresh : List Nat) (htold : d₀.Told d) (hlog : d'.log = d.log ++ more)
    (hsince : (fresh ++ d₀.decidedSince d).Perm (d₀.decidedSince d'))
    (hkept : ∀ id ∈ d₀.decidedSince d, d'.announcement id = d.announcement id)
    (hmore : more.filter (·.event.isResolution) = fresh.flatMap d'.announcement) : d₀.Told d' := by
  obtain ⟨news, hnews, htold⟩ := htold
  have hsame : (d₀.decidedSince d).flatMap d.announcement = (d₀.decidedSince d).flatMap d'.announcement :=
    congrArg List.flatten (List.map_congr_left fun id hid => (hkept id hid).symm)
  rw [hsame] at htold
  refine ⟨news ++ more, by rw [hlog, hnews, List.append_assoc], ?_⟩
  rw [List.filter_append, hmore]
  have hall := hsince.flatMap_right d'.announcement
  rw [List.flatMap_append] at hall
  exact ((htold.append_right _).trans List.perm_append_comm).trans hall

theorem Told.quiet (h : d₀.Told d) (hquiet : d.Quiet d') : d₀.Told d' := by
  obtain ⟨more, hmore, hother⟩ := hquiet.log
  have hsince : (d₀.decidedSince d).Perm (d₀.decidedSince d') :=
    (List.perm_ext_iff_of_nodup (nodup_decidedSince ..) (nodup_decidedSince ..)).2 fun id => by
      rw [mem_decidedSince, mem_decidedSince, hquiet.isDecided]
  refine h.grow [] hmore hsince (fun id hid => ?_) (List.filter_eq_nil_iff.2 fun x hx => by simp [hother x hx])
  rcases hquiet.request? with h | ⟨hnone, -⟩
  · exact announcement_congr h hquiet.registries
  · -- A request made meanwhile was not there to be decided.
    have hdecided := (mem_decidedSince.1 hid).1
    rw [Desk.isDecided, hnone] at hdecided
    cases hdecided

theorem isDecided_of_resolve (hr : d.request? id = some r) (h : r.resolve decision now = .ok r') :
    d.isDecided id = false := (isDecided_of_request? hr).trans (Request.resolve_eq_ok_iff.1 h).1

theorem not_mem_decidedSince (hr : d.request? id = some r) (h : r.resolve decision now = .ok r') :
    id ∉ d₀.decidedSince d := by
  rw [mem_decidedSince, isDecided_of_resolve hr h]
  exact fun hmem => Bool.false_ne_true hmem.1

/-- A decision that is taken adds its request to those that have been decided. -/
theorem decidedSince_resolve (hr : d.request? id = some r) (h : r.resolve decision d.clock = .ok r')
    (hfirst : d₀.isDecided id = false) :
    (id :: d₀.decidedSince d).Perm (d₀.decidedSince (d.resolve id decision).2) := by
  have hdecided : (d.resolve id decision).2.isDecided id = true :=
    (isDecided_of_request? (resolve_request?_of_ok hr h)).trans (Request.isTerminal_of_resolve h)
  have hnodup : (id :: d₀.decidedSince d).Nodup := List.nodup_cons.2 ⟨not_mem_decidedSince hr h, nodup_decidedSince ..⟩
  refine (List.perm_ext_iff_of_nodup hnodup (nodup_decidedSince ..)).2 fun i => ?_
  rw [List.mem_cons, mem_decidedSince, mem_decidedSince]
  by_cases hi : i = id
  · simp [hi, hdecided, hfirst]
  · rw [isDecided_congr (resolve_request?_of_ne hi decision)]
    simp [hi]

theorem Told.resolve_of_ok (hr : d.request? id = some r) (h : r.resolve decision d.clock = .ok r')
    (hfirst : d₀.isDecided id = false) (htold : d₀.Told d) : d₀.Told (d.resolve id decision).2 := by
  have hlog : (d.resolve id decision).2.log = d.log ++ r'.announcement d.registries := by rw [resolve_eq_of_ok hr h]
  have hannounced : (d.resolve id decision).2.announcement id = r'.announcement d.registries := by
    rw [announcement, resolve_request?_of_ok hr h, resolve_eq_of_ok hr h]
    exact if_pos (Request.isTerminal_of_resolve h)
  refine htold.grow [id] hlog (decidedSince_resolve hr h hfirst) (fun i hi => ?_) ?_
  · have hne : i ≠ id := fun heq => not_mem_decidedSince hr h (heq ▸ hi)
    refine announcement_congr (resolve_request?_of_ne hne decision) ?_
    rw [resolve_eq_of_ok hr h]
  · rw [List.flatMap_singleton, hannounced]
    exact List.filter_eq_self.2 fun _ => Request.isResolution_of_mem_announcement

theorem Told.resolve (htold : d₀.Told d) (hdecided : ∀ id, d₀.isDecided id = true → d.isDecided id = true) (id : Nat)
    (decision : Decision) : d₀.Told (d.resolve id decision).2 := by
  cases hr : d.request? id with
  | none =>
    simp only [Desk.resolve, hr]
    exact htold
  | some r =>
    cases h : r.resolve decision d.clock with
    | error e =>
      simp only [Desk.resolve, hr, h]
      exact htold
    | ok r' =>
      refine htold.resolve_of_ok hr h (Bool.eq_false_iff.2 fun hbefore => ?_)
      exact Bool.false_ne_true ((isDecided_of_resolve hr h).symm.trans (hdecided id hbefore))

theorem Effect.isDecided (h : Effect B now d d') (hd : d.isDecided id = true) : d'.isDecided id = true := by
  obtain ⟨r, hr, ht⟩ := (Option.any_eq_true ..).1 hd
  rcases h.request? hr with hr' | ⟨decision, r', -, hdecide, hr'⟩
  · rw [isDecided_of_request? hr', ht]
  · rw [isDecided_of_request? hr', Request.isTerminal_of_resolve hdecide]

theorem Effect.told (h : Effect B now d d') (hdecided : ∀ id, d₀.isDecided id = true → d.isDecided id = true)
    (htold : d₀.Told d) : d₀.Told d' := by
  induction h with
  | quiet h => exact htold.quiet h
  | @resolve d id decision _ _ => exact htold.resolve hdecided id decision
  | trans h _ ih ih' => exact ih' (fun id hid => h.isDecided (hdecided id hid)) (ih hdecided htold)

end Desk

namespace Request

/-- A request with a decision and nothing of an earlier one. -/
def decided (r : Request) (decision : Decision) (now : Nat) : Request :=
  { r with record := { r.record with
    status := decision.status
    approver := decision.approver?
    rejecter := decision.rejecter?
    comment := decision.comment?
    resolvedAt := some now } }

variable {id now time : Nat} {thread node reason : String} {timeout registry : Option Nat} {decision : Decision} {r : Request}

end Request

namespace Desk

variable {d : Desk} {r : Request}

end Desk

namespace Happening

variable {d₀ : Desk} {r : Request} {happened : List Happening}

variable {time : Nat} {thread node reason : String} {timeout registry : Option Nat}

end Happening

end GatedFlow
