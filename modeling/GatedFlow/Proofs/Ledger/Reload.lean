import Mathlib
import GatedFlow.Ledger.Json
import GatedFlow.Proofs.Edits.Ledger
import GatedFlow.Proofs.Json.Layout
import GatedFlow.Time.Timestamp

/-! # A ledger that was written and read back

What a change remembers of its field is written only if there is something, and `null` is read as nothing. So a change
of a field that held `null` comes back as one of a field that was missing (`Change.reloaded`), and every other change
comes back as it was (`DatedChange.ofValue?_toValue`). To undo a ledger is to give each field what its first change
remembers (`Change.get?_undoAll`), so a reloaded ledger undoes the same unless the first change of some field remembers
`null`. -/

namespace GatedFlow

theorem ChangeKind.ofWord?_word (kind : ChangeKind) : ofWord? kind.word = some kind := by
  cases kind <;> rfl

namespace Change

/-- What a change comes back as: that its field held `null` is not told from that it was missing. -/
def reloaded (c : Change) : Change :=
  { c with
    previous := match c.previous with
      | some .null => none
      | previous => previous }

variable {c : Change} {changes : List Change} {field : String} {s : State}

theorem reloaded_previous_of_null (h : c.previous = some .null) : c.reloaded.previous = none := by
  simp only [reloaded, h]

theorem reloaded_previous_of_ne_null (h : c.previous ≠ some .null) : c.reloaded.previous = c.previous := by
  simp only [reloaded]

theorem reloaded_previous_eq_iff : c.reloaded.previous = c.previous ↔ c.previous ≠ some .null := by
  constructor
  · intro heq hnull
    rw [reloaded_previous_of_null hnull, hnull] at heq
    cases heq
  · exact reloaded_previous_of_ne_null

theorem reloaded_eq_self_iff : c.reloaded = c ↔ c.previous ≠ some .null := by
  refine Iff.trans ⟨fun h => congrArg previous h, fun h => ?_⟩ reloaded_previous_eq_iff
  have hsame : c.reloaded = { c with previous := c.reloaded.previous } := rfl
  rw [hsame, h]

/-- The oldest change of a field. -/
def firstOn (field : String) (changes : List Change) : Option Change := changes.find? (·.field == field)

theorem firstOn_cons (field : String) (c : Change) (changes : List Change) :
    firstOn field (c :: changes) = if c.field = field then some c else firstOn field changes := by
  by_cases h : c.field = field <;> simp [firstOn, h]

theorem firstOn_reloaded (field : String) (changes : List Change) :
    firstOn field (changes.map reloaded) = (firstOn field changes).map reloaded := by
  induction changes with
  | nil => rfl
  | cons c changes ih =>
    have hfield : c.reloaded.field = c.field := rfl
    rw [List.map_cons, firstOn_cons, firstOn_cons, ih, hfield]
    split <;> rfl

theorem get?_undo (c : Change) (s : State) (field : String) :
    (c.undo s).get? field = if c.field = field then c.previous else s.get? field := by
  unfold undo
  cases c.previous with
  | none => exact State.get?_remove ..
  | some v => exact State.get?_set ..

/-- What a field holds once changes are taken back is what its oldest change remembers. -/
theorem get?_undoAll (changes : List Change) (s : State) (field : String) :
    (undoAll changes s).get? field = match firstOn field changes with
      | some c => c.previous
      | none => s.get? field := by
  induction changes with
  | nil => rfl
  | cons c changes ih =>
    have hundo : undoAll (c :: changes) s = c.undo (undoAll changes s) := rfl
    rw [hundo, get?_undo, firstOn_cons]
    split
    · rfl
    · exact ih

theorem undoAll_reloaded_iff :
    undoAll (changes.map reloaded) s = undoAll changes s ↔
      ∀ field c, firstOn field changes = some c → c.previous ≠ some .null := by
  have hfield : ∀ field, (undoAll (changes.map reloaded) s).get? field = (undoAll changes s).get? field ↔
      ∀ c, firstOn field changes = some c → c.previous ≠ some .null := by
    intro field
    rw [get?_undoAll, get?_undoAll, firstOn_reloaded]
    cases hfirst : firstOn field changes with
    | none => simp
    | some c =>
      have hiff : c.reloaded.previous = c.previous ↔ c.previous ≠ some .null := reloaded_previous_eq_iff
      exact ⟨fun h c' hc' => by cases hc'; exact hiff.1 h, fun h => hiff.2 (h c rfl)⟩
  constructor
  · intro h field
    exact (hfield field).1 (by rw [h])
  · intro h
    exact State.ext_get? fun field => (hfield field).2 (h field)

theorem firstOn_eq_none_iff : firstOn field changes = none ↔ ∀ c ∈ changes, c.field ≠ field := by
  simp [firstOn]

theorem firstOn_field {c : Change} (h : firstOn field changes = some c) : c ∈ changes ∧ c.field = field :=
  ⟨List.mem_of_find?_eq_some h, by simpa using List.find?_some h⟩

/-- Changes that came back take a state back just if they have changed no field that held `null` before. -/
theorem undoAll_reloaded_eq_iff {before : State} (hundo : undoAll changes s = before) :
    undoAll (changes.map reloaded) s = before ↔ ∀ c ∈ changes, before.get? c.field ≠ some .null := by
  have hfirst : ∀ field c, firstOn field changes = some c → c.previous = before.get? field := by
    intro field c hc
    rw [← hundo, get?_undoAll, hc]
  rw [← hundo, undoAll_reloaded_iff, hundo]
  constructor
  · intro h c hc
    obtain ⟨c', hc'⟩ : ∃ c', firstOn c.field changes = some c' :=
      Option.ne_none_iff_exists'.1 fun hnone => firstOn_eq_none_iff.1 hnone c hc rfl
    rw [← hfirst _ _ hc']
    exact h _ _ hc'
  · intro h field c hc
    obtain ⟨hmem, rfl⟩ := firstOn_field hc
    rw [hfirst _ _ hc]
    exact h c hmem

end Change

namespace DatedChange

variable {Time : Type} {form : TextForm Time}

def reloaded (d : DatedChange Time) : DatedChange Time := ⟨d.change.reloaded, d.time⟩

theorem reloaded_eq_self_iff {d : DatedChange Time} : d.reloaded = d ↔ d.change.previous ≠ some .null := by
  obtain ⟨c, time⟩ := d
  rw [reloaded, mk.injEq]
  exact (and_iff_left rfl).trans Change.reloaded_eq_self_iff

/-- The fields that a dated change is written with. -/
def writtenFields (form : TextForm Time) (d : DatedChange Time) : List (String × Value) :=
  [("modification_type", .string d.change.kind.word), ("field", .string d.change.field), ("value", d.change.value)] ++
    writtenIf "previous" id d.change.previous ++ [("timestamp", form.toValue d.time)]

theorem get?_writtenFields (form : TextForm Time) (d : DatedChange Time) :
    let r := Record.ofList (writtenFields form d)
    r.get? "modification_type" = some (.string d.change.kind.word) ∧ r.get? "field" = some (.string d.change.field) ∧
      r.get? "value" = some d.change.value ∧ r.get? "previous" = d.change.previous ∧
      r.get? "timestamp" = some (form.toValue d.time) := by
  unfold writtenFields
  simp

theorem defaulted?_previous (form : TextForm Time) (d : DatedChange Time) :
    (d.toValue form).defaulted? 3 "previous" none (Value.nullable? some) = some d.change.reloaded.previous := by
  obtain ⟨-, -, -, hprevious, -⟩ := get?_writtenFields form d
  have hwritten : d.toValue form = .ofFields (writtenFields form d) := rfl
  rw [hwritten]
  cases hc : d.change.previous with
  | none =>
    rw [Change.reloaded_previous_of_ne_null (by simp [hc]), hc]
    exact Value.defaulted?_ofFields_of_none (hprevious.trans hc)
  | some v =>
    rw [Value.defaulted?_ofFields (hprevious.trans hc)]
    cases v with
    | null => rw [Change.reloaded_previous_of_null hc]; rfl
    | _ => rw [Change.reloaded_previous_of_ne_null (by simp [hc]), hc]; rfl

/-- A change that is written and read back is there again, and at the same time. -/
theorem ofValue?_toValue {d : DatedChange Time} (htime : form.read? (form.write d.time) = some d.time) :
    ofValue? form (d.toValue form) = some d.reloaded := by
  obtain ⟨hkind, hfield, hvalue, -, hwhen⟩ := get?_writtenFields form d
  have hwritten : d.toValue form = .ofFields (writtenFields form d) := rfl
  have hprevious := defaulted?_previous form d
  rw [hwritten] at hprevious
  have hread : Value.asWordOf? ChangeKind.ofWord? (.string d.change.kind.word) = some d.change.kind :=
    ChangeKind.ofWord?_word _
  have htimed : form.ofValue? (form.toValue d.time) = some d.time := htime
  rw [hwritten, ofValue?, Value.required?_ofFields hkind, Value.required?_ofFields hfield,
    Value.required?_ofFields hvalue, hprevious, Value.required?_ofFields hwhen, hread, htimed]
  rfl

/-- The changes that a written ledger is read back as. -/
def reload? (form : TextForm Time) (ledger : List (DatedChange Time)) : Option (List (DatedChange Time)) :=
  ledger.mapM fun d => ofValue? form (d.toValue form)

theorem reload?_eq {ledger : List (DatedChange Time)}
    (htimes : ∀ d ∈ ledger, form.read? (form.write d.time) = some d.time) :
    reload? form ledger = some (ledger.map reloaded) := by
  unfold reload?
  induction ledger with
  | nil => rfl
  | cons d ledger ih =>
    obtain ⟨htime, htimes⟩ := List.forall_mem_cons.1 htimes
    rw [List.mapM_cons, ofValue?_toValue htime, ih htimes]
    rfl

theorem map_reloaded_eq_self_iff {ledger : List (DatedChange Time)} :
    ledger.map reloaded = ledger ↔ ∀ d ∈ ledger, d.change.previous ≠ some .null := by
  induction ledger with
  | nil => simp
  | cons d ledger ih =>
    rw [List.map_cons, List.cons.injEq, ih, reloaded_eq_self_iff, List.forall_mem_cons]

theorem map_change_reloaded (ledger : List (DatedChange Time)) :
    (ledger.map reloaded).map change = (ledger.map change).map Change.reloaded := by
  rw [List.map_map, List.map_map]
  rfl

end DatedChange

namespace EditCommand

variable {Time : Type} {form : TextForm Time} {rules : EditRules} {s : Store} {thread : String} {seed : State}
  {commands : List EditCommand}

/-- After a thread has been given a state and edited, undoing its reloaded ledger gives that state back just if no field
that was `null` in it has been changed. -/
theorem undo_reloaded_eq_seed_iff (hs : s.Reliable) (hledger : s.ledger thread = [])
    (hseed : Schema.allows rules.schema (·.validate seed) = .ok ())
    (hcommands : ∀ command ∈ commands, command.IsRecorded thread) {dated : List (DatedChange Time)}
    (hdated : dated.map (·.change) = (runAll rules (.saveState thread seed :: commands) s).ledger thread)
    (htimes : ∀ d ∈ dated, form.read? (form.write d.time) = some d.time) :
    ∃ back st, DatedChange.reload? form dated = some back ∧
      (runAll rules (.saveState thread seed :: commands) s).snapshots.get? thread = some st ∧
      (Change.undoAll (back.map (·.change)) st = seed ↔ ∀ d ∈ dated, seed.get? d.change.field ≠ some .null) := by
  obtain ⟨hst, hkept⟩ : _ ∧ (((saveState thread seed).edit rules).run s).2.ledger thread = s.ledger thread :=
    stored_saveState hs hseed
  have hseeded : Change.Leads seed ((((saveState thread seed).edit rules).run s).2.ledger thread) seed := by
    rw [hkept, hledger]
    exact .nil seed
  obtain ⟨st, hst, hleads⟩ := leads_runAll (Edit.run_reliable _ hs) hcommands hst hseeded
  refine ⟨dated.map DatedChange.reloaded, st, DatedChange.reload?_eq htimes, hst, ?_⟩
  have hundo : Change.undoAll (dated.map (·.change)) st = seed := by
    rw [hdated]
    exact hleads.undo
  rw [DatedChange.map_change_reloaded, Change.undoAll_reloaded_eq_iff hundo, List.forall_mem_map]

/-- Edits of a thread with a field that is `null` at first and one that becomes `null` in between. -/
def nulledEdits : List EditCommand :=
  [.saveState "t" ((State.empty.set "a" .null).set "b" (.int 1)),
    .batch "t" [.update "a" (.int 1), .update "b" .null], .modify "t" (Record.empty.insert "b" (.int 2))]

def nulledStore : Store := runAll ⟨none, .lenient⟩ nulledEdits .empty

/-- What has been recorded of a thread, a change each second. -/
def nulledLedger : List (DatedChange Timestamp) := (nulledStore.ledger "t").mapIdx fun i c => ⟨c, ⟨1714979289 + i, 0⟩⟩

end EditCommand

namespace DatedChange

open EditCommand

theorem nulledLedger_eq : nulledLedger =
    [⟨⟨.update, "a", .int 1, some .null⟩, ⟨1714979289, 0⟩⟩, ⟨⟨.update, "b", .null, some (.int 1)⟩, ⟨1714979290, 0⟩⟩,
      ⟨⟨.update, "b", .int 2, some .null⟩, ⟨1714979291, 0⟩⟩] := by
  cbv

theorem times_nulledLedger :
    ∀ d ∈ nulledLedger, Timestamp.form.read? (Timestamp.form.write d.time) = some d.time := by
  rw [nulledLedger_eq]
  decide +kernel

variable {Time : Type} {form : TextForm Time}

/-- Every ledger is read back, change by change. A change comes back as it was unless it remembers `null`, and the
ledger that comes back undoes what the written one does unless the first change of some field remembers `null`. -/
theorem ledger_reloaded {ledger : List (DatedChange Time)}
    (htimes : ∀ d ∈ ledger, form.read? (form.write d.time) = some d.time) :
    reload? form ledger = some (ledger.map reloaded) ∧
      (∀ d ∈ ledger, d.reloaded = d ↔ d.change.previous ≠ some .null) ∧
      (ledger.map reloaded = ledger ↔ ∀ d ∈ ledger, d.change.previous ≠ some .null) ∧
      ∀ s, Change.undoAll ((ledger.map reloaded).map change) s = Change.undoAll (ledger.map change) s ↔
        ∀ field c, Change.firstOn field (ledger.map change) = some c → c.previous ≠ some .null := by
  refine ⟨reload?_eq htimes, fun d _ => reloaded_eq_self_iff, map_reloaded_eq_self_iff, fun s => ?_⟩
  rw [map_change_reloaded]
  exact Change.undoAll_reloaded_iff

theorem ledger_reloaded_nulledLedger :
    (∀ d ∈ nulledLedger, Timestamp.form.read? (Timestamp.form.write d.time) = some d.time) ∧
      reload? Timestamp.form nulledLedger = some (nulledLedger.map reloaded) ∧
      (∀ d ∈ nulledLedger, d.reloaded = d ↔ d.change.previous ≠ some .null) ∧
      (nulledLedger.map reloaded = nulledLedger ↔ ∀ d ∈ nulledLedger, d.change.previous ≠ some .null) ∧
      ∀ s, Change.undoAll ((nulledLedger.map reloaded).map change) s = Change.undoAll (nulledLedger.map change) s ↔
        ∀ field c, Change.firstOn field (nulledLedger.map change) = some c → c.previous ≠ some .null :=
  ⟨times_nulledLedger, ledger_reloaded times_nulledLedger⟩

/-- The field `a` was `null`; undoing the reloaded ledger leaves the thread without it. -/
theorem not_reloaded_nulledLedger :
    (¬∀ d ∈ nulledLedger, ofValue? Timestamp.form (d.toValue Timestamp.form) = some d) ∧
      ∃ back st, reload? Timestamp.form nulledLedger = some back ∧ nulledStore.snapshots.get? "t" = some st ∧
        (Change.undoAll (nulledLedger.map change) st).get? "a" = some .null ∧
        (Change.undoAll (back.map change) st).get? "a" = none := by
  refine ⟨fun h => ?_, _, (State.empty.set "a" (.int 1)).set "b" (.int 2), reload?_eq times_nulledLedger, by cbv, ?_, ?_⟩
  · have hfirst : (⟨⟨.update, "a", .int 1, some .null⟩, ⟨1714979289, 0⟩⟩ : DatedChange Timestamp) ∈ nulledLedger := by
      rw [nulledLedger_eq]
      exact List.mem_cons_self
    have hback := h _ hfirst
    rw [ofValue?_toValue (times_nulledLedger _ hfirst), Option.some.injEq, reloaded_eq_self_iff] at hback
    exact hback rfl
  · rw [nulledLedger_eq]
    rfl
  · rw [nulledLedger_eq]
    rfl

end DatedChange
end GatedFlow
