import Mathlib
import GatedFlow.Approval.Json
import GatedFlow.Config.Json
import GatedFlow.Edits.Json
import GatedFlow.Graph.Description
import GatedFlow.Proofs.Ledger.Reload
import GatedFlow.Text.Uuid

/-! # What is written is read back

Descriptions of graphs, operations, approval records and configurations are read back from their JSON forms as they were.
Their fields follow four conventions for what is empty or absent: metadata and routers are left out when they are empty,
texts that are not known are left out, a router's default and a timeout are written as `null`, and all else is always
written. A number is read back if it fits the word that it is read as. -/

namespace GatedFlow

/-- A value of some type is read back from its form as it was, and its form is then the same. -/
structure ReadsBack {α : Type} (write : α → Value) (read : Value → Option α) (a : α) : Prop where
  reads : read (write a) = some a
  again : ∀ b, read (write a) = some b → write b = write a

theorem ReadsBack.of_reads {α : Type} {write : α → Value} {read : Value → Option α} {a : α} (h : read (write a) = some a) :
    ReadsBack write read a := by
  refine ⟨h, fun b hb => ?_⟩
  rw [h, Option.some.injEq] at hb
  rw [hb]

theorem RoutingStrategy.ofWord?_word (s : RoutingStrategy) : ofWord? s.word = some s := by
  cases s <;> rfl

theorem ApprovalStatus.ofWord?_word (s : ApprovalStatus) : ofWord? s.word = some s := by
  cases s <;> rfl

theorem ApprovalMode.ofWord?_word (m : ApprovalMode) : ofWord? m.word = some m := by
  cases m <;> rfl

theorem string_ne_null (s : String) : Value.string s ≠ .null := by
  intro h
  cases h

theorem NodeDescription.ofValue?_toValue (d : NodeDescription) : ofValue? d.toValue = some d := by
  have hname : d.toValue.required? 0 "name" Value.asString? = some d.name :=
    Value.required?_ofFields (w := .string d.name) (by simp [metadataFields])
  have hmetadata : d.toValue.defaulted? 1 "metadata" .empty Value.asFields? = some d.metadata :=
    Value.defaulted?_unlessEmpty (by simp [metadataFields]) (Value.asFields?_entries d.metadata)
  rw [ofValue?, hname, hmetadata]
  rfl

theorem EdgeDescription.ofValue?_toValue (d : EdgeDescription) : ofValue? d.toValue = some d := by
  have hsource : d.toValue.required? 0 "from" Value.asString? = some d.source :=
    Value.required?_ofFields (w := .string d.source) (by simp [metadataFields])
  have htarget : d.toValue.required? 1 "to" Value.asString? = some d.target :=
    Value.required?_ofFields (w := .string d.target) (by simp [metadataFields])
  have hconditional : d.toValue.required? 2 "conditional" Value.asBool? = some d.conditional :=
    Value.required?_ofFields (w := .bool d.conditional) (by simp [metadataFields])
  have hexpression : d.toValue.optional? 3 "expression" Value.asString? = some d.expression :=
    Value.optional?_ofFields (by simp [metadataFields]) (fun _ _ => rfl) string_ne_null
  have hmetadata : d.toValue.defaulted? 4 "metadata" .empty Value.asFields? = some d.metadata :=
    Value.defaulted?_unlessEmpty (by simp [metadataFields]) (Value.asFields?_entries d.metadata)
  rw [ofValue?, hsource, htarget, hconditional, hexpression, hmetadata]
  rfl

/-- The priorities that a rule can have: those of a signed 32-bit word. -/
def FitsPriority (i : Int) : Prop := -0x80000000 ≤ i ∧ i ≤ 0x7FFFFFFF

instance (i : Int) : Decidable (FitsPriority i) := inferInstanceAs (Decidable (_ ∧ _))

theorem RouteDescription.ofValue?_toValue {d : RouteDescription} (h : FitsPriority d.priority) :
    ofValue? d.toValue = some d := by
  have hname : d.toValue.required? 0 "name" Value.asString? = some d.name :=
    Value.required?_ofFields (w := .string d.name) (by simp [metadataFields])
  have htarget : d.toValue.required? 1 "target" Value.asString? = some d.target :=
    Value.required?_ofFields (w := .string d.target) (by simp [metadataFields])
  have hpriority : d.toValue.required? 2 "priority" (Value.asIntIn? (-0x80000000) 0x7FFFFFFF) = some d.priority :=
    (Value.required?_ofFields (by simp [metadataFields])).trans (Value.asIntIn?_int h)
  have hexpression : d.toValue.optional? 3 "expression" Value.asString? = some d.expression :=
    Value.optional?_ofFields (by simp [metadataFields]) (fun _ _ => rfl) string_ne_null
  have hmetadata : d.toValue.defaulted? 4 "metadata" .empty Value.asFields? = some d.metadata :=
    Value.defaulted?_unlessEmpty (by simp [metadataFields]) (Value.asFields?_entries d.metadata)
  rw [ofValue?, hname, htarget, hpriority, hexpression, hmetadata]
  rfl

theorem RouterDescription.ofValue?_toValue {d : RouterDescription} (h : ∀ rule ∈ d.rules, FitsPriority rule.priority) :
    ofValue? d.toValue = some d := by
  have hname : d.toValue.required? 0 "name" Value.asString? = some d.name :=
    Value.required?_ofFields (w := .string d.name) (by simp)
  have hstrategy : d.toValue.required? 1 "strategy" (Value.asWordOf? RoutingStrategy.ofWord?) = some d.strategy :=
    (Value.required?_ofFields (w := .string d.strategy.word) (by simp)).trans (RoutingStrategy.ofWord?_word d.strategy)
  have hrules : d.toValue.required? 2 "rules" (Value.asList? RouteDescription.ofValue?) = some d.rules :=
    (Value.required?_ofFields (by simp)).trans
      (Value.asList?_map fun rule hrule => RouteDescription.ofValue?_toValue (h rule hrule))
  have hdefault : d.toValue.optional? 3 "default" Value.asString? = some d.default :=
    Value.optional?_ofOptional (by simp)
  rw [ofValue?, hname, hstrategy, hrules, hdefault]
  rfl

theorem GraphDescription.ofValue?_toValue {d : GraphDescription}
    (h : ∀ e ∈ d.routers.entries, ∀ rule ∈ e.2.rules, FitsPriority rule.priority) : ofValue? d.toValue = some d := by
  have hentry : d.toValue.required? 0 "entry_point" Value.asString? = some d.entry :=
    Value.required?_ofFields (w := .string d.entry) (by simp [metadataFields])
  have hnodes : d.toValue.required? 1 "nodes" (Value.asList? NodeDescription.ofValue?) = some d.nodes :=
    (Value.required?_ofFields (by simp [metadataFields])).trans
      (Value.asList?_map fun n _ => NodeDescription.ofValue?_toValue n)
  have hedges : d.toValue.required? 2 "edges" (Value.asList? EdgeDescription.ofValue?) = some d.edges :=
    (Value.required?_ofFields (by simp [metadataFields])).trans
      (Value.asList?_map fun e _ => EdgeDescription.ofValue?_toValue e)
  have hrouters : d.toValue.defaulted? 3 "routers" .empty (Value.asRecord? RouterDescription.ofValue?) = some d.routers :=
    Value.defaulted?_unlessEmpty (by simp [metadataFields])
      (Value.asRecord?_entries fun e he => RouterDescription.ofValue?_toValue (h e he))
  have hmetadata : d.toValue.defaulted? 4 "metadata" .empty Value.asFields? = some d.metadata :=
    Value.defaulted?_unlessEmpty (by simp [metadataFields]) (Value.asFields?_entries d.metadata)
  rw [ofValue?, hentry, hnodes, hedges, hrouters, hmetadata]
  rfl

theorem Graph.describe_priorities {g : Graph} (h : ∀ e ∈ g.routers.entries, ∀ rule ∈ e.2.rules, FitsPriority rule.priority) :
    ∀ e ∈ g.describe.routers.entries, ∀ rule ∈ e.2.rules, FitsPriority rule.priority := by
  intro e he rule hrule
  obtain ⟨e', he', rfl⟩ := List.mem_map.1 (Record.mem_ofList he)
  obtain ⟨rule', hrule', rfl⟩ := List.mem_map.1 hrule
  exact h e' he' rule' hrule'

theorem Operation.ofValue?_toValue (op : Operation) : ofValue? op.toValue = some op := by
  cases op with
  | delete field =>
    have hkind : (delete field).toValue.required? 0 "type" (fun w => w.asString?.bind ChangeKind.ofWord?) = some .delete :=
      Value.required?_ofFields (w := .string "delete") (by simp)
    have hfield : (delete field).toValue.required? 1 "field" Value.asString? = some field :=
      Value.required?_ofFields (w := .string field) (by simp)
    rw [ofValue?, hkind, hfield]
    rfl
  | update field value =>
    have hkind : (update field value).toValue.required? 0 "type" (fun w => w.asString?.bind ChangeKind.ofWord?) =
        some .update := Value.required?_ofFields (w := .string "update") (by simp)
    have hfield : (update field value).toValue.required? 1 "field" Value.asString? = some field :=
      Value.required?_ofFields (w := .string field) (by simp)
    have hvalue : (update field value).toValue.required? 2 "value" some = some value :=
      Value.required?_ofFields (by simp)
    simp only [ofValue?, hkind, hfield, hvalue, Option.bind_eq_bind, Option.bind_some]
    rfl
  | append field value =>
    have hkind : (append field value).toValue.required? 0 "type" (fun w => w.asString?.bind ChangeKind.ofWord?) =
        some .append := Value.required?_ofFields (w := .string "append") (by simp)
    have hfield : (append field value).toValue.required? 1 "field" Value.asString? = some field :=
      Value.required?_ofFields (w := .string field) (by simp)
    have hvalue : (append field value).toValue.required? 2 "value" some = some value :=
      Value.required?_ofFields (by simp)
    simp only [ofValue?, hkind, hfield, hvalue, Option.bind_eq_bind, Option.bind_some]
    rfl

variable {Id Time : Type}

theorem ApprovalRecord.ofValue?_toValue {ids : TextForm Id} {times : TextForm Time} {r : ApprovalRecord Id Time}
    (hid : ids.read? (ids.write r.id) = some r.id) (hcreated : times.read? (times.write r.createdAt) = some r.createdAt)
    (hresolved : ∀ t, r.resolvedAt = some t → times.read? (times.write t) = some t)
    (htimeout : ∀ ms, r.timeoutMs = some ms → ms < wordCount) :
    ofValue? ids times (r.toValue ids times) = some r := by
  have hid : (r.toValue ids times).required? 0 "request_id" ids.ofValue? = some r.id :=
    (Value.required?_ofFields (w := ids.toValue r.id) (by simp)).trans hid
  have hthread : (r.toValue ids times).required? 1 "state_id" Value.asString? = some r.thread :=
    Value.required?_ofFields (w := .string r.thread) (by simp)
  have hnode : (r.toValue ids times).required? 2 "node_name" Value.asString? = some r.node :=
    Value.required?_ofFields (w := .string r.node) (by simp)
  have hreason : (r.toValue ids times).required? 3 "reason" Value.asString? = some r.reason :=
    Value.required?_ofFields (w := .string r.reason) (by simp)
  have htimeout : (r.toValue ids times).optional? 4 "timeout_ms" Value.asWord? = some r.timeoutMs :=
    Value.optional?_ofFields (by simp) (fun ms hms => Value.asWord?_int (htimeout ms hms)) fun _ h => by cases h
  have hstatus : (r.toValue ids times).required? 5 "status" (Value.asWordOf? ApprovalStatus.ofWord?) = some r.status :=
    (Value.required?_ofFields (w := .string r.status.word) (by simp)).trans (ApprovalStatus.ofWord?_word r.status)
  have happrover : (r.toValue ids times).optional? 6 "approver" Value.asString? = some r.approver :=
    Value.optional?_ofFields (by simp) (fun _ _ => rfl) string_ne_null
  have hrejecter : (r.toValue ids times).optional? 7 "rejecter" Value.asString? = some r.rejecter :=
    Value.optional?_ofFields (by simp) (fun _ _ => rfl) string_ne_null
  have hcomment : (r.toValue ids times).optional? 8 "comment" Value.asString? = some r.comment :=
    Value.optional?_ofFields (by simp) (fun _ _ => rfl) string_ne_null
  have hcreated : (r.toValue ids times).required? 9 "created_at" times.ofValue? = some r.createdAt :=
    (Value.required?_ofFields (w := times.toValue r.createdAt) (by simp)).trans hcreated
  have hread : ∀ t, r.resolvedAt = some t → times.ofValue? (times.toValue t) = some t := hresolved
  have hresolved : (r.toValue ids times).optional? 10 "resolved_at" times.ofValue? = some r.resolvedAt :=
    Value.optional?_ofFields (by simp) hread fun _ => string_ne_null _
  rw [ofValue?, hid, hthread, hnode, hreason, htimeout, hstatus, happrover, hrejecter, hcomment, hcreated, hresolved]
  rfl

theorem Config.ofValue?_toValue {c : Config} (hsteps : c.maxSteps < wordCount)
    (htimeout : ∀ secs, c.timeoutSecs = some secs → secs < wordCount) : ofValue? c.toValue = some c := by
  have hsteps : c.toValue.defaulted? 0 "max_steps" standard.maxSteps Value.asWord? = some c.maxSteps :=
    (Value.defaulted?_ofFields (by simp)).trans (Value.asWord?_int hsteps)
  have hmode : c.toValue.defaulted? 1 "approval_mode" standard.mode (Value.asWordOf? ApprovalMode.ofWord?) = some c.mode :=
    (Value.defaulted?_ofFields (w := .string c.mode.word) (by simp)).trans (ApprovalMode.ofWord?_word c.mode)
  have htimeout : c.toValue.defaulted? 2 "approval_timeout_secs" standard.timeoutSecs (Value.nullable? Value.asWord?) =
      some c.timeoutSecs := by
    refine (Value.defaulted?_ofFields (w := (c.timeoutSecs.map fun (n : Nat) => Value.int n).getD .null)
      (by cases c.timeoutSecs <;> simp)).trans ?_
    exact Value.nullable?_getD (fun secs hsecs => Value.asWord?_int (htimeout secs hsecs)) fun _ h => by cases h
  have hversion : c.toValue.defaulted? 3 "state_version" standard.version Value.asString? = some c.version :=
    Value.defaulted?_ofFields (w := .string c.version) (by simp)
  have hfilter : c.toValue.defaulted? 4 "log_filter" standard.logFilter Value.asString? = some c.logFilter :=
    Value.defaulted?_ofFields (w := .string c.logFilter) (by simp)
  rw [ofValue?, hsteps, hmode, htimeout, hversion, hfilter]
  rfl

/-- The description of every graph is read back from its JSON form as it was, and so is every operation, every record of a
request whose id and times are read back, and every configuration, as long as priorities, times to wait and limits fit the
words that they are kept in. What is read back is written the same again. -/
theorem forms_read_back :
    (∀ g : Graph, (∀ e ∈ g.routers.entries, ∀ rule ∈ e.2.rules, FitsPriority rule.priority) →
      ReadsBack GraphDescription.toValue GraphDescription.ofValue? g.describe) ∧
    (∀ op : Operation, ReadsBack Operation.toValue Operation.ofValue? op) ∧
    (∀ (ids : TextForm Id) (times : TextForm Time) (r : ApprovalRecord Id Time),
      ids.read? (ids.write r.id) = some r.id → times.read? (times.write r.createdAt) = some r.createdAt →
      (∀ t, r.resolvedAt = some t → times.read? (times.write t) = some t) →
      (∀ ms, r.timeoutMs = some ms → ms < wordCount) →
      ReadsBack (ApprovalRecord.toValue ids times) (ApprovalRecord.ofValue? ids times) r) ∧
    ∀ c : Config, c.maxSteps < wordCount → (∀ secs, c.timeoutSecs = some secs → secs < wordCount) →
      ReadsBack Config.toValue Config.ofValue? c := by
  refine ⟨fun g hg => ?_, fun op => ?_, fun ids times r hid hcreated hresolved htimeout => ?_, fun c hsteps htimeout => ?_⟩
  · exact .of_reads (GraphDescription.ofValue?_toValue (Graph.describe_priorities hg))
  · exact .of_reads op.ofValue?_toValue
  · exact .of_reads (ApprovalRecord.ofValue?_toValue hid hcreated hresolved htimeout)
  · exact .of_reads (Config.ofValue?_toValue hsteps htimeout)

/-- A node with a router, a rule without a source and with metadata, and no default; a guarded edge and an open one. -/
def branching : Graph := .ofParts
  [⟨"in", Action.idle, .empty⟩, ⟨"out", Action.idle, Record.empty.insert "owner" .null⟩]
  [⟨"in", "out", some (.test fun _ => .answer (.ok true)), .empty⟩, ⟨"out", "in", none, Record.empty.insert "cost" (.int 3)⟩]
  "in"
  (Record.empty.insert "in" ⟨"branch", .priority,
    [⟨"far", .test fun _ => .answer (.ok true), "out", -7, Record.empty.insert "by" (.array [])⟩], none⟩)
  .empty

/-- A request that was refused late and without a word. -/
def refusedRecord : ApprovalRecord Uuid Timestamp where
  id := ⟨0x0123456789abcdef0123456789abcdef⟩
  thread := "t"
  node := "deploy"
  reason := ""
  timeoutMs := some 1500
  status := .rejected
  approver := none
  rejecter := some "eve"
  comment := none
  createdAt := ⟨1714979289, 0⟩
  resolvedAt := some ⟨1714979290, 500000000⟩

theorem forms_read_back_branching :
    (∀ e ∈ branching.routers.entries, ∀ rule ∈ e.2.rules, FitsPriority rule.priority) ∧
    Uuid.form.read? (Uuid.form.write refusedRecord.id) = some refusedRecord.id ∧
    ReadsBack GraphDescription.toValue GraphDescription.ofValue? branching.describe ∧
    ReadsBack Operation.toValue Operation.ofValue? (.append "log" .null) ∧
    ReadsBack (ApprovalRecord.toValue Uuid.form Timestamp.form) (ApprovalRecord.ofValue? Uuid.form Timestamp.form)
      refusedRecord ∧
    ReadsBack Config.toValue Config.ofValue? { Config.standard with timeoutSecs := some 2 } := by
  have hpriorities : ∀ e ∈ branching.routers.entries, ∀ rule ∈ e.2.rules, FitsPriority rule.priority := by decide
  have hid : Uuid.form.read? (Uuid.form.write refusedRecord.id) = some refusedRecord.id := by decide +kernel
  have hcreated : Timestamp.form.read? (Timestamp.form.write refusedRecord.createdAt) = some refusedRecord.createdAt := by
    decide +kernel
  have hresolved : ∀ t, refusedRecord.resolvedAt = some t → Timestamp.form.read? (Timestamp.form.write t) = some t := by
    rintro _ ⟨⟩
    decide +kernel
  obtain ⟨hgraphs, hoperations, hrecords, hconfigs⟩ := @forms_read_back Uuid Timestamp
  refine ⟨hpriorities, hid, hgraphs branching hpriorities, hoperations _, ?_, ?_⟩
  · exact hrecords _ _ refusedRecord hid hcreated hresolved (by rintro _ ⟨⟩; decide)
  · exact hconfigs _ (by decide) (by rintro _ ⟨⟩; decide)

end GatedFlow
