import GatedFlow.Proofs.Edits.Schema
import GatedFlow.Proofs.Session.Contract
import Mathlib

/-! # Sessions that keep to a schema

Every command but a direct save to the store keeps to the contract of a schema (`Command.AsksSchema.allowed`), and so does
every edit that a run calls for (`Engine.runsKeep_schema`). So all stored states stay accepted in whole sessions of any
commands and runs (`stored_accepted`). -/

namespace GatedFlow

variable {schema : Schema} {rules : EditRules}

/-- Not a state that is given to the store directly, past the rules for edits. -/
def Command.AsksSchema : Command → Prop
  | .store (.save ..) => False
  | _ => True

/-- The commands that a step brings, at once or while it waits. -/
def Step.commands : Step → List Command
  | .command c => [c]
  | .together _ => []
  | .wait _ _ commands => commands.map Prod.snd
  | .invoke _ _ commands => commands.map Prod.snd
  | .resume _ commands => commands.map Prod.snd

theorem Command.AsksSchema.allowed {c : Command} (hc : c.AsksSchema) (hschema : rules.schema = some schema) :
    c.Allowed schema.contract (fun s => schema.AcceptsAll s.snapshots) rules := by
  cases c with
  | edit c => exact c.keeps hschema
  | store c =>
    cases c with
    | save key st => exact hc.elim
    | plan kind p => exact fun _ hs => hs
    | _ => trivial
  | desk c => trivial

theorem Engine.runsKeep_schema {E : Engine} (hschema : E.rules.schema = some schema) (thread : String) :
    E.RunsKeep schema.contract thread := by
  intro β call h
  cases h with
  | load => exact (Edit.keeps_loadState thread).mono fun _ _ => trivial
  | loadForResume version => exact Edit.keeps_loadForResume _ version
  | save st =>
    rw [hschema]
    exact Edit.keeps_saveState st
  | modify updates =>
    rw [hschema]
    exact (Edit.keeps_modify updates).mono fun _ _ => trivial
  | deleteField field =>
    rw [hschema]
    exact (Edit.keeps_deleteField field).mono fun _ _ => trivial
  | setStatus status =>
    rw [hschema]
    exact Edit.keeps_setStatus status
  | _ => trivial

namespace Turn

variable {t : Turn} {w : World}

/-- Edits and runs with a schema, and commands that ask it, keep to its contract. -/
theorem allowed_of_asksSchema (hschema : t.engine.rules.schema = some schema)
    (ht : ∀ c ∈ t.step.commands, c.AsksSchema) : t.Allowed schema.contract fun s => schema.AcceptsAll s.snapshots := by
  obtain ⟨E, patience, s⟩ := t
  cases s with
  | command c => exact (ht c (List.mem_singleton_self c)).allowed hschema
  | together edits => exact fun c _ => c.keeps hschema
  | wait thread limit commands => exact ⟨Engine.runsKeep_schema hschema thread, fun c hc => (ht c hc).allowed hschema⟩
  | invoke thread initial commands => exact ⟨Engine.runsKeep_schema hschema thread, fun c hc => (ht c hc).allowed hschema⟩
  | resume thread commands => exact ⟨Engine.runsKeep_schema hschema thread, fun c hc => (ht c hc).allowed hschema⟩

theorem after_accepts {turns : List Turn}
    (hturns : ∀ t ∈ turns, t.engine.rules.schema = some schema ∧ ∀ c ∈ t.step.commands, c.AsksSchema)
    (hw : schema.AcceptsAll w.store.snapshots) : schema.AcceptsAll (after turns w).store.snapshots :=
  after_keeps (fun t ht => allowed_of_asksSchema (hturns t ht).1 (hturns t ht).2) schema.served hw

end Turn

/-- A session begins with nothing stored. Whatever edits, runs and other commands it consists of, and whatever fails in
it, every state that is stored in the end keeps to the schema of its edits, if they all have the same and nothing is saved
past them. -/
theorem stored_accepted {turns : List Turn} {w : World} (hempty : w.store.snapshots = .empty)
    (hturns : ∀ t ∈ turns, t.engine.rules.schema = some schema ∧ ∀ c ∈ t.step.commands, c.AsksSchema) :
    ∀ key st, (Turn.after turns w).store.snapshots.get? key = some st → schema.validate st = .ok () := by
  refine Turn.after_accepts hturns ?_
  rw [hempty]
  exact Schema.acceptsAll_empty

def closedSchema : Schema := ⟨(Record.empty.insert "items" .sequence).insert statusField .scalar, false⟩

/-- An engine whose schema refuses what its node is to set. -/
def closed : Engine where
  graph := .ofParts [⟨"a", .assign (Record.empty.insert "n" .null), .empty⟩] [] "a" .empty .empty
  config := .standard
  rules := ⟨some closedSchema, .strict⟩
  registry := 0

/-- A thread gets a field and a checkpoint with it; then an update is refused, a save fails, and a run overwrites the
thread and fails at its node. -/
def closedTurns : List Turn :=
  [.command (.edit (.saveState "t" .empty)), .command (.edit (.append "t" "items" .null)),
    .command (.edit (.createCheckpoint "t" "c")), .command (.edit (.modify "t" (Record.empty.insert "items" .null))),
    .command (.store (.plan .save (.block 0 1))), .command (.edit (.setStatus "t" runningStatus)),
    .invoke "t" .empty []].map (⟨closed, patience, ·⟩)

theorem stored_accepted_closed :
    (∀ t ∈ closedTurns, t.engine.rules.schema = some closedSchema ∧ ∀ c ∈ t.step.commands, c.AsksSchema) ∧
    (Turn.after closedTurns (.fresh [] [] none)).store.snapshots.entries =
      [("t", .empty), (checkpointKey "t" "c", State.empty.set "items" (.array [.null]))] ∧
    ∀ key st, (Turn.after closedTurns (.fresh [] [] none)).store.snapshots.get? key = some st →
      closedSchema.validate st = .ok () := by
  have hturns : ∀ t ∈ closedTurns,
      t.engine.rules.schema = some closedSchema ∧ ∀ c ∈ t.step.commands, c.AsksSchema := by
    simp [closedTurns, closed, Step.commands, Command.AsksSchema]
  exact ⟨hturns, by cbv, stored_accepted rfl hturns⟩

end GatedFlow
