import GatedFlow.Json.Layout
import GatedFlow.Proofs.State.Records

/-! # Fields that are written and read back

How a field of a written record is read depends on what was written under its name alone. A field that is written only if
there is something (`writtenIf`, `writtenUnlessEmpty`) is read as what it was if the reader takes its absence for nothing
and what is written is not taken for nothing (`optional?_ofFields`, `defaulted?_unlessEmpty`). -/

namespace GatedFlow

variable {α : Type}

section Written

variable {key : String} {write : α → Value}

@[simp] theorem get?_writtenIf (o : Option α) (name : String) :
    (Record.ofList (writtenIf key write o)).get? name = if key = name then o.map write else none := by
  cases o with
  | none => simp [writtenIf]
  | some a => simp [writtenIf]

@[simp] theorem get?_writtenUnlessEmpty (r : Record α) (name : String) :
    (Record.ofList (writtenUnlessEmpty key write r)).get? name =
      if key = name ∧ r.isEmpty = false then some (.object (r.entries.map fun e => (e.1, write e.2))) else none := by
  unfold writtenUnlessEmpty
  cases hempty : r.isEmpty <;> simp

end Written

namespace Value

variable {fields : List (String × Value)} {name : String} {place : Nat} {read : Value → Option α} {write : α → Value}
  {w : Value}

theorem slot?_ofFields {presence : Presence} (h : (Record.ofList fields).get? name = some w) :
    (ofFields fields).slot? place name presence = some (some w) := by
  have hfind : findEntry name (Record.ofList fields).entries = some w := h
  simp only [ofFields, slot?, hfind]

theorem slot?_ofFields_of_none {presence : Presence} (hpresence : presence ≠ .required)
    (h : (Record.ofList fields).get? name = none) : (ofFields fields).slot? place name presence = some none := by
  have hfind : findEntry name (Record.ofList fields).entries = none := h
  simp only [ofFields, slot?, hfind, if_neg hpresence]

theorem required?_ofFields (h : (Record.ofList fields).get? name = some w) :
    (ofFields fields).required? place name read = read w := by
  rw [required?, slot?_ofFields h]
  rfl

theorem defaulted?_ofFields {default : α} (h : (Record.ofList fields).get? name = some w) :
    (ofFields fields).defaulted? place name default read = read w := by
  rw [defaulted?, slot?_ofFields h]
  rfl

theorem defaulted?_ofFields_of_none {default : α} (h : (Record.ofList fields).get? name = none) :
    (ofFields fields).defaulted? place name default read = some default := by
  rw [defaulted?, slot?_ofFields_of_none (by decide) h]
  rfl

theorem nullable?_of_ne_null (h : w ≠ .null) : nullable? read w = (read w).map some := by
  cases w with
  | null => exact absurd rfl h
  | _ => rfl

/-- A field that is written if there is a value is read as it was, if its values are and none is written as `null`. -/
theorem optional?_ofFields {o : Option α} (h : (Record.ofList fields).get? name = o.map write)
    (hread : ∀ a, o = some a → read (write a) = some a) (hnull : ∀ a, write a ≠ .null) :
    (ofFields fields).optional? place name read = some o := by
  rw [optional?]
  cases o with
  | none =>
    rw [slot?_ofFields_of_none (by decide) h]
    rfl
  | some a =>
    rw [slot?_ofFields h]
    show nullable? read (write a) = _
    rw [nullable?_of_ne_null (hnull a), hread a rfl]
    rfl

/-- A field that is written as `null` for none is read as it was. -/
theorem optional?_ofOptional {o : Option String} (h : (Record.ofList fields).get? name = some (.ofOptional o)) :
    (ofFields fields).optional? place name asString? = some o := by
  rw [optional?, slot?_ofFields h]
  cases o <;> rfl

theorem nullable?_getD {o : Option α} (hread : ∀ a, o = some a → read (write a) = some a) (hnull : ∀ a, write a ≠ .null) :
    nullable? read ((o.map write).getD .null) = some o := by
  cases o with
  | none => rfl
  | some a =>
    show nullable? read (write a) = _
    rw [nullable?_of_ne_null (hnull a), hread a rfl]
    rfl

/-- A record that is written unless it is empty is read as it was, if the reader has the empty one for its default. -/
theorem defaulted?_unlessEmpty {r : Record α} {read : Value → Option (Record α)}
    (h : (Record.ofList fields).get? name =
      if r.isEmpty = false then some (.object (r.entries.map fun e => (e.1, write e.2))) else none)
    (hread : read (.object (r.entries.map fun e => (e.1, write e.2))) = some r) :
    (ofFields fields).defaulted? place name .empty read = some r := by
  cases hempty : r.isEmpty with
  | false =>
    rw [if_pos hempty] at h
    rw [defaulted?_ofFields h, hread]
  | true =>
    rw [if_neg (by rw [hempty]; decide)] at h
    have hr : r = .empty := by
      obtain ⟨entries, hsorted⟩ := r
      obtain rfl : entries = [] := List.isEmpty_iff.1 hempty
      rfl
    rw [defaulted?_ofFields_of_none h, hr]

theorem mapM_map {β : Type} {f : α → β} {g : β → Option α} {l : List α} (h : ∀ a ∈ l, g (f a) = some a) :
    (l.map f).mapM g = some l := by
  induction l with
  | nil => rfl
  | cons a l ih =>
    obtain ⟨ha, hl⟩ := List.forall_mem_cons.1 h
    rw [List.map_cons, List.mapM_cons, ha, ih hl]
    rfl

theorem asList?_map {l : List α} (h : ∀ a ∈ l, read (write a) = some a) :
    asList? read (.array (l.map write)) = some l := mapM_map h

theorem asRecord?_entries {r : Record α} (h : ∀ e ∈ r.entries, read (write e.2) = some e.2) :
    asRecord? read (.object (r.entries.map fun e => (e.1, write e.2))) = some r := by
  have hentries : (r.entries.map fun e => (e.1, write e.2)).mapM (fun e => (read e.2).map fun a => (e.1, a)) =
      some r.entries := mapM_map fun e he => by rw [h e he]; rfl
  rw [asRecord?, hentries]
  exact congrArg some r.ofList_entries

theorem asFields?_entries (r : Record Value) : asFields? (.object (r.entries.map fun e => (e.1, id e.2))) = some r := by
  have hentries : (r.entries.map fun e => (e.1, id e.2)) = r.entries := List.map_id ..
  rw [hentries, asFields?, r.ofList_entries]

theorem asIntIn?_int {low high i : Int} (h : low ≤ i ∧ i ≤ high) : asIntIn? low high (.int i) = some i := if_pos h

theorem asWord?_int {n : Nat} (h : n < wordCount) : asWord? (.int n) = some n := by
  have hin : (0 : Int) ≤ n ∧ (n : Int) ≤ wordCount - 1 := by omega
  rw [asWord?, asIntIn?_int hin]
  rfl

end Value

end GatedFlow
