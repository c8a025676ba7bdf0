import GatedFlow.Record

/-! # Records entry by entry

What a record holds under a name once entries are put into it is what the last of them with that name holds, and else
what it held before (`Record.get?_insertAll`). A record is that of its own entries (`Record.ofList_entries`). -/

namespace GatedFlow

variable {α : Type} {r update : Record α} {name : String}

namespace Record

@[simp] theorem get?_ofList_nil (name : String) : (ofList ([] : List (String × α))).get? name = none := rfl

theorem get?_insertAll (r : Record α) (entries : List (String × α)) (name : String) :
    (r.insertAll entries).get? name = ((ofList entries).get? name).or (r.get? name) := by
  induction entries generalizing r with
  | nil => rfl
  | cons e entries ih =>
    have hlist : ofList (e :: entries) = (empty.insert e.1 e.2).insertAll entries := rfl
    show ((r.insert e.1 e.2).insertAll entries).get? name = _
    rw [hlist, ih, ih, Option.or_assoc, get?_insert, get?_insert]
    split <;> rfl

@[simp] theorem get?_ofList_cons (key : String) (value : α) (entries : List (String × α)) (name : String) :
    (ofList ((key, value) :: entries)).get? name =
      ((ofList entries).get? name).or (if key = name then some value else none) := by
  have hlist : ofList ((key, value) :: entries) = (empty.insert key value).insertAll entries := rfl
  rw [hlist, get?_insertAll, get?_insert, get?_empty]

@[simp] theorem get?_ofList_append (entries more : List (String × α)) (name : String) :
    (ofList (entries ++ more)).get? name = ((ofList more).get? name).or ((ofList entries).get? name) := by
  have hlist : ofList (entries ++ more) = (ofList entries).insertAll more := List.foldl_append ..
  rw [hlist, get?_insertAll]

theorem get?_ofList_of_sorted {entries : List (String × α)} (h : KeySorted entries) (name : String) :
    (ofList entries).get? name = findEntry name entries := by
  induction entries with
  | nil => rfl
  | cons e entries ih =>
    obtain ⟨key, value⟩ := e
    have hrest : KeySorted entries := (List.pairwise_cons.1 h).2
    rw [get?_ofList_cons, ih hrest, findEntry]
    split
    · rename_i hname
      have habsent : findEntry name entries = none := hname ▸ h.findEntry_tail
      rw [habsent, Option.none_or]
    · rw [Option.or_none]

@[simp] theorem ofList_entries (r : Record α) : ofList r.entries = r :=
  ext fun name => get?_ofList_of_sorted r.sorted name

theorem mem_ofList {entries : List (String × α)} {e : String × α} (h : e ∈ (ofList entries).entries) : e ∈ entries := by
  suffices ∀ r : Record α, e ∈ (r.insertAll entries).entries → e ∈ r.entries ∨ e ∈ entries from
    (this empty h).elim (fun h => by cases h) id
  clear h
  intro r h
  induction entries generalizing r with
  | nil => exact .inl h
  | cons e' entries ih =>
    rcases ih (r.insert e'.1 e'.2) h with hinserted | hlater
    · rcases mem_insertEntry hinserted with rfl | hmem
      · exact .inr List.mem_cons_self
      · exact .inl hmem
    · exact .inr (List.mem_cons_of_mem _ hlater)

theorem get?_merge (r update : Record α) (name : String) :
    (r.merge update).get? name = (update.get? name).or (r.get? name) := by
  rw [merge, get?_insertAll, ofList_entries]

theorem get?_merge_of_none (h : update.get? name = none) : (r.merge update).get? name = r.get? name := by
  rw [get?_merge, h, Option.none_or]

theorem get?_merge_of_some {a : α} (h : update.get? name = some a) : (r.merge update).get? name = some a := by
  rw [get?_merge, h, Option.some_or]

end Record
end GatedFlow
