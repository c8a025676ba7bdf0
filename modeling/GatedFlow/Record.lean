/-! # Records

A record is a finite map from names to values, kept as a list of entries in strictly ascending key order
(code point order). The order makes the representation unique: `Record.ext` says that two records with the
same `get?` are equal, so every operation is described by what it does to `get?`. -/

namespace GatedFlow

variable {α : Type}

def findEntry (key : String) : List (String × α) → Option α
  | [] => none
  | (k, v) :: rest => if k = key then some v else findEntry key rest

/-- Puts an entry into a list in key order, in place of one with the same key. -/
def insertEntry (key : String) (value : α) : List (String × α) → List (String × α)
  | [] => [(key, value)]
  | (k, v) :: rest =>
    if key < k then (key, value) :: (k, v) :: rest
    else if k = key then (key, value) :: rest
    else (k, v) :: insertEntry key value rest

def eraseEntry (key : String) : List (String × α) → List (String × α)
  | [] => []
  | (k, v) :: rest => if k = key then eraseEntry key rest else (k, v) :: eraseEntry key rest

def KeySorted (entries : List (String × α)) : Prop := entries.Pairwise fun a b => a.1 < b.1

theorem mem_insertEntry {key : String} {value : α} {e : String × α} {l : List (String × α)}
    (h : e ∈ insertEntry key value l) : e = (key, value) ∨ e ∈ l := by
  induction l with
  | nil => exact .inl (by simpa [insertEntry] using h)
  | cons hd tl ih => grind [insertEntry]

theorem mem_eraseEntry {key : String} {e : String × α} {l : List (String × α)}
    (h : e ∈ eraseEntry key l) : e ∈ l := by
  induction l with
  | nil => simp [eraseEntry] at h
  | cons hd tl ih => grind [eraseEntry]

theorem KeySorted.insertEntry {key : String} {value : α} {l : List (String × α)} (h : KeySorted l) :
    KeySorted (insertEntry key value l) := by
  induction l with
  | nil => simp [GatedFlow.insertEntry, KeySorted]
  | cons hd tl ih =>
    obtain ⟨k, v⟩ := hd
    have hk := List.pairwise_cons.1 h
    rw [GatedFlow.insertEntry]
    split
    · rename_i hlt
      refine List.pairwise_cons.2 ⟨fun e he => ?_, h⟩
      rcases List.mem_cons.1 he with rfl | he
      · exact hlt
      · exact String.lt_trans hlt (hk.1 e he)
    · split
      · rename_i heq
        exact List.pairwise_cons.2 ⟨fun e he => heq ▸ hk.1 e he, hk.2⟩
      · rename_i hlt hne
        refine List.pairwise_cons.2 ⟨fun e he => ?_, ih hk.2⟩
        rcases mem_insertEntry he with rfl | he
        · exact String.not_le.1 fun hle => hne (String.le_antisymm (String.not_lt.1 hlt) hle)
        · exact hk.1 e he

theorem KeySorted.eraseEntry {key : String} {l : List (String × α)} (h : KeySorted l) :
    KeySorted (eraseEntry key l) := by
  induction l with
  | nil => exact h
  | cons hd tl ih =>
    have hk := List.pairwise_cons.1 h
    rw [GatedFlow.eraseEntry]
    split
    · exact ih hk.2
    · exact List.pairwise_cons.2 ⟨fun e he => hk.1 e (mem_eraseEntry he), ih hk.2⟩

theorem findEntry_insertEntry (key name : String) (value : α) (l : List (String × α)) :
    findEntry name (insertEntry key value l) = if key = name then some value else findEntry name l := by
  induction l with
  | nil => simp [insertEntry, findEntry]
  | cons hd tl ih => grind [insertEntry, findEntry]

theorem findEntry_eraseEntry (key name : String) (l : List (String × α)) :
    findEntry name (eraseEntry key l) = if key = name then none else findEntry name l := by
  induction l with
  | nil => simp [eraseEntry, findEntry]
  | cons hd tl ih => grind [eraseEntry, findEntry]

theorem findEntry_eq_none_of_forall_ne {name : String} {l : List (String × α)}
    (h : ∀ e ∈ l, e.1 ≠ name) : findEntry name l = none := by
  induction l with
  | nil => rfl
  | cons hd tl ih => grind [findEntry]

theorem KeySorted.findEntry_tail {k : String} {v : α} {tl : List (String × α)}
    (h : KeySorted ((k, v) :: tl)) : findEntry k tl = none :=
  findEntry_eq_none_of_forall_ne fun e he heq =>
    String.lt_irrefl k (heq ▸ (List.pairwise_cons.1 h).1 e he)

theorem KeySorted.findEntry_eq_some_iff {key : String} {value : α} {l : List (String × α)} (h : KeySorted l) :
    findEntry key l = some value ↔ (key, value) ∈ l := by
  induction l with
  | nil => simp [findEntry]
  | cons e l ih =>
    obtain ⟨k, v⟩ := e
    have hk := List.pairwise_cons.1 h
    rw [findEntry, List.mem_cons, Prod.mk.injEq]
    by_cases heq : k = key
    · subst heq
      have habsent : (k, value) ∉ l := fun hmem => String.lt_irrefl k (hk.1 _ hmem)
      simp [habsent, eq_comm]
    · rw [if_neg heq, ih hk.2]
      simp [Ne.symm heq]

/-- Entries in key order are determined by what is found under each key. -/
theorem KeySorted.ext {l m : List (String × α)} (hl : KeySorted l) (hm : KeySorted m)
    (h : ∀ name, findEntry name l = findEntry name m) : l = m := by
  induction l generalizing m with
  | nil =>
    cases m with
    | nil => rfl
    | cons e m => simpa [findEntry] using h e.1
  | cons e l ih =>
    obtain ⟨k, v⟩ := e
    cases m with
    | nil => simpa [findEntry] using h k
    | cons e' m =>
      obtain ⟨k', v'⟩ := e'
      have hk := List.pairwise_cons.1 hl
      have hk' := List.pairwise_cons.1 hm
      have absent {k : String} {l : List (String × α)} (hlt : ∀ e ∈ l, k < e.1) : findEntry k l = none :=
        findEntry_eq_none_of_forall_ne fun e he heq => String.lt_irrefl k (heq ▸ hlt e he)
      have hkk : k = k' := by
        refine Decidable.byContradiction fun hne => ?_
        rcases String.le_total k k' with hle | hle
        · have hlt : k < k' := String.not_le.1 fun hge => hne (String.le_antisymm hle hge)
          have := h k
          rw [findEntry, if_pos rfl, absent fun e he => ?_] at this
          · simp at this
          · rcases List.mem_cons.1 he with rfl | he
            · exact hlt
            · exact String.lt_trans hlt (hk'.1 e he)
        · have hlt : k' < k := String.not_le.1 fun hge => hne (String.le_antisymm hge hle)
          have := h k'
          rw [absent fun e he => ?_, findEntry, if_pos rfl] at this
          · simp at this
          · rcases List.mem_cons.1 he with rfl | he
            · exact hlt
            · exact String.lt_trans hlt (hk.1 e he)
      subst hkk
      have hv : v = v' := by simpa [findEntry] using h k
      subst hv
      refine congrArg _ (ih hk.2 hk'.2 fun name => ?_)
      by_cases hn : k = name
      · subst hn; rw [hl.findEntry_tail, hm.findEntry_tail]
      · simpa [findEntry, hn] using h name

/-- A finite map from names to values, in key order. -/
structure Record (α : Type) where
  entries : List (String × α)
  sorted : KeySorted entries

namespace Record

def empty : Record α := ⟨[], List.Pairwise.nil⟩

instance : Inhabited (Record α) := ⟨empty⟩

instance : EmptyCollection (Record α) := ⟨empty⟩

def get? (r : Record α) (name : String) : Option α := findEntry name r.entries

def contains (r : Record α) (name : String) : Bool := (r.get? name).isSome

/-- Puts a value under a name, in place of the one there. -/
def insert (r : Record α) (name : String) (value : α) : Record α :=
  ⟨insertEntry name value r.entries, r.sorted.insertEntry⟩

def erase (r : Record α) (name : String) : Record α := ⟨eraseEntry name r.entries, r.sorted.eraseEntry⟩

def keys (r : Record α) : List String := r.entries.map Prod.fst

def size (r : Record α) : Nat := r.entries.length

def isEmpty (r : Record α) : Bool := r.entries.isEmpty

/-- Inserts the entries one after the other: of entries with the same name the last counts. -/
def insertAll (r : Record α) (entries : List (String × α)) : Record α :=
  entries.foldl (fun r e => r.insert e.1 e.2) r

/-- The record of a list of entries; of entries with the same name the last counts. -/
def ofList (entries : List (String × α)) : Record α := empty.insertAll entries

/-- The entries of `r` overridden by those of `update`. -/
def merge (r update : Record α) : Record α := r.insertAll update.entries

@[ext] theorem ext {r s : Record α} (h : ∀ name, r.get? name = s.get? name) : r = s := by
  cases r; cases s; congr; exact KeySorted.ext ‹_› ‹_› h

@[simp] theorem get?_empty (name : String) : (empty : Record α).get? name = none := rfl

@[simp] theorem get?_insert (r : Record α) (key name : String) (value : α) :
    (r.insert key value).get? name = if key = name then some value else r.get? name :=
  findEntry_insertEntry ..

@[simp] theorem get?_erase (r : Record α) (key name : String) :
    (r.erase key).get? name = if key = name then none else r.get? name :=
  findEntry_eraseEntry ..

end Record
end GatedFlow
