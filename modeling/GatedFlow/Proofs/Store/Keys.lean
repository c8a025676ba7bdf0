import GatedFlow.Store.Keys
import Mathlib.Data.String.Basic

/-! # What a key says of its thread

A key is split at its first mark, and a mark may begin inside a thread id and end in the mark that follows it. Only the
last colon of a mark can begin another one, so this happens to ids with a mark inside and to ids that end in a mark up to
its last colon (`WellFormedId.iff_endings`). All others can be told from their checkpoint keys
(`WellFormedId.parse_checkpointKey_iff`), and no two of them own a key together (`WellFormedId.eq_of_owns`). -/

namespace GatedFlow

/-- A mark up to its last colon. -/
def openMark : String := ":checkpoint"

/-- A thread id that, followed by a mark, holds a mark only where the id ends. -/
def WellFormedId (thread : String) : Prop :=
  ∀ before after, checkpointStart thread = checkpointKey before after → before.length = thread.length

/-- A key is a thread's own: its id, or the key of a checkpoint of it. -/
def Owns (thread key : String) : Prop := key = thread ∨ ∃ name, key = checkpointKey thread name

theorem owns_self (thread : String) : Owns thread thread := .inl rfl

theorem owns_checkpointKey (thread name : String) : Owns thread (checkpointKey thread name) := .inr ⟨name, rfl⟩

section Lists

variable {mark before cs p q : List Char}

/-- A split is at the first mark. -/
theorem splitAtMark_eq_some_iff : splitAtMark mark before cs = some (p, q) ↔
    ∃ a, p = before.reverse ++ a ∧ cs = a ++ mark ++ q ∧ ∀ a' q', cs = a' ++ mark ++ q' → a.length ≤ a'.length := by
  induction cs generalizing before with
  | nil =>
    rw [splitAtMark]
    cases mark with
    | nil => simp +contextual [and_comm, eq_comm]
    | cons c mark => simp
  | cons c cs ih =>
    rw [splitAtMark]
    split
    · rename_i hmark
      obtain ⟨rest, hrest⟩ := List.isPrefixOf_iff_prefix.1 hmark
      rw [← hrest, List.drop_left]
      constructor
      · rintro ⟨⟩
        exact ⟨[], by simp⟩
      · rintro ⟨a, rfl, hcs, hfirst⟩
        obtain rfl : a = [] := by simpa using hfirst [] rest rfl
        simpa using hcs
    · rename_i hmark
      have hne : ∀ a q', c :: cs = a ++ mark ++ q' → ∃ a', a = c :: a' ∧ cs = a' ++ mark ++ q' := by
        intro a q' h
        cases a with
        | nil => exact absurd (List.isPrefixOf_iff_prefix.2 ⟨q', h.symm⟩) hmark
        | cons c' a => cases h; exact ⟨a, rfl, rfl⟩
      rw [ih]
      constructor
      · rintro ⟨a, rfl, hcs, hfirst⟩
        refine ⟨c :: a, by simp, by rw [hcs]; rfl, fun a' q' h => ?_⟩
        obtain ⟨rest, rfl, hrest⟩ := hne a' q' h
        exact Nat.succ_le_succ (hfirst rest q' hrest)
      · rintro ⟨a, rfl, hcs, hfirst⟩
        obtain ⟨rest, rfl, hrest⟩ := hne a q hcs
        refine ⟨rest, by simp, hrest, fun a' q' h => ?_⟩
        exact Nat.le_of_succ_le_succ (hfirst (c :: a') q' (by rw [h]; rfl))

theorem isSome_splitAtMark_iff : (splitAtMark mark before cs).isSome ↔ mark <:+: cs := by
  induction cs generalizing before with
  | nil =>
    rw [splitAtMark]
    cases mark <;> simp
  | cons c cs ih =>
    rw [splitAtMark, List.infix_cons_iff, ← List.isPrefixOf_iff_prefix]
    split
    · rename_i hmark
      exact iff_of_true rfl (.inl hmark)
    · rename_i hmark
      rw [ih, or_iff_right hmark]

/-- Two marks of which the second begins in the first and ends later share no more than a colon. -/
theorem overlap_checkpointMark {a b t : List Char}
    (h : t ++ checkpointMark.toList = a ++ checkpointMark.toList ++ b) (hlt : a.length < t.length) :
    a ++ checkpointMark.toList <+: t ∨ t = a ++ openMark.toList := by
  rw [List.append_assoc, List.append_eq_append_iff] at h
  rcases h with ⟨as, rfl, -⟩ | ⟨as, rfl, h⟩
  · rw [List.length_append] at hlt
    omega
  rcases List.append_eq_append_iff.1 h with ⟨bs, rfl, -⟩ | ⟨bs, hmark, hbs⟩
  · exact .inl ⟨bs, List.append_assoc ..⟩
  -- the second mark begins with what the first ends in
  have hborder : ∀ k < 13, 0 < k → checkpointMark.toList.drop k <+: checkpointMark.toList →
      checkpointMark.toList.take k = checkpointMark.toList ∨ checkpointMark.toList.take k = openMark.toList := by
    decide
  have hk : as.length < 13 := by
    have := congrArg List.length hmark
    rw [List.length_append, show checkpointMark.toList.length = 12 from rfl] at this
    omega
  have hpos : 0 < as.length := by
    rw [List.length_append] at hlt
    omega
  have htake : checkpointMark.toList.take as.length = as := by rw [hmark, List.take_left]
  have hdrop : checkpointMark.toList.drop as.length = bs := by rw [hmark, List.drop_left]
  refine (hborder _ hk hpos ⟨b, by rw [hdrop, ← hbs]⟩).imp (fun h => ?_) fun h => ?_
  · exact ⟨[], by rw [← h, htake, List.append_nil]⟩
  · rw [← h, htake]

end Lists

variable {thread name key : String}

theorem toList_checkpointKey (thread name : String) :
    (checkpointKey thread name).toList = thread.toList ++ checkpointMark.toList ++ name.toList := by
  rw [checkpointKey, String.toList_append, String.toList_append]

theorem exists_name_of_start (h : (checkpointStart thread).toList <+: key.toList) :
    ∃ name, key = checkpointKey thread name := by
  obtain ⟨rest, hrest⟩ := h
  refine ⟨String.ofList rest, String.toList_inj.1 ?_⟩
  rw [toList_checkpointKey, String.toList_ofList, ← hrest, checkpointStart, String.toList_append]

theorem owns_of_start (h : (checkpointStart thread).toList <+: key.toList) : Owns thread key := .inr (exists_name_of_start h)

/-- The checkpoint keys of a thread are in the order of the names. -/
theorem lt_of_checkpointKey_lt {name' : String} (h : checkpointKey thread name < checkpointKey thread name') :
    name < name' := by
  by_contra hnot
  by_cases heq : name = name'
  · exact String.lt_irrefl _ (heq ▸ h)
  · have hlt : name' < name := String.not_le.1 fun hle => heq (String.le_antisymm hle (String.not_lt.1 hnot))
    have hkeys : checkpointKey thread name' < checkpointKey thread name := by
      rw [String.lt_iff_toList_lt, toList_checkpointKey, toList_checkpointKey]
      exact List.append_left_lt (String.lt_iff_toList_lt.1 hlt)
    exact String.lt_irrefl _ (String.lt_trans h hkeys)

/-- A checkpoint key is read with the shortest id. -/
theorem parseCheckpointKey?_eq_some_iff : parseCheckpointKey? key = some (thread, name) ↔
    key = checkpointKey thread name ∧ ∀ thread' name', key = checkpointKey thread' name' → thread.length ≤ thread'.length := by
  have hkey : ∀ thread name, key = checkpointKey thread name ↔
      key.toList = thread.toList ++ checkpointMark.toList ++ name.toList := fun thread name => by
    rw [← toList_checkpointKey, String.toList_inj]
  have hsplit : parseCheckpointKey? key = some (thread, name) ↔
      splitAtMark checkpointMark.toList [] key.toList = some (thread.toList, name.toList) := by
    rw [parseCheckpointKey?, Option.map_eq_some_iff]
    constructor
    · rintro ⟨⟨a, b⟩, hsplit, heq⟩
      obtain ⟨rfl, rfl⟩ := Prod.mk.inj heq
      rw [hsplit, String.toList_ofList, String.toList_ofList]
    · intro h
      exact ⟨_, h, by simp only [String.ofList_toList]⟩
  rw [hsplit, splitAtMark_eq_some_iff, hkey]
  constructor
  · rintro ⟨a, rfl, hlist, hfirst⟩
    refine ⟨hlist, fun thread' name' h => ?_⟩
    simpa only [List.reverse_nil, List.nil_append, String.length_toList] using hfirst _ _ ((hkey thread' name').1 h)
  · rintro ⟨hlist, hfirst⟩
    refine ⟨thread.toList, rfl, hlist, fun a' q' h => ?_⟩
    have hle := hfirst (String.ofList a') (String.ofList q') ((hkey _ _).2 (by simpa using h))
    rwa [String.length_ofList, ← String.length_toList] at hle

theorem isCheckpointKey_iff : isCheckpointKey key = true ↔ ∃ thread name, key = checkpointKey thread name := by
  rw [isCheckpointKey, parseCheckpointKey?, Option.isSome_map, isSome_splitAtMark_iff]
  constructor
  · rintro ⟨a, b, h⟩
    exact ⟨String.ofList a, String.ofList b, String.toList_inj.1 (by rw [toList_checkpointKey]; simpa using h.symm)⟩
  · rintro ⟨thread, name, rfl⟩
    exact ⟨thread.toList, name.toList, (toList_checkpointKey thread name).symm⟩

theorem isCheckpointKey_checkpointKey (thread name : String) : isCheckpointKey (checkpointKey thread name) = true :=
  isCheckpointKey_iff.2 ⟨thread, name, rfl⟩

theorem checkpointKey_append (thread name rest : String) :
    checkpointKey thread name ++ rest = checkpointKey thread (name ++ rest) := by
  simp only [checkpointKey, String.append_assoc]

theorem checkpointStart_append (thread name : String) : checkpointStart thread ++ name = checkpointKey thread name := rfl

namespace WellFormedId

/-- A well-formed id and a checkpoint name are read off their key, and no other id is. -/
theorem parse_checkpointKey_iff (thread name : String) :
    parseCheckpointKey? (checkpointKey thread name) = some (thread, name) ↔ WellFormedId thread := by
  rw [parseCheckpointKey?_eq_some_iff, and_iff_right rfl]
  constructor
  · intro hfirst before after h
    have hle : thread.length ≤ before.length := hfirst before (after ++ name) <| by
      rw [← checkpointStart_append, h, checkpointKey_append]
    have hlength := congrArg String.length h
    rw [checkpointStart, checkpointKey, String.length_append, String.length_append, String.length_append] at hlength
    omega
  · intro hthread thread' name' h
    by_contra hlt
    -- the shorter id and its mark are over before the mark of the longer one is
    have hlists := congrArg String.toList h
    rw [toList_checkpointKey, toList_checkpointKey] at hlists
    obtain ⟨after, hafter⟩ : thread'.toList ++ checkpointMark.toList <+: thread.toList ++ checkpointMark.toList := by
      refine List.prefix_of_prefix_length_le ⟨name'.toList, hlists.symm⟩ ⟨name.toList, rfl⟩ ?_
      simp only [List.length_append, String.length_toList]
      omega
    refine hlt (hthread thread' (String.ofList after) (String.toList_inj.1 ?_)).ge
    rw [toList_checkpointKey, checkpointStart, String.toList_append, String.toList_ofList, hafter]

/-- The id that a checkpoint key is read with is well formed. -/
theorem parse_eq_some_iff : parseCheckpointKey? key = some (thread, name) ↔
    WellFormedId thread ∧ checkpointKey thread name = key := by
  constructor
  · intro h
    obtain ⟨rfl, -⟩ := parseCheckpointKey?_eq_some_iff.1 h
    exact ⟨(parse_checkpointKey_iff thread name).1 h, rfl⟩
  · rintro ⟨hthread, rfl⟩
    exact (parse_checkpointKey_iff thread name).2 hthread

/-- An id is well formed unless it has a mark inside or ends in an open one. -/
theorem iff_endings : WellFormedId thread ↔
    isCheckpointKey thread = false ∧ ∀ stem, thread ≠ stem ++ openMark := by
  constructor
  · intro hthread
    refine ⟨Bool.eq_false_iff.2 fun h => ?_, ?_⟩
    · obtain ⟨before, name, rfl⟩ := isCheckpointKey_iff.1 h
      have hlength := hthread before (name ++ checkpointMark) (checkpointKey_append ..)
      rw [checkpointKey, String.length_append, String.length_append, show checkpointMark.length = 12 from rfl] at hlength
      omega
    · rintro stem rfl
      have hlength := hthread stem "checkpoint:" <| by
        simp only [checkpointStart, checkpointKey, String.append_assoc, String.append_right_inj]
        decide
      rw [String.length_append, show openMark.length = 11 from rfl] at hlength
      omega
  · rintro ⟨hkey, hopen⟩ before after h
    by_contra hne
    have hlists := congrArg String.toList h
    have hlength := congrArg List.length hlists
    rw [toList_checkpointKey, checkpointStart, String.toList_append] at hlists hlength
    simp only [List.length_append, String.length_toList] at hlength
    rcases overlap_checkpointMark hlists (by simp only [String.length_toList]; omega) with ⟨rest, hrest⟩ | hthread
    · refine Bool.eq_false_iff.1 hkey (isCheckpointKey_iff.2 ⟨before, String.ofList rest, String.toList_inj.1 ?_⟩)
      rw [toList_checkpointKey, String.toList_ofList, hrest]
    · exact hopen before (String.toList_inj.1 (by rw [String.toList_append, hthread]))

instance : DecidablePred WellFormedId := fun thread =>
  decidable_of_iff (isCheckpointKey thread = false ∧ ¬openMark.toList <:+ thread.toList) <| by
    rw [iff_endings]
    refine and_congr_right fun _ => ⟨?_, ?_⟩
    · rintro hnot stem rfl
      exact hnot ⟨stem.toList, String.toList_append.symm⟩
    · rintro hne ⟨stem, hstem⟩
      exact hne (String.ofList stem) (String.toList_inj.1 (by rw [String.toList_append, String.toList_ofList, hstem]))

theorem isCheckpointKey_eq_false (h : WellFormedId thread) : isCheckpointKey thread = false := (iff_endings.1 h).1

/-- A well-formed id is no checkpoint key. -/
theorem ne_checkpointKey {t n : String} (h : WellFormedId thread) : thread ≠ checkpointKey t n := by
  rintro rfl
  have hplain := h.isCheckpointKey_eq_false
  rw [isCheckpointKey_checkpointKey] at hplain
  cases hplain

/-- A key tells the thread and the name of its checkpoint. -/
theorem checkpointKey_inj {t n : String} (hthread : WellFormedId thread) (ht : WellFormedId t)
    (h : checkpointKey thread name = checkpointKey t n) : thread = t ∧ name = n := by
  have hparse := (parse_checkpointKey_iff thread name).2 hthread
  rw [h, (parse_checkpointKey_iff t n).2 ht] at hparse
  cases hparse
  exact ⟨rfl, rfl⟩

/-- No two well-formed ids own a key together, whatever the names. -/
theorem eq_of_owns {other : String} (hthread : WellFormedId thread) (hother : WellFormedId other)
    (h : Owns thread key) (h' : Owns other key) : thread = other := by
  rcases h with rfl | ⟨name, rfl⟩ <;> rcases h' with h' | ⟨name', h'⟩
  · exact h'
  · exact absurd h' hthread.ne_checkpointKey
  · exact absurd h'.symm hother.ne_checkpointKey
  · exact (hthread.checkpointKey_inj hother h').1

end WellFormedId

theorem isCheckpointKey_append (h : isCheckpointKey key = true) (rest : String) :
    isCheckpointKey (key ++ rest) = true := by
  obtain ⟨thread, name, rfl⟩ := isCheckpointKey_iff.1 h
  rw [checkpointKey_append]
  exact isCheckpointKey_checkpointKey ..

theorem checkpointKey_openMark (stem name : String) :
    checkpointKey (stem ++ openMark) name = checkpointKey stem ("checkpoint:" ++ name) := by
  have hmarks : openMark ++ checkpointMark = checkpointMark ++ "checkpoint:" := by decide
  have hrest : openMark ++ (checkpointMark ++ name) = checkpointMark ++ ("checkpoint:" ++ name) := by
    rw [← String.append_assoc, hmarks, String.append_assoc]
  simp only [checkpointKey, String.append_assoc, hrest]

/-- The checkpoints of an id that ends in an open mark are read as those of the id without it. -/
theorem parse_checkpointKey_openMark {stem : String} (h : isCheckpointKey (stem ++ openMark) = false) (name : String) :
    parseCheckpointKey? (checkpointKey (stem ++ openMark) name) = some (stem, "checkpoint:" ++ name) := by
  rw [checkpointKey_openMark]
  refine (WellFormedId.parse_checkpointKey_iff ..).2 (WellFormedId.iff_endings.2 ⟨?_, ?_⟩)
  · refine Bool.eq_false_iff.2 fun hstem => ?_
    rw [isCheckpointKey_append hstem] at h
    cases h
  · rintro stem rfl
    rw [show stem ++ openMark ++ openMark = checkpointKey stem "checkpoint" by
      simp only [checkpointKey, String.append_assoc, String.append_right_inj]; decide,
      isCheckpointKey_checkpointKey] at h
    cases h

/-- An id that is no checkpoint key is well formed unless it ends in an open mark. -/
theorem WellFormedId.or_openMark (h : isCheckpointKey thread = false) :
    WellFormedId thread ∨ ∃ stem, thread = stem ++ openMark := by
  rw [iff_endings, and_iff_right h, or_iff_not_imp_right]
  exact fun hnot stem heq => hnot ⟨stem, heq⟩

/-- Two ids that are no checkpoint keys share a key exactly where one of them is the other with an open mark. -/
theorem checkpointKey_eq_iff {thread' name' : String} (hthread : isCheckpointKey thread = false)
    (hthread' : isCheckpointKey thread' = false) : checkpointKey thread name = checkpointKey thread' name' ↔
      thread = thread' ∧ name = name' ∨ thread = thread' ++ openMark ∧ name' = "checkpoint:" ++ name ∨
        thread' = thread ++ openMark ∧ name = "checkpoint:" ++ name' := by
  constructor
  · intro h
    have hparse := congrArg parseCheckpointKey? h
    rcases WellFormedId.or_openMark hthread with hwf | ⟨stem, rfl⟩ <;>
      rcases WellFormedId.or_openMark hthread' with hwf' | ⟨stem', rfl⟩
    · rw [(WellFormedId.parse_checkpointKey_iff ..).2 hwf, (WellFormedId.parse_checkpointKey_iff ..).2 hwf'] at hparse
      cases hparse
      exact .inl ⟨rfl, rfl⟩
    · rw [(WellFormedId.parse_checkpointKey_iff ..).2 hwf, parse_checkpointKey_openMark hthread'] at hparse
      cases hparse
      exact .inr (.inr ⟨rfl, rfl⟩)
    · rw [parse_checkpointKey_openMark hthread, (WellFormedId.parse_checkpointKey_iff ..).2 hwf'] at hparse
      cases hparse
      exact .inr (.inl ⟨rfl, rfl⟩)
    · rw [parse_checkpointKey_openMark hthread, parse_checkpointKey_openMark hthread', Option.some.injEq,
        Prod.mk.injEq, String.append_right_inj] at hparse
      exact .inl ⟨congrArg (· ++ openMark) hparse.1, hparse.2⟩
  · rintro (⟨rfl, rfl⟩ | ⟨rfl, rfl⟩ | ⟨rfl, rfl⟩)
    · rfl
    · exact checkpointKey_openMark ..
    · exact (checkpointKey_openMark ..).symm

end GatedFlow
