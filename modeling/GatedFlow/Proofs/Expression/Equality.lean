import GatedFlow.Gate.Condition
import Mathlib.Data.List.Forall2

/-! # What equality of values comes to

Values of the same shape hold the same at every place, but for their numbers (`Value.SameShape`). They are equal by value if
the numbers at corresponding places are, however each is written (`Value.EqualByValue`). Values agree exactly if they are
equal by value and the numbers that lie in objects, at whatever depth, are written alike as well (`Value.agrees_iff`). So
arrays do not tell `1` from `1.0` and objects do, and with them all comparisons of conditions (`comparisons_spelled`). -/

namespace GatedFlow

section Lists

variable {α : Type} {P Q : α → α → Prop} {xs ys : List α}

theorem forall₂_iff_of_mem (h : ∀ x ∈ xs, ∀ y, P x y ↔ Q x y) : List.Forall₂ P xs ys ↔ List.Forall₂ Q xs ys := by
  induction xs generalizing ys with
  | nil => simp
  | cons x xs ih =>
    obtain ⟨hx, hxs⟩ := List.forall_mem_cons.1 h
    simp only [List.forall₂_cons_left_iff, hx, ih hxs]

theorem forall₂_and_iff : List.Forall₂ (fun x y => P x y ∧ Q x y) xs ys ↔
    List.Forall₂ P xs ys ∧ ∀ (i : Nat) (x y : α), xs[i]? = some x → ys[i]? = some y → Q x y := by
  simp only [List.forall₂_iff_get, List.getElem?_eq_some_iff]
  constructor
  · rintro ⟨hlength, h⟩
    refine ⟨⟨hlength, fun i hi hi' => (h i hi hi').1⟩, ?_⟩
    rintro i _ _ ⟨hi, rfl⟩ ⟨hi', rfl⟩
    exact (h i hi hi').2
  · rintro ⟨⟨hlength, hP⟩, hQ⟩
    exact ⟨hlength, fun i hi hi' => ⟨hP i hi hi', hQ i _ _ ⟨hi, rfl⟩ ⟨hi', rfl⟩⟩⟩

end Lists

/-- What a value is apart from its number and from what it holds. -/
inductive Outline where
  | null
  | bool (b : Bool)
  | number
  | string (s : String)
  | array (size : Nat)
  | object (keys : List String)

/-- Numbers that are written alike are equal. -/
theorem Number.toDouble_same {m n : Number} (h : m.same n = true) : m.toDouble.same n.toDouble = true := by
  cases m <;> cases n <;> simp_all [Number.same, Number.toDouble, Double.same]

namespace Value

def outline : Value → Outline
  | null => .null
  | bool b => .bool b
  | number _ => .number
  | string s => .string s
  | array items => .array items.length
  | object fields => .object (fields.map Prod.fst)

/-- The items of an array or the values of an object, in their order. -/
def parts : Value → List Value
  | array items => items
  | object fields => fields.map Prod.snd
  | _ => []

/-- What lies at a place, which is a part by its position, a part of that part, and so on. -/
def at? (v : Value) : List Nat → Option Value
  | [] => some v
  | i :: place => (v.parts[i]?).bind fun part => part.at? place

/-- At every place the values are alike but for their numbers. -/
def SameShape (v w : Value) : Prop := ∀ place, (v.at? place).map outline = (w.at? place).map outline

/-- Values of the same shape whose numbers at corresponding places are related. -/
structure Corresponds (R : Number → Number → Prop) (v w : Value) : Prop where
  shape : v.SameShape w
  numbers : ∀ place m n, v.at? place = some (.number m) → w.at? place = some (.number n) → R m n

/-- The numbers at corresponding places have the same binary64 value. -/
def EqualByValue : Value → Value → Prop := Corresponds fun m n => m.toDouble.same n.toDouble = true

/-- A place that lies in an object. -/
def InObject (v : Value) (place : List Nat) : Prop :=
  ∃ outer inner fields, place = outer ++ inner ∧ inner ≠ [] ∧ v.at? outer = some (.object fields)

/-- The numbers at corresponding places in objects are of the same kind, whole or not, and equal. -/
def SpelledAlike (v w : Value) : Prop :=
  ∀ place m n, v.InObject place → v.at? place = some (.number m) → w.at? place = some (.number n) → m.same n = true

variable {v w : Value} {R : Number → Number → Prop} {xs ys : List Value} {es fs : List (String × Value)} {place : List Nat}

theorem sizeOf_lt_of_mem_parts (h : w ∈ v.parts) : sizeOf w < sizeOf v := by
  cases v with
  | array items =>
    have hlt : sizeOf w < sizeOf items := List.sizeOf_lt_of_mem h
    rw [array.sizeOf_spec]
    omega
  | object fields =>
    obtain ⟨e, he, rfl⟩ := List.mem_map.1 h
    have hlt : sizeOf e < sizeOf fields := List.sizeOf_lt_of_mem he
    have hsnd : sizeOf e.2 < sizeOf e := by
      rw [show sizeOf e = 1 + sizeOf e.1 + sizeOf e.2 from rfl]
      omega
    rw [object.sizeOf_spec]
    omega
  | _ => cases h

/-- What holds of a value if it holds of its parts holds of every value. -/
theorem byParts {P : Value → Prop} (h : ∀ v, (∀ part ∈ v.parts, P part) → P v) (v : Value) : P v :=
  h v fun part _ => byParts h part
termination_by sizeOf v
decreasing_by exact sizeOf_lt_of_mem_parts ‹_›

theorem length_parts_of_outline (h : v.outline = w.outline) : v.parts.length = w.parts.length := by
  cases v with
  | array items =>
    cases w with
    | array items' => exact Outline.array.inj h
    | _ => cases h
  | object fields =>
    cases w with
    | object fields' => simpa [parts] using congrArg List.length (Outline.object.inj h)
    | _ => cases h
  | _ => cases w <;> first | rfl | cases h

/-! ### Correspondence from the outside inwards -/

theorem corresponds_iff : v.Corresponds R w ↔ v.outline = w.outline ∧
    (∀ m n, v = .number m → w = .number n → R m n) ∧ List.Forall₂ (Corresponds R) v.parts w.parts := by
  constructor
  · rintro ⟨hshape, hnumbers⟩
    have houtline : v.outline = w.outline := Option.some.inj (hshape [])
    refine ⟨houtline, fun m n hv hw => hnumbers [] m n (congrArg some hv) (congrArg some hw), ?_⟩
    refine List.forall₂_iff_get.2 ⟨length_parts_of_outline houtline, fun i hi hi' => ⟨fun place => ?_, ?_⟩⟩
    · simpa [at?, hi, hi'] using hshape (i :: place)
    · intro place m n hm hn
      exact hnumbers (i :: place) m n (by simpa [at?, hi] using hm) (by simpa [at?, hi'] using hn)
  · rintro ⟨houtline, hnumber, hparts⟩
    obtain ⟨hlength, hparts⟩ := List.forall₂_iff_get.1 hparts
    constructor
    · intro place
      cases place with
      | nil => exact congrArg some houtline
      | cons i place =>
        by_cases hi : i < v.parts.length
        · simpa [at?, hi, hlength ▸ hi] using (hparts i hi (hlength ▸ hi)).shape place
        · have hi' : ¬i < w.parts.length := hlength ▸ hi
          simp [at?, List.getElem?_eq_none (Nat.le_of_not_lt hi), List.getElem?_eq_none (Nat.le_of_not_lt hi')]
    · intro place m n hm hn
      cases place with
      | nil => exact hnumber m n (Option.some.inj hm) (Option.some.inj hn)
      | cons i place =>
        obtain ⟨x, hx, hm⟩ := Option.bind_eq_some_iff.1 hm
        obtain ⟨y, hy, hn⟩ := Option.bind_eq_some_iff.1 hn
        obtain ⟨hi, rfl⟩ := List.getElem?_eq_some_iff.1 hx
        obtain ⟨hi', rfl⟩ := List.getElem?_eq_some_iff.1 hy
        exact (hparts i hi hi').numbers place m n hm hn

theorem corresponds_array : (array xs).Corresponds R (array ys) ↔ List.Forall₂ (Corresponds R) xs ys := by
  rw [corresponds_iff]
  constructor
  · exact fun h => h.2.2
  · exact fun h => ⟨congrArg Outline.array h.length_eq, (by rintro _ _ ⟨⟩), h⟩

theorem corresponds_object : (object es).Corresponds R (object fs) ↔
    es.map Prod.fst = fs.map Prod.fst ∧ List.Forall₂ (Corresponds R) (es.map Prod.snd) (fs.map Prod.snd) := by
  rw [corresponds_iff]
  constructor
  · exact fun h => ⟨Outline.object.inj h.1, h.2.2⟩
  · exact fun h => ⟨congrArg Outline.object h.1, (by rintro _ _ ⟨⟩), h.2⟩

/-! ### Structural equality -/

theorem sameItems_iff : sameItems xs ys = true ↔ List.Forall₂ (fun x y => x.same y = true) xs ys := by
  induction xs generalizing ys with
  | nil => cases ys <;> simp [sameItems]
  | cons x xs ih => cases ys <;> simp [sameItems, ih]

theorem sameFields_iff : sameFields es fs = true ↔
    es.map Prod.fst = fs.map Prod.fst ∧
      List.Forall₂ (fun x y => x.same y = true) (es.map Prod.snd) (fs.map Prod.snd) := by
  induction es generalizing fs with
  | nil => cases fs <;> simp [sameFields]
  | cons e es ih =>
    obtain ⟨k, x⟩ := e
    cases fs with
    | nil => simp [sameFields]
    | cons f fs => simp [sameFields, ih, and_assoc, and_left_comm]

/-- Structural equality is equality of the shape and of the numbers as they are written. -/
theorem same_iff : v.same w = true ↔ v.Corresponds (fun m n => m.same n = true) w := by
  induction v using byParts generalizing w with
  | h v ih =>
    cases v with
    | array xs =>
      cases w with
      | array ys =>
        rw [same, sameItems_iff, corresponds_array]
        exact forall₂_iff_of_mem fun x hx y => ih x hx
      | _ => rw [corresponds_iff]; simp [same, outline]
    | object es =>
      cases w with
      | object fs =>
        rw [same, sameFields_iff, corresponds_object]
        exact and_congr_right fun _ => forall₂_iff_of_mem fun x hx y => ih x hx
      | _ => rw [corresponds_iff]; simp [same, outline]
    | _ => rw [corresponds_iff]; cases w <;> simp [same, outline, parts]

/-! ### Places in objects -/

theorem inObject_array : (array xs).InObject place ↔
    ∃ i x rest, place = i :: rest ∧ xs[i]? = some x ∧ x.InObject rest := by
  constructor
  · rintro ⟨outer, inner, fields, rfl, hinner, hat⟩
    cases outer with
    | nil => cases hat
    | cons i outer =>
      obtain ⟨x, hx, hat⟩ := Option.bind_eq_some_iff.1 hat
      exact ⟨i, x, outer ++ inner, rfl, hx, outer, inner, fields, rfl, hinner, hat⟩
  · rintro ⟨i, x, _, rfl, hx, outer, inner, fields, rfl, hinner, hat⟩
    exact ⟨i :: outer, inner, fields, rfl, hinner, Option.bind_eq_some_iff.2 ⟨x, hx, hat⟩⟩

theorem not_inObject_of_leaf (hparts : v.parts = []) (hv : ∀ fields, v ≠ .object fields) : ¬v.InObject place := by
  rintro ⟨outer, inner, fields, -, -, hat⟩
  cases outer with
  | nil => exact hv fields (Option.some.inj hat)
  | cons i outer =>
    obtain ⟨x, hx, -⟩ := Option.bind_eq_some_iff.1 hat
    rw [hparts] at hx
    cases hx

theorem spelledAlike_of_leaf (hparts : v.parts = []) (hv : ∀ fields, v ≠ .object fields) : v.SpelledAlike w :=
  fun _ _ _ hin _ _ => absurd hin (not_inObject_of_leaf hparts hv)

theorem spelledAlike_array : (array xs).SpelledAlike (array ys) ↔
    ∀ (i : Nat) (x y : Value), xs[i]? = some x → ys[i]? = some y → x.SpelledAlike y := by
  constructor
  · intro h i x y hx hy place m n hin hm hn
    refine h (i :: place) m n (inObject_array.2 ⟨i, x, place, rfl, hx, hin⟩) ?_ ?_
    · exact Option.bind_eq_some_iff.2 ⟨x, hx, hm⟩
    · exact Option.bind_eq_some_iff.2 ⟨y, hy, hn⟩
  · intro h place m n hin hm hn
    obtain ⟨i, x, rest, rfl, hx, hin⟩ := inObject_array.1 hin
    obtain ⟨x', hx', hm⟩ := Option.bind_eq_some_iff.1 hm
    obtain ⟨y, hy, hn⟩ := Option.bind_eq_some_iff.1 hn
    obtain rfl : x = x' := Option.some.inj (hx.symm.trans hx')
    exact h i x y hx hy rest m n hin hm hn

/-- Every number of an object lies in an object, so that the two notions meet there. -/
theorem corresponds_same_object : (object es).Corresponds (fun m n => m.same n = true) w ↔
    (object es).EqualByValue w ∧ (object es).SpelledAlike w := by
  constructor
  · intro h
    exact ⟨⟨h.shape, fun place m n hm hn => Number.toDouble_same (h.numbers place m n hm hn)⟩,
      fun place m n _ hm hn => h.numbers place m n hm hn⟩
  · rintro ⟨hvalue, hspelled⟩
    refine ⟨hvalue.shape, fun place m n hm hn => hspelled place m n ⟨[], place, es, rfl, ?_, rfl⟩ hm hn⟩
    rintro rfl
    cases hm

/-! ### Agreement -/

theorem agreesItems_iff : agreesItems xs ys = true ↔ List.Forall₂ (fun x y => x.agrees y = true) xs ys := by
  induction xs generalizing ys with
  | nil => cases ys <;> simp [agreesItems]
  | cons x xs ih => cases ys <;> simp [agreesItems, ih]

theorem agrees_object : (object es).agrees w = (object es).same w := by
  cases w <;> simp [agrees]

theorem agrees_iff : v.agrees w = true ↔ v.EqualByValue w ∧ v.SpelledAlike w := by
  induction v using byParts generalizing w with
  | h v ih =>
    cases v with
    | array xs =>
      cases w with
      | array ys =>
        rw [agrees, agreesItems_iff, EqualByValue, corresponds_array, spelledAlike_array, ← forall₂_and_iff]
        exact forall₂_iff_of_mem fun x hx y => ih x hx
      | _ => rw [EqualByValue, corresponds_iff]; simp [agrees, same, outline]
    | object es => rw [agrees_object, same_iff, corresponds_same_object]
    | _ =>
      rw [and_iff_left (spelledAlike_of_leaf rfl fun _ h => by cases h), EqualByValue, corresponds_iff]
      cases w <;> simp [agrees, same, outline, parts]

end Value

/-- The comparisons of two values that rest on an equality. None of them fails. -/
structure Comparisons (E : Value → Value → Prop) (v w : Value) : Prop where
  agrees : v.agrees w = true ↔ E v w
  eq : ∃ b, CompareOp.eq.apply v w = .ok b ∧ (b = true ↔ E v w)
  ne : ∃ b, CompareOp.ne.apply v w = .ok b ∧ (b = true ↔ ¬E v w)
  within : ∀ items, w = .array items → ∃ b, CompareOp.within.apply v w = .ok b ∧ (b = true ↔ ∃ item ∈ items, E item v)
  notWithin : ∀ items, w = .array items →
    ∃ b, CompareOp.notWithin.apply v w = .ok b ∧ (b = true ↔ ¬∃ item ∈ items, E item v)
  contains : ∀ items, v = .array items → ∃ b, CompareOp.contains.apply v w = .ok b ∧ (b = true ↔ ∃ item ∈ items, E item w)
  equals : ∀ path s, ∃ b, (Condition.equals path w).check s = .ok b ∧ (b = true ↔ ∃ field, s.getPath? path = some field ∧ E field w)

theorem Comparisons.of_agrees {E : Value → Value → Prop} (h : ∀ v w : Value, v.agrees w = true ↔ E v w) (v w : Value) :
    Comparisons E v w where
  agrees := h v w
  eq := ⟨_, rfl, h v w⟩
  ne := ⟨_, rfl, by rw [Bool.not_eq_true', ← Bool.not_eq_true, h]⟩
  within := by
    rintro items rfl
    exact ⟨_, rfl, by simp only [List.any_eq_true, h]⟩
  notWithin := by
    rintro items rfl
    refine ⟨_, rfl, ?_⟩
    rw [Bool.not_eq_true', ← Bool.not_eq_true, List.any_eq_true]
    simp only [h]
  contains := by
    rintro items rfl
    exact ⟨_, rfl, by simp only [List.any_eq_true, h]⟩
  equals path s := by
    refine ⟨_, rfl, ?_⟩
    rcases hfield : s.getPath? path with _ | field
    · simp [hfield]
    · simp [hfield, h]

/-- Two values are taken for equal exactly if they have the same shape, their numbers are equal by value, and the numbers
in objects are written alike besides. So they are compared by value unless this last condition alone is not met. -/
theorem comparisons_spelled (v w : Value) : Comparisons (fun v w => v.EqualByValue w ∧ v.SpelledAlike w) v w ∧
    ((v.agrees w = true ↔ v.EqualByValue w) ↔ (v.EqualByValue w → v.SpelledAlike w)) := by
  refine ⟨.of_agrees (fun _ _ => Value.agrees_iff) v w, ?_⟩
  rw [Value.agrees_iff]
  exact and_iff_left_iff_imp

/-- A field that is `1` in one object and `1.0` in another makes them differ. -/
theorem not_comparisons_equalByValue :
    ¬Comparisons Value.EqualByValue (.object [("a", .int 1)]) (.object [("a", .number (.float (.ofInt 1)))]) := by
  intro h
  have hequal : (Value.object [("a", .int 1)]).EqualByValue (.object [("a", .number (.float (.ofInt 1)))]) := by
    refine Value.corresponds_object.2 ⟨rfl, .cons (Value.corresponds_iff.2 ⟨rfl, ?_, .nil⟩) .nil⟩
    rintro m n ⟨⟩ ⟨⟩
    exact beq_self_eq_true _
  have hagrees := h.agrees.2 hequal
  simp [Value.agrees, Value.same, Value.sameFields, Value.int, Number.same] at hagrees

end GatedFlow
