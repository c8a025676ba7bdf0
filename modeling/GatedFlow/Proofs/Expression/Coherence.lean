import GatedFlow.Proofs.Expression.Equality
import Mathlib.Order.Defs.Unbundled

/-! # Comparisons belong together

Agreement is an equivalence on values, because values that agree correspond place by place (`Value.Corresponds`). Two
numbers or two strings have an order, in which they are even exactly if they agree (`Value.Orderable.order`), so that the four
orderings and `==` fit each other; on all other values each ordering is refused in its own name
(`comparisons_coherent`). -/

namespace GatedFlow

namespace Value

variable {u v w : Value} {R : Number → Number → Prop} {place : List Nat}

/-! ### Agreement is an equivalence -/

theorem SameShape.symm (h : v.SameShape w) : w.SameShape v := fun place => (h place).symm

theorem SameShape.trans (h : u.SameShape v) (h' : v.SameShape w) : u.SameShape w := fun place => (h place).trans (h' place)

theorem SameShape.number {n : Number} (h : v.SameShape w) (hn : w.at? place = some (.number n)) :
    ∃ m, v.at? place = some (.number m) := by
  have houtline := h place
  rw [hn] at houtline
  obtain ⟨x, hx, hout⟩ := Option.map_eq_some_iff.1 houtline
  cases x with
  | number m => exact ⟨m, hx⟩
  | _ => cases hout

theorem SameShape.inObject (h : v.SameShape w) (hin : w.InObject place) : v.InObject place := by
  obtain ⟨outer, inner, fields, rfl, hinner, hat⟩ := hin
  have houtline := h outer
  rw [hat] at houtline
  obtain ⟨x, hx, hout⟩ := Option.map_eq_some_iff.1 houtline
  cases x with
  | object fields' => exact ⟨outer, inner, fields', rfl, hinner, hx⟩
  | _ => cases hout

theorem Corresponds.refl (hR : ∀ n, R n n) (v : Value) : v.Corresponds R v where
  shape _ := rfl
  numbers place m n hm hn := by
    cases hm.symm.trans hn
    exact hR m

theorem Corresponds.symm (hR : ∀ m n, R m n → R n m) (h : v.Corresponds R w) : w.Corresponds R v where
  shape := h.shape.symm
  numbers place m n hm hn := hR n m (h.numbers place n m hn hm)

theorem Corresponds.trans (hR : ∀ l m n, R l m → R m n → R l n) (h : u.Corresponds R v) (h' : v.Corresponds R w) :
    u.Corresponds R w where
  shape := h.shape.trans h'.shape
  numbers place l n hl hn := by
    obtain ⟨m, hm⟩ := h'.shape.number hn
    exact hR l m n (h.numbers place l m hl hm) (h'.numbers place m n hm hn)

theorem agrees_refl (v : Value) : v.agrees v = true := by
  refine agrees_iff.2 ⟨.refl (fun n => ?_) v, fun place m n _ hm hn => ?_⟩
  · exact beq_self_eq_true _
  · cases hm.symm.trans hn
    cases m <;> exact beq_self_eq_true _

theorem agrees_symm (h : v.agrees w = true) : w.agrees v = true := by
  obtain ⟨hvalue, hspelled⟩ := agrees_iff.1 h
  refine agrees_iff.2 ⟨hvalue.symm fun m n hmn => ?_, fun place m n hin hm hn => ?_⟩
  · exact beq_iff_eq.2 (beq_iff_eq.1 hmn).symm
  · have hnm : n.same m = true := hspelled place n m (hvalue.shape.inObject hin) hn hm
    cases m <;> cases n <;> simp_all [Number.same, Double.same]

theorem agrees_trans (h : u.agrees v = true) (h' : v.agrees w = true) : u.agrees w = true := by
  obtain ⟨hvalue, hspelled⟩ := agrees_iff.1 h
  obtain ⟨hvalue', hspelled'⟩ := agrees_iff.1 h'
  refine agrees_iff.2 ⟨hvalue.trans (fun l m n hlm hmn => ?_) hvalue', fun place l n hin hl hn => ?_⟩
  · exact beq_iff_eq.2 ((beq_iff_eq.1 hlm).trans (beq_iff_eq.1 hmn))
  · obtain ⟨m, hm⟩ := hvalue'.shape.number hn
    have hlm : l.same m = true := hspelled place l m hin hl hm
    have hmn : m.same n = true := hspelled' place m n (hvalue.shape.symm.inObject hin) hm hn
    cases l <;> cases m <;> cases n <;> simp_all [Number.same, Double.same]

/-! ### The order of two values -/

/-- Values that have an order: two numbers or two strings. -/
inductive Orderable : Value → Value → Prop
  | numbers (m n : Number) : Orderable (.number m) (.number n)
  | strings (s t : String) : Orderable (.string s) (.string t)

theorem Orderable.order (h : v.Orderable w) : ∃ o : Ordering, (∀ op, orderValues op v w = .ok o) ∧
    (∀ op, orderValues op w v = .ok o.swap) ∧ (v.agrees w = true ↔ o = .eq) := by
  cases h with
  | numbers m n =>
    refine ⟨compare m.toDouble.units n.toDouble.units, fun _ => rfl, fun _ => ?_, ?_⟩
    · exact congrArg Except.ok Std.OrientedOrd.eq_swap
    · rw [Std.compare_eq_iff_eq]
      exact beq_iff_eq
  | strings s t =>
    refine ⟨compare s t, fun _ => rfl, fun _ => ?_, ?_⟩
    · exact congrArg Except.ok (Std.OrientedOrd.eq_swap (a := t) (b := s))
    · rw [Std.compare_eq_iff_eq]
      exact beq_iff_eq

theorem orderValues_of_not_orderable (op : CompareOp) (h : ¬v.Orderable w) :
    orderValues op v w = .error (.typeMismatch op.symbol v.kindName w.kindName) := by
  unfold orderValues
  split
  · exact absurd (.numbers ..) h
  · exact absurd (.strings ..) h
  · rfl

end Value

namespace CompareOp

/-- A comparison comes out true. -/
def Affirms (op : CompareOp) (v w : Value) : Prop := op.apply v w = .ok true

/-- The operators that ask for an order. -/
def orderings : List CompareOp := [.lt, .le, .gt, .ge]

/-- The operator that asks for just this order. -/
def ofOrdering : Ordering → CompareOp
  | .lt => .lt
  | .eq => .eq
  | .gt => .gt

end CompareOp

open CompareOp

/-- All orderings of two values have an answer, and the answers fit each other and that of `==`. -/
structure Comparable (v w : Value) : Prop where
  decided : ∀ op ∈ orderings, ∃ b, op.apply v w = .ok b
  /-- Exactly one of `<`, `==` and `>` is true. -/
  exactlyOne : ∃! o, (ofOrdering o).Affirms v w
  le_iff : CompareOp.le.Affirms v w ↔ CompareOp.lt.Affirms v w ∨ CompareOp.eq.Affirms v w
  gt_eq : CompareOp.gt.apply v w = CompareOp.lt.apply w v
  ge_eq : CompareOp.ge.apply v w = CompareOp.le.apply w v

/-- All orderings of two values fail, each with its own name and the kinds of the two. -/
def Incomparable (v w : Value) : Prop :=
  ∀ op ∈ orderings, op.apply v w = .error (.typeMismatch op.symbol v.kindName w.kindName)

variable {u v w : Value}

theorem CompareOp.eq_affirms_iff : CompareOp.eq.Affirms v w ↔ v.agrees w = true := by
  simp [Affirms, apply]

theorem Value.Orderable.comparable (h : v.Orderable w) : Comparable v w := by
  obtain ⟨o, hvw, hwv, hagrees⟩ := h.order
  have hof : ∀ o', (ofOrdering o').Affirms v w ↔ o = o' := by
    intro o'
    cases o' with
    | eq => exact eq_affirms_iff.trans hagrees
    | lt | gt => cases o <;> simp [ofOrdering, Affirms, apply, hvw, Except.map]
  exact {
    decided := by
      simp only [orderings, List.forall_mem_cons, apply, hvw]
      exact ⟨⟨_, rfl⟩, ⟨_, rfl⟩, ⟨_, rfl⟩, ⟨_, rfl⟩, by simp⟩
    exactlyOne := ⟨o, (hof o).2 rfl, fun o' ho' => ((hof o').1 ho').symm⟩
    le_iff := by
      rw [show CompareOp.lt.Affirms v w ↔ o = .lt from hof .lt, show CompareOp.eq.Affirms v w ↔ o = .eq from hof .eq]
      cases o <;> simp [Affirms, apply, hvw, Except.map]
    gt_eq := by
      simp only [apply, hvw, hwv]
      cases o <;> rfl
    ge_eq := by
      simp only [apply, hvw, hwv]
      cases o <;> rfl }

theorem Value.incomparable_of_not_orderable (h : ¬v.Orderable w) : Incomparable v w := by
  simp only [Incomparable, orderings, List.forall_mem_cons, apply, Value.orderValues_of_not_orderable _ h]
  exact ⟨rfl, rfl, rfl, rfl, by simp⟩

theorem CompareOp.lt_affirms_iff : CompareOp.lt.Affirms v w ↔
    (∃ m n, v = .number m ∧ w = .number n ∧ compare m.toDouble.units n.toDouble.units = .lt) ∨
      ∃ s t, v = .string s ∧ w = .string t ∧ compare s t = .lt := by
  constructor
  · intro h
    by_cases ho : v.Orderable w
    · -- The answer of `<` is whether the order is `.lt`.
      have horder : orderValues .lt v w = .ok .lt := by
        obtain ⟨o, hvw, -⟩ := ho.order
        rw [Affirms, apply, hvw] at h
        rw [hvw, eq_of_beq (Except.ok.inj h)]
      cases ho with
      | numbers m n => exact .inl ⟨m, n, rfl, rfl, Except.ok.inj horder⟩
      | strings s t => exact .inr ⟨s, t, rfl, rfl, Except.ok.inj horder⟩
    · rw [Affirms, Value.incomparable_of_not_orderable ho .lt (by simp [orderings])] at h
      cases h
  · rintro (⟨m, n, rfl, rfl, h⟩ | ⟨s, t, rfl, rfl, h⟩)
    · show (Except.ok (compare m.toDouble.units n.toDouble.units)).map (· == .lt) = .ok true
      rw [h]
      rfl
    · show (Except.ok (compare s t)).map (· == .lt) = .ok true
      rw [h]
      rfl

theorem CompareOp.lt_affirms_trans (h : CompareOp.lt.Affirms u v) (h' : CompareOp.lt.Affirms v w) :
    CompareOp.lt.Affirms u w := by
  rw [lt_affirms_iff] at *
  rcases h with ⟨l, m, rfl, rfl, hlm⟩ | ⟨r, s, rfl, rfl, hrs⟩
  · rcases h' with ⟨m', n, hm, rfl, hmn⟩ | ⟨_, _, hm, -⟩
    · cases hm
      exact .inl ⟨l, n, rfl, rfl, Std.TransCmp.lt_trans hlm hmn⟩
    · cases hm
  · rcases h' with ⟨_, _, hs, -⟩ | ⟨s', t, hs, rfl, hst⟩
    · cases hs
    · cases hs
      exact .inr ⟨r, t, rfl, rfl, Std.TransCmp.lt_trans hrs hst⟩

/-- The comparisons of values fit each other: `==` is an equivalence that `!=` denies, `<` is transitive, and of any two
values the four orderings either have answers that fit those of `==`, which is so for two numbers and for two strings, or
fail all four. -/
theorem comparisons_coherent :
    Equivalence CompareOp.eq.Affirms ∧
      (∀ v w, ∃ b, CompareOp.eq.apply v w = .ok b ∧ CompareOp.ne.apply v w = .ok (!b)) ∧
      (∀ v w : Value, v.Orderable w ∧ Comparable v w ∨ ¬v.Orderable w ∧ Incomparable v w) ∧
      IsTrans Value CompareOp.lt.Affirms := by
  have hequivalence : Equivalence CompareOp.eq.Affirms := {
    refl := fun v => eq_affirms_iff.2 (Value.agrees_refl v)
    symm := fun h => eq_affirms_iff.2 (Value.agrees_symm (eq_affirms_iff.1 h))
    trans := fun h h' => eq_affirms_iff.2 (Value.agrees_trans (eq_affirms_iff.1 h) (eq_affirms_iff.1 h')) }
  refine ⟨hequivalence, fun v w => ⟨_, rfl, rfl⟩, fun v w => ?_, ⟨fun _ _ _ => lt_affirms_trans⟩⟩
  by_cases h : v.Orderable w
  · exact .inl ⟨h, h.comparable⟩
  · exact .inr ⟨h, Value.incomparable_of_not_orderable h⟩

end GatedFlow
