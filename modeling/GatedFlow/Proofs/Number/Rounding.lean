import GatedFlow.Number.Double
import GatedFlow.Number.Word
import Mathlib

/-! # Rounding whole numbers

A whole number of at most 53 binary digits is a double; a longer one is rounded to 53 digits. `Double.nearestInt` says which
whole number the double nearest to an integer stands for (`Double.units_ofInt`). Rounding keeps the order
(`Double.nearestInt_mono`) and every integer up to `2 ^ 53` (`Double.nearestInt_of_small`). -/

namespace GatedFlow

/-! ### The nearest integer to a quotient -/

variable {x y d c n : Nat}

theorem roundHalfEven_ge (x d : Nat) : x / d ≤ roundHalfEven x d := by
  unfold roundHalfEven
  dsimp only
  split_ifs <;> omega

theorem roundHalfEven_le (x d : Nat) : roundHalfEven x d ≤ x / d + 1 := by
  unfold roundHalfEven
  dsimp only
  split_ifs <;> omega

theorem roundHalfEven_mono (d : Nat) (h : x ≤ y) : roundHalfEven x d ≤ roundHalfEven y d := by
  rcases Nat.lt_or_eq_of_le (Nat.div_le_div_right (c := d) h) with hlt | heq
  · exact (roundHalfEven_le x d).trans (Nat.le_trans hlt (roundHalfEven_ge y d))
  · -- With the same quotient the remainders are in the order of the numbers.
    have hmod : x % d ≤ y % d := by
      have hx := Nat.div_add_mod x d
      have hy := Nat.div_add_mod y d
      rw [heq] at hx
      omega
    unfold roundHalfEven
    dsimp only
    rw [heq]
    split_ifs <;> omega

/-- A common factor does not matter. -/
theorem roundHalfEven_mul_right (x d : Nat) (hc : 0 < c) : roundHalfEven (x * c) (d * c) = roundHalfEven x d := by
  unfold roundHalfEven
  dsimp only
  have hbelow : 2 * (x % d * c) < d * c ↔ 2 * (x % d) < d := by rw [← Nat.mul_assoc, Nat.mul_lt_mul_right hc]
  have habove : d * c < 2 * (x % d * c) ↔ d < 2 * (x % d) := by rw [← Nat.mul_assoc, Nat.mul_lt_mul_right hc]
  simp only [Nat.mul_div_mul_right x d hc, Nat.mul_mod_mul_right, hbelow, habove]

theorem roundHalfEven_one (x : Nat) : roundHalfEven x 1 = x := by
  simp [roundHalfEven, Nat.mod_one]

theorem roundHalfEven_self_mul (x : Nat) (hc : 0 < c) : roundHalfEven (x * c) c = x := by
  simpa [roundHalfEven_one] using roundHalfEven_mul_right x 1 hc

/-! ### Whole numbers of at most 53 binary digits -/

namespace Double

/-- The number of binary digits of a whole number that a mantissa does not hold. -/
def surplus (n : Nat) : Nat := Nat.log2 n - 52

/-- The nearest whole number of at most 53 binary digits before the zeros at the end, of two equally near the one with
the even mantissa. -/
def nearestNat (n : Nat) : Nat := roundHalfEven n (2 ^ surplus n) * 2 ^ surplus n

theorem nearestNat_of_lt (hn : n < 2 ^ 53) : nearestNat n = n := by
  have hsurplus : surplus n = 0 := by
    by_cases h : n = 0
    · subst h
      rfl
    · have hlog : n.log2 < 53 := (Nat.log2_lt h).2 hn
      unfold surplus
      omega
  rw [nearestNat, hsurplus, pow_zero, roundHalfEven_one, mul_one]

/-- Rounding stays between the powers of two around a number. -/
theorem nearestNat_bounds (hn : n ≠ 0) : 2 ^ Nat.log2 n ≤ nearestNat n ∧ nearestNat n ≤ 2 ^ (Nat.log2 n + 1) := by
  have hlow : 2 ^ n.log2 ≤ n := Nat.log2_self_le hn
  have hhigh : n < 2 ^ (n.log2 + 1) := Nat.lt_log2_self
  by_cases hlog : n.log2 < 53
  · rw [nearestNat_of_lt ((Nat.log2_lt hn).1 hlog)]
    exact ⟨hlow, hhigh.le⟩
  · obtain ⟨k, hk⟩ : ∃ k, n.log2 = 52 + k := ⟨n.log2 - 52, by omega⟩
    have hsurplus : surplus n = k := by
      unfold surplus
      omega
    have hpos : 0 < 2 ^ k := Nat.two_pow_pos k
    rw [hk, pow_add] at hlow
    rw [hk, show 52 + k + 1 = 53 + k by omega, pow_add] at hhigh
    rw [nearestNat, hsurplus, hk, show 52 + k + 1 = 53 + k by omega, pow_add, pow_add]
    constructor
    · refine Nat.mul_le_mul_right _ ?_
      rw [← roundHalfEven_self_mul (2 ^ 52) hpos]
      exact roundHalfEven_mono _ hlow
    · refine Nat.mul_le_mul_right _ ?_
      rw [← roundHalfEven_self_mul (2 ^ 53) hpos]
      exact roundHalfEven_mono _ hhigh.le

theorem nearestNat_mono (h : x ≤ y) : nearestNat x ≤ nearestNat y := by
  by_cases hx : x = 0
  · subst hx
    exact Nat.zero_le _
  have hy : y ≠ 0 := by omega
  have hlog : x.log2 ≤ y.log2 := (Nat.le_log2 hy).2 ((Nat.log2_self_le hx).trans h)
  rcases Nat.lt_or_eq_of_le hlog with hlt | heq
  · calc nearestNat x ≤ 2 ^ (x.log2 + 1) := (nearestNat_bounds hx).2
      _ ≤ 2 ^ y.log2 := Nat.pow_le_pow_right (by decide) hlt
      _ ≤ nearestNat y := (nearestNat_bounds hy).1
  · unfold nearestNat surplus
    rw [heq]
    exact Nat.mul_le_mul_right _ (roundHalfEven_mono _ h)

/-- Counted in steps so fine that all digits fit, a whole number is rounded as it is in steps of one. -/
theorem roundHalfEven_scaled (n s : Nat) :
    roundHalfEven (n <<< (52 + s)) (1 <<< (n.log2 + s)) <<< (n.log2 + s) = nearestNat n <<< (52 + s) := by
  simp only [nearestNat, Nat.shiftLeft_eq, Nat.one_mul]
  rcases Nat.le_total n.log2 52 with hlog | hlog
  · obtain ⟨j, hj⟩ := Nat.exists_eq_add_of_le hlog
    have hsurplus : surplus n = 0 := by
      unfold surplus
      omega
    have hpow : n * 2 ^ (52 + s) = n * 2 ^ j * 2 ^ (n.log2 + s) := by
      rw [hj, Nat.mul_assoc, ← pow_add]
      congr 2
      omega
    rw [hsurplus, pow_zero, roundHalfEven_one, mul_one, hpow, roundHalfEven_self_mul _ (Nat.two_pow_pos _)]
  · obtain ⟨k, hk⟩ := Nat.exists_eq_add_of_le hlog
    have hsurplus : surplus n = k := by
      unfold surplus
      omega
    have hpow : 2 ^ (n.log2 + s) = 2 ^ k * 2 ^ (52 + s) := by
      rw [hk, ← pow_add]
      congr 1
      omega
    rw [hsurplus, hpow, roundHalfEven_mul_right _ _ (Nat.two_pow_pos _), Nat.mul_assoc]

theorem log2_shiftLeft (hn : n ≠ 0) (s : Nat) : (n <<< s).log2 = n.log2 + s := by
  have hpos : 0 < 2 ^ s := Nat.two_pow_pos s
  rw [Nat.shiftLeft_eq]
  refine (Nat.log2_eq_iff (Nat.mul_ne_zero hn hpos.ne')).2 ⟨?_, ?_⟩
  · rw [pow_add]
    exact Nat.mul_le_mul_right _ (Nat.log2_self_le hn)
  · rw [Nat.add_right_comm, pow_add]
    exact (Nat.mul_lt_mul_right hpos).2 Nat.lt_log2_self

theorem shiftLeft_ne_zero (hn : n ≠ 0) (s : Nat) : n <<< s ≠ 0 := by
  rw [Nat.shiftLeft_eq]
  exact Nat.mul_ne_zero hn (Nat.two_pow_pos s).ne'

/-- The rounded mantissa has 53 binary digits, or is the least number of 54. -/
theorem mantissa_bounds (hn : n ≠ 0) (s : Nat) :
    leastNormal ≤ roundHalfEven (n <<< (52 + s)) (1 <<< (n.log2 + s)) ∧
      roundHalfEven (n <<< (52 + s)) (1 <<< (n.log2 + s)) ≤ mantissaLimit := by
  obtain ⟨hlow, hhigh⟩ := nearestNat_bounds hn
  have hscaled := roundHalfEven_scaled n s
  rw [Nat.shiftLeft_eq _ (n.log2 + s), Nat.shiftLeft_eq (nearestNat n)] at hscaled
  rw [show leastNormal = 2 ^ 52 from rfl, show mantissaLimit = 2 ^ 53 from rfl]
  constructor
  · refine Nat.le_of_mul_le_mul_right ?_ (Nat.two_pow_pos (n.log2 + s))
    rw [hscaled, ← pow_add, show 52 + (n.log2 + s) = n.log2 + (52 + s) by omega, pow_add]
    exact Nat.mul_le_mul_right _ hlow
  · refine Nat.le_of_mul_le_mul_right ?_ (Nat.two_pow_pos (n.log2 + s))
    rw [hscaled, ← pow_add, show 53 + (n.log2 + s) = n.log2 + 1 + (52 + s) by omega, pow_add 2 (n.log2 + 1)]
    exact Nat.mul_le_mul_right _ hhigh

/-- A whole number is read as the double with its rounded value. -/
theorem ofRatio?_whole (negative : Bool) (hn : n ≠ 0) (hlt : n < wordCount) :
    ∃ x, ofRatio? negative n 1 = some x ∧ x.negative = negative ∧ x.mantissa <<< x.scale = nearestNat n <<< 1074 := by
  have hlog : n.log2 < 64 := (Nat.log2_lt hn).2 hlt
  have hscale : (n <<< 1074).log2 + 1 - 53 = n.log2 + 1022 := by
    rw [log2_shiftLeft hn]
    omega
  have hscaled : roundHalfEven (n <<< 1074) (1 <<< (n.log2 + 1022)) <<< (n.log2 + 1022) = nearestNat n <<< 1074 :=
    roundHalfEven_scaled n 1022
  have hbounds : leastNormal ≤ roundHalfEven (n <<< 1074) (1 <<< (n.log2 + 1022)) ∧
      roundHalfEven (n <<< 1074) (1 <<< (n.log2 + 1022)) ≤ mantissaLimit := mantissa_bounds hn 1022
  unfold ofRatio?
  simp only [Nat.div_one, shiftLeft_ne_zero hn, if_false, hscale]
  generalize roundHalfEven (n <<< 1074) (1 <<< (n.log2 + 1022)) = mantissa at hscaled hbounds ⊢
  split_ifs with hmantissa
  · have hcanonical : leastNormal < mantissaLimit ∧ n.log2 + 1022 + 1 ≤ 2045 ∧
        (leastNormal ≤ leastNormal ∨ n.log2 + 1022 + 1 = 0) := ⟨by decide, by omega, .inl (Nat.le_refl _)⟩
    refine ⟨⟨negative, leastNormal, n.log2 + 1022 + 1, hcanonical⟩, dif_pos hcanonical, rfl, ?_⟩
    show leastNormal <<< (n.log2 + 1022 + 1) = _
    rw [← hscaled, hmantissa, Nat.add_comm _ 1, Nat.shiftLeft_add]
    rfl
  · have hcanonical : mantissa < mantissaLimit ∧ n.log2 + 1022 ≤ 2045 ∧
        (leastNormal ≤ mantissa ∨ n.log2 + 1022 = 0) :=
      ⟨Nat.lt_of_le_of_ne hbounds.2 hmantissa, by omega, .inl hbounds.1⟩
    exact ⟨⟨negative, mantissa, n.log2 + 1022, hcanonical⟩, dif_pos hcanonical, rfl, hscaled⟩

/-! ### Integers -/

/-- The whole number that the double nearest to an integer stands for. -/
def nearestInt (i : Int) : Int := i.sign * nearestNat i.natAbs

theorem nearestInt_neg (i : Int) : nearestInt (-i) = -nearestInt i := by
  rw [nearestInt, Int.sign_neg, Int.natAbs_neg, Int.neg_mul]
  rfl

theorem nearestInt_of_nonneg {i : Int} (h : 0 ≤ i) : nearestInt i = nearestNat i.natAbs := by
  rcases Int.lt_or_eq_of_le h with hpos | rfl
  · rw [nearestInt, Int.sign_eq_one_of_pos hpos, Int.one_mul]
  · rfl

theorem shiftLeft_eq_mul (n s : Nat) : n <<< s = n * 1 <<< s := by
  rw [Nat.shiftLeft_eq, Nat.shiftLeft_eq, Nat.one_mul]

theorem units_ofInt {i : Int} (h : i.natAbs < wordCount) : (ofInt i).units = nearestInt i * ((1 <<< 1074 : Nat) : Int) := by
  by_cases hzero : i = 0
  · subst hzero
    rfl
  obtain ⟨x, hx, hnegative, hsize⟩ := ofRatio?_whole (decide (i < 0)) (Int.natAbs_ne_zero.2 hzero) h
  rw [ofInt, hx, Option.getD_some, units, hsize, hnegative, shiftLeft_eq_mul]
  simp only [decide_eq_true_eq, Int.ofNat_eq_natCast, Nat.cast_mul]
  split_ifs with hneg
  · rw [nearestInt, Int.sign_eq_neg_one_of_neg hneg, Int.neg_one_mul, Int.neg_mul]
  · rw [nearestInt_of_nonneg (by omega)]

/-- Integers are ordered as doubles as their rounded values are. -/
theorem compare_units_ofInt {m n : Int} (hm : m.natAbs < wordCount) (hn : n.natAbs < wordCount) :
    compare (ofInt m).units (ofInt n).units = compare (nearestInt m) (nearestInt n) := by
  have hpos : 0 < ((1 <<< 1074 : Nat) : Int) := Int.natCast_pos.2 (Nat.pos_of_ne_zero (shiftLeft_ne_zero (by decide) _))
  rw [units_ofInt hm, units_ofInt hn]
  generalize ((1 <<< 1074 : Nat) : Int) = c at hpos
  rw [← cmp_eq_compare, ← cmp_eq_compare]
  exact (strictMono_mul_right_of_pos hpos).cmp_map_eq _ _

theorem nearestInt_mono {m n : Int} (h : m ≤ n) : nearestInt m ≤ nearestInt n := by
  rcases lt_or_ge m 0 with hm | hm
  · rw [← Int.neg_neg m, nearestInt_neg, nearestInt_of_nonneg (i := -m) (by omega)]
    rcases lt_or_ge n 0 with hn | hn
    · have hle : nearestNat (-n).natAbs ≤ nearestNat (-m).natAbs := nearestNat_mono (by omega)
      rw [← Int.neg_neg n, nearestInt_neg, nearestInt_of_nonneg (i := -n) (by omega)]
      omega
    · rw [nearestInt_of_nonneg hn]
      omega
  · have hle : nearestNat m.natAbs ≤ nearestNat n.natAbs := nearestNat_mono (by omega)
    rw [nearestInt_of_nonneg hm, nearestInt_of_nonneg (hm.trans h)]
    omega

theorem nearestInt_of_small {i : Int} (h : i.natAbs < mantissaLimit) : nearestInt i = i := by
  rw [nearestInt, nearestNat_of_lt h, Int.sign_mul_natAbs]

/-- A number of more than 53 binary digits is not rounded to one of fewer. -/
theorem mantissaLimit_le_nearestInt {i : Int} (h : mantissaLimit ≤ i.natAbs) : mantissaLimit ≤ (nearestInt i).natAbs := by
  have hlimit : nearestNat mantissaLimit = mantissaLimit := by decide +kernel
  have hle : nearestNat mantissaLimit ≤ nearestNat i.natAbs := nearestNat_mono h
  have hi : i ≠ 0 := by
    rintro rfl
    exact absurd h (by decide)
  rwa [nearestInt, Int.natAbs_mul, Int.natAbs_sign_of_ne_zero hi, Nat.one_mul, Int.natAbs_natCast, ← hlimit]

/-- An integer of fewer than 54 binary digits is what no other integer is rounded to. -/
theorem eq_of_nearestInt_eq {m n : Int} (h : m.natAbs < mantissaLimit ∨ n.natAbs < mantissaLimit)
    (heq : nearestInt m = nearestInt n) : m = n := by
  have hsmall : ∀ {i j : Int}, i.natAbs < mantissaLimit → nearestInt i = nearestInt j → i = j := by
    intro i j hi hij
    have hj : j.natAbs < mantissaLimit := by
      by_contra hj
      have hlarge := mantissaLimit_le_nearestInt (Nat.le_of_not_lt hj)
      rw [← hij, nearestInt_of_small hi] at hlarge
      omega
    rwa [nearestInt_of_small hi, nearestInt_of_small hj] at hij
  rcases h with hm | hn
  · exact hsmall hm heq
  · exact (hsmall hn heq.symm).symm

end Double
end GatedFlow
