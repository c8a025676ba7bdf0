/-! # Finite binary64 numbers

A `Double` is a sign, a mantissa below `2 ^ 53` and a scale: it stands for
`± mantissa * 2 ^ (scale - 1074)`. Counted in the smallest positive step `2 ^ -1074` every value is a
whole number, `units`, so comparing doubles is comparing integers and reading a decimal is rounding one
quotient of naturals. -/

namespace GatedFlow

/-- The nearest integer to `num / den`; a half goes to the even neighbour. -/
def roundHalfEven (num den : Nat) : Nat :=
  let q := num / den
  let r := num % den
  if 2 * r < den then q else if den < 2 * r then q + 1 else q + q % 2

def tenTo (n : Nat) : Nat := Nat.pow 10 n

/-- Mantissas lie below this number, `2 ^ 53`. -/
def mantissaLimit : Nat := 0x20000000000000

/-- The least mantissa with its top bit set, `2 ^ 52`. -/
def leastNormal : Nat := 0x10000000000000

/-- A finite binary64 number. The mantissa has its top bit set unless the scale is the least one, so a
number has one representation, up to the sign of zero. -/
structure Double where
  negative : Bool
  mantissa : Nat
  scale : Nat
  canonical : mantissa < mantissaLimit ∧ scale ≤ 2045 ∧ (leastNormal ≤ mantissa ∨ scale = 0)
  deriving DecidableEq

namespace Double

/-- The double of these parts, if the format has it. -/
def ofParts? (negative : Bool) (mantissa scale : Nat) : Option Double :=
  if h : mantissa < mantissaLimit ∧ scale ≤ 2045 ∧ (leastNormal ≤ mantissa ∨ scale = 0) then
    some ⟨negative, mantissa, scale, h⟩
  else none

def zero (negative : Bool) : Double := ⟨negative, 0, 0, by decide⟩

def largest (negative : Bool) : Double := ⟨negative, mantissaLimit - 1, 2045, by decide⟩

/-- The value counted in steps of `2 ^ -1074`. -/
def units (x : Double) : Int :=
  let size : Int := Int.ofNat (x.mantissa <<< x.scale)
  if x.negative then -size else size

/-- The double nearest to `± num / den`, ties to the even mantissa; none beyond the finite range. -/
def ofRatio? (negative : Bool) (num den : Nat) : Option Double :=
  let scaled := num <<< 1074
  let floor := scaled / den
  let scale := (if floor = 0 then 0 else Nat.log2 floor + 1) - 53
  let mantissa := roundHalfEven scaled (den <<< scale)
  if mantissa = mantissaLimit then ofParts? negative leastNormal (scale + 1)
  else ofParts? negative mantissa scale

/-- The double nearest to `± digits * 10 ^ exponent`; none beyond the finite range. Exponents far outside
the format are settled without building the power of ten. -/
def ofDecimal? (negative : Bool) (digits : Nat) (exponent : Int) : Option Double :=
  if digits = 0 then some (zero negative)
  else if 400 < exponent then none
  else if exponent + (Nat.log2 digits + 1 : Nat) < -400 then some (zero negative)
  else if 0 ≤ exponent then ofRatio? negative (digits * tenTo exponent.toNat) 1
  else ofRatio? negative digits (tenTo (-exponent).toNat)

/-- The double nearest to an integer; integers beyond the finite range give the largest value. -/
def ofInt (i : Int) : Double :=
  (ofRatio? (i < 0) i.natAbs 1).getD (largest (i < 0))

/-- Equality by value: the two zeros are equal. -/
def same (x y : Double) : Bool := x.units == y.units

def less (x y : Double) : Bool := decide (x.units < y.units)

def isZero (x : Double) : Bool := x.mantissa == 0

end Double
end GatedFlow
