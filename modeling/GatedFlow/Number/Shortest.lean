import GatedFlow.Number.Double

/-! # The shortest decimal text of a double

The reals that round to a double form an interval around it, with its end points iff the mantissa is even.
`Double.shortest` finds the coarsest power-of-ten grid with a point in that interval and takes the point
nearest to the value, so the text has the fewest digits that read back. `DecimalStyle` holds what a format
decides on top: where positional writing ends and whether a whole number keeps a fraction. -/

namespace GatedFlow

/-- `digits * 10 ^ exponent`. -/
structure DecimalDigits where
  digits : Nat
  exponent : Int
  deriving DecidableEq

namespace Double

/-- The end points of the interval of reals that round to `|x|`, and `|x|` itself, in steps of
`2 ^ -1076`. The gap below a power of two is half as wide. -/
def roundingInterval (x : Double) : Nat × Nat × Nat :=
  let step := 1 <<< x.scale
  let below := if x.mantissa = leastNormal ∧ 0 < x.scale then 1 else 2
  ((4 * x.mantissa - below) * step, 4 * x.mantissa * step, (4 * x.mantissa + 2) * step)

/-- The point of the grid of multiples of `10 ^ exponent` that reads back as `|x|`, if there is one: of
the two neighbours of the value the nearer, and the even one of two equally near. -/
def gridPoint (x : Double) (exponent : Int) : Option Nat :=
  let up := tenTo (-exponent).toNat
  let one := tenTo exponent.toNat <<< 1076
  let (low, mid, high) := x.roundingInterval
  let inside (d : Nat) : Bool :=
    if x.mantissa % 2 = 0 then low * up ≤ d * one && d * one ≤ high * up
    else low * up < d * one && d * one < high * up
  let d := mid * up / one
  let r := mid * up % one
  match inside d && d != 0, inside (d + 1) with
  | true, true =>
    if 2 * r < one then some d else if one < 2 * r then some (d + 1) else some (d + d % 2)
  | true, false => some d
  | false, true => some (d + 1)
  | false, false => none

/-- Searches from the grid of `10 ^ exponent` towards finer ones. -/
def searchGrid (x : Double) : Nat → Int → DecimalDigits
  | 0, exponent => ⟨0, exponent⟩
  | fuel + 1, exponent =>
    match x.gridPoint exponent with
    | some d => ⟨d, exponent⟩
    | none => searchGrid x fuel (exponent - 1)

/-- The shortest digits that read back as `|x|`. The search starts at the power of ten above the value;
seventeen digits always suffice. -/
def shortest (x : Double) : DecimalDigits :=
  if x.mantissa = 0 then ⟨0, 0⟩
  else
    let top : Int := ((Nat.log2 x.mantissa + x.scale : Nat) - 1074 : Int) * 30103 / 100000 + 2
    x.searchGrid 24 top

end Double

/-- How a format writes a decimal. -/
structure DecimalStyle where
  /-- Whether a number whose point stands after this many of its digits is written positionally. -/
  positional : Int → Bool
  /-- Whether a whole number is written with the fraction `.0`. -/
  wholeFraction : Bool

namespace DecimalStyle

/-- Positional from `0.00001` to below `10 ^ 16`, always with a fraction, else with an exponent. -/
def json : DecimalStyle := ⟨fun point => -4 ≤ point && point ≤ 16, true⟩

/-- Positional at any size; whole numbers have no fraction. -/
def plain : DecimalStyle := ⟨fun _ => true, false⟩

/-- Digits without the zeros at the end, which move into the exponent. -/
def trimZeros : Nat → DecimalDigits → DecimalDigits
  | 0, d => d
  | fuel + 1, d =>
    if d.digits ≠ 0 ∧ d.digits % 10 = 0 then trimZeros fuel ⟨d.digits / 10, d.exponent + 1⟩ else d

def digitsText (style : DecimalStyle) (d : DecimalDigits) : String :=
  let d := trimZeros 20 d
  let text := toString d.digits
  let point : Int := text.length + d.exponent
  if style.positional point then
    if point ≤ 0 then "0." ++ String.ofList (List.replicate (-point).toNat '0') ++ text
    else if point < text.length then
      String.ofList (text.toList.take point.toNat) ++ "." ++ String.ofList (text.toList.drop point.toNat)
    else
      text ++ String.ofList (List.replicate (point.toNat - text.length) '0') ++
        (if style.wholeFraction then ".0" else "")
  else
    let head := String.ofList (text.toList.take 1)
    let tail := String.ofList (text.toList.drop 1)
    let exponent := point - 1
    head ++ (if tail.isEmpty then "" else "." ++ tail) ++
      (if exponent < 0 then "e-" ++ toString exponent.natAbs else "e+" ++ toString exponent.natAbs)

/-- The text of a double; the sign of zero is kept. -/
def text (style : DecimalStyle) (x : Double) : String :=
  (if x.negative then "-" else "") ++ style.digitsText x.shortest

end DecimalStyle
end GatedFlow
