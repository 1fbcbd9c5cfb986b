/-
  Plectrum.Binary64.Decimal
  ─────────────────────────
  **The decimal text of a double.**

  A number is written with the fewest digits that read back as the same double,
  and of those with the digits nearest to it.  On each grid of 1, 2, … 17 digits
  only the two neighbours of the number can qualify, so the search tests those
  two and stops at the first grid with a hit.  `fixed` writes a given number of
  places instead, rounded once, halves to even.
-/
import Plectrum.Binary64.Basic

namespace Plectrum.Binary64

/-! ## §1. The fewest digits. -/

/-- A decimal, `digits · 10^exponent`. -/
structure Decimal where
  digits : Nat
  exponent : Int
  deriving Repr, DecidableEq

/-- The units of the double that a decimal reads back as. -/
def Decimal.units (d : Decimal) : Nat :=
  if 0 ≤ d.exponent then roundedUnits (d.digits * tenTo d.exponent.toNat * unitsPerOne) 1
  else roundedUnits (d.digits * unitsPerOne) (tenTo (-d.exponent).toNat)

/-- Without the zeros at the end of the digits. -/
def Decimal.trimmed (d : Decimal) : Decimal :=
  go d.digits d d.digits
where
  go : Nat → Decimal → Nat → Decimal
    | 0, d, _ => d
    | fuel + 1, d, n =>
      if n ≠ 0 ∧ n % 10 = 0 then go fuel ⟨n / 10, d.exponent + 1⟩ (n / 10) else d

/-- The position `p` of the decimal point with `10^(p-1) ≤ value < 10^p`, for a
positive count of units.  Scaled by `10^340` every double is at least one. -/
def decimalPoint (units : Nat) : Int :=
  (Nat.toDigits 10 (units * tenTo 340 / unitsPerOne)).length - 340

/-- On the grid of `n` significant digits, the neighbour that reads back: of two,
the nearer one, and of two equally near ones the even one. -/
def onGrid? (units n : Nat) : Option Decimal :=
  let exponent := decimalPoint units - n
  let numerator := if 0 ≤ exponent then units else units * tenTo (-exponent).toNat
  let denominator := if 0 ≤ exponent then unitsPerOne * tenTo exponent.toNat else unitsPerOne
  -- The number lies between these two points of the grid, or on the first of them.
  let below : Decimal := ⟨numerator / denominator, exponent⟩
  let above : Decimal := ⟨numerator / denominator + 1, exponent⟩
  let nearest : Decimal := ⟨nearestQuotient numerator denominator, exponent⟩
  match below.units == units, above.units == units with
  | true, true => some nearest
  | true, false => some below
  | false, true => some above
  | false, false => none

/-- The shortest decimal that reads back as `units`, for a positive count. -/
def shortest (units : Nat) : Decimal :=
  let grids := (List.range 17).map (· + 1)
  ((grids.findSome? (onGrid? units)).getD ⟨0, 0⟩).trimmed

/-! ## §2. Layout. -/

/-- How a number is laid out. -/
structure Layout where
  /-- The number of leading zeros after the point from which the exponent form is used. -/
  leadingZeros : Nat
  /-- The most digits before the point in positional form. -/
  integerDigits : Nat
  /-- The fewest digits of an exponent. -/
  exponentDigits : Nat

/-- Numbers below `0.0001` and from `10^16` on have an exponent of two digits or more. -/
def layout : Layout := ⟨4, 16, 2⟩

/-- `n` in decimal, filled with zeros on the left up to `width` digits. -/
def padded (width n : Nat) : String :=
  let digits := toString n
  "".pushn '0' (width - digits.length) ++ digits

/-- A positive decimal as text: positional between the bounds of the layout, else
one digit, a point if more follow, and the exponent with its sign. -/
def Decimal.text (form : Layout) (d : Decimal) : String :=
  let digits := Nat.toDigits 10 d.digits
  let count : Int := digits.length
  let point := count + d.exponent
  if -(form.leadingZeros : Int) < point ∧ point ≤ form.integerDigits then
    -- All digits behind the point, all in front of it, or the point among them.
    if point ≤ 0 then "0." ++ "".pushn '0' (-point).toNat ++ String.ofList digits
    else if count ≤ point then
      String.ofList digits ++ "".pushn '0' (point - count).toNat ++ ".0"
    else
      String.ofList (digits.take point.toNat) ++ "." ++ String.ofList (digits.drop point.toNat)
  else
    let power := point - 1
    let fraction := if digits.length ≤ 1 then "" else "." ++ String.ofList (digits.drop 1)
    let sign := if power < 0 then "-" else "+"
    String.ofList (digits.take 1) ++ fraction ++ "e" ++ sign
      ++ padded form.exponentDigits power.natAbs

/-- The text of a double. -/
def text : Binary64 → String
  | .nan => "nan"
  | .infinite negative => if negative then "-inf" else "inf"
  | .finite negative units =>
    let magnitude := if units = 0 then "0.0" else (shortest units).text layout
    if negative then "-" ++ magnitude else magnitude

/-- The text with exactly `places` digits after the point. -/
def fixed (places : Nat) : Binary64 → String
  | .nan => "nan"
  | .infinite negative => if negative then "-inf" else "inf"
  | .finite negative units =>
    let scaled := nearestQuotient (units * tenTo places) unitsPerOne
    let whole := toString (scaled / tenTo places)
    let fraction := padded places (scaled % tenTo places)
    (if negative then "-" else "") ++ whole ++ "." ++ fraction

end Plectrum.Binary64
