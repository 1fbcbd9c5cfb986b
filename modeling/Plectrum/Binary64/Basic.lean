/-
  Plectrum.Binary64.Basic
  ───────────────────────
  **Double precision numbers, counted in their smallest unit.**

  Every finite double is a whole multiple of `2^-1074`.  A finite number is
  therefore a sign and a count of such units, equal counts are equal numbers, and
  every operation is exact arithmetic followed by ONE rounding step, `rounded`:
  keep the 53 leading bits, ties to even, and past the largest double go to
  infinity.
-/
import Plectrum.Rounding

namespace Plectrum

/-- A double precision number. -/
inductive Binary64 where
  /-- The number of `units` of `2^-1074` each, with a sign that zero has too. -/
  | finite (negative : Bool) (units : Nat)
  | infinite (negative : Bool)
  /-- Not a number. -/
  | nan
  deriving Repr, DecidableEq

namespace Binary64

/-! ## §1. Rounding. -/

/-- How many units make one. -/
def unitsPerOne : Nat := twoTo 1074

/-- The first count of units that is out of range, `2^1024`. -/
def unitsLimit : Nat := twoTo 2098

/-- The distance in units between neighbouring doubles around `units`: one unit
until 53 bits are full, then twice as much for each further bit. -/
def spacing (units : Nat) : Nat := twoTo (units.log2 + 1 - 53)

/-- The count of units of the double nearest to `n / d` units, without a bound. -/
def roundedUnits (n d : Nat) : Nat :=
  -- The whole part of the quotient already tells how many bits there are.
  let step := spacing (n / d)
  nearestQuotient n (d * step) * step

/-- The double nearest to `n / d` units, with the given sign. -/
def rounded (negative : Bool) (n d : Nat) : Binary64 :=
  let units := roundedUnits n d
  if units < unitsLimit then .finite negative units else .infinite negative

/-- The double nearest to a rational; zero is positive. -/
def ofRat (q : Rat) : Binary64 :=
  rounded (q.num < 0) (q.num.natAbs * unitsPerOne) q.den

/-- The double nearest to a whole number. -/
def ofInt (n : Int) : Binary64 :=
  rounded (n < 0) (n.natAbs * unitsPerOne) 1

/-- The double nearest to `n / d`; a zero takes the sign of the quotient. -/
def ofQuotient (n d : Int) : Binary64 :=
  rounded (decide (n < 0) != decide (d < 0)) (n.natAbs * unitsPerOne) d.natAbs

def zero : Binary64 := .finite false 0

/-! ## §2. Values. -/

/-- The signed count of units. -/
def signedUnits (negative : Bool) (units : Nat) : Int :=
  if negative then -(units : Int) else units

/-- The exact value of a finite number. -/
def toRat? : Binary64 → Option Rat
  | .finite negative units => some (mkRat (signedUnits negative units) unitsPerOne)
  | _ => none

/-- Zero of either sign. -/
def isZero : Binary64 → Bool
  | .finite _ units => units == 0
  | _ => false

/-- The 64 bits of the interchange format; NaN has one pattern here. -/
def toBits : Binary64 → Nat
  | .finite negative units =>
    let sign := if negative then twoTo 63 else 0
    -- Below the 53rd bit the count itself is the pattern, with exponent zero.
    if units < twoTo 52 then sign + units
    else
      let shift := units.log2 - 52
      sign + (shift + 1) * twoTo 52 + (units >>> shift - twoTo 52)
  | .infinite negative => (if negative then twoTo 63 else 0) + 0x7ff0000000000000
  | .nan => 0x7ff8000000000000

/-! ## §3. Arithmetic. -/

def neg : Binary64 → Binary64
  | .finite negative units => .finite (!negative) units
  | .infinite negative => .infinite (!negative)
  | .nan => .nan

/-- The sum; an exact zero is negative only when both terms are. -/
def add : Binary64 → Binary64 → Binary64
  | .finite s a, .finite t b =>
    let sum := signedUnits s a + signedUnits t b
    -- A sum of counts is exact; only its size may need rounding.
    if sum = 0 then .finite (s && t) 0 else rounded (sum < 0) sum.natAbs 1
  | .infinite s, .infinite t => if s = t then .infinite s else .nan
  | .infinite s, .finite _ _ => .infinite s
  | .finite _ _, .infinite t => .infinite t
  | .nan, _ => .nan
  | _, .nan => .nan

def sub (x y : Binary64) : Binary64 := add x y.neg

def mul : Binary64 → Binary64 → Binary64
  | .finite s a, .finite t b => rounded (s != t) (a * b) unitsPerOne
  | .infinite s, .finite t b => if b = 0 then .nan else .infinite (s != t)
  | .finite s a, .infinite t => if a = 0 then .nan else .infinite (s != t)
  | .infinite s, .infinite t => .infinite (s != t)
  | .nan, _ => .nan
  | _, .nan => .nan

/-- The quotient; the callers exclude a zero divisor. -/
def div : Binary64 → Binary64 → Binary64
  | .finite s a, .finite t b => rounded (s != t) (a * unitsPerOne) b
  | .infinite s, .finite t _ => .infinite (s != t)
  | .finite s _, .infinite t => .finite (s != t) 0
  | .infinite _, .infinite _ => .nan
  | .nan, _ => .nan
  | _, .nan => .nan

/-! ## §4. Decimals. -/

/-- The double nearest to `digits · 10^exponent`.  Far outside the range of
doubles the power of ten is not computed. -/
def ofDecimal (negative : Bool) (digits : Nat) (exponent : Int) : Binary64 :=
  let size : Int := (Nat.toDigits 10 digits).length
  if digits = 0 then .finite negative 0
  -- The largest double has 309 digits, and half the smallest one lies below `10^-323`.
  else if 310 < size + exponent then .infinite negative
  else if size + exponent < -330 then .finite negative 0
  else if 0 ≤ exponent then rounded negative (digits * tenTo exponent.toNat * unitsPerOne) 1
  else rounded negative (digits * unitsPerOne) (tenTo (-exponent).toNat)

end Binary64
end Plectrum
