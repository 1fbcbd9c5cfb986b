/-
  Plectrum.Quantity.Residue
  ─────────────────────────
  **Residues: numbers folded into a word.**

  A number of any size is folded into 64 bits by its residue modulo a prime.  Numbers that
  are equal in value have one residue, also when one is whole and the other a double.
-/
import Plectrum.Quantity.Basic

namespace Plectrum.Residue

/-! ## §1. Magnitudes. -/

/-- The prime modulus, `2^61 - 1`. -/
def modulus : Nat := twoTo 61 - 1

/-- The residue of a whole number. -/
def ofNat (n : Nat) : Nat := n % modulus

/-- The residue of a number of smallest units.  `2^61` leaves one, so one unit, which is
`2^-1074`, leaves the same as `2^24`: the exponents differ by 18 times 61. -/
def ofUnits (units : Nat) : Nat := units * twoTo 24 % modulus

/-- What stands for infinity. -/
def ofInfinity : Nat := 314159

/-! ## §2. Words. -/

/-- A residue with a sign, as 64 bits; minus one is left out. -/
def signed (negative : Bool) (n : Nat) : Nat :=
  if negative && n != 0 then twoTo 64 - max 2 n else n

/-- The word of a whole number. -/
def ofInt (n : Int) : Nat := signed (n < 0) (ofNat n.natAbs)

/-- The word of a double; NaN has none. -/
def ofDouble? : Binary64 → Option Nat
  | .finite negative units => some (signed negative (ofUnits units))
  | .infinite negative => some (signed negative ofInfinity)
  | .nan => none

/-- The word of a number that is whole or a double. -/
def ofQuantity? : Quantity → Option Nat
  | .whole n => some (ofInt n)
  | .truth b => some (ofInt (Quantity.ofTruth b))
  | .ratio _ => none
  | .float x => ofDouble? x

example : ofUnits Binary64.unitsPerOne = ofNat 1 := by decide +kernel

end Plectrum.Residue
