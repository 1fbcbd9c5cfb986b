/-
  Plectrum.Binary64.Logarithm
  ───────────────────────────
  **The natural logarithm of a double, to the nearest double.**

  A positive number is a power of two times a number from one up to two.  The
  logarithm of the second factor is twice the inverse hyperbolic tangent of a quotient
  of at most one third, and a series gives that tangent in fixed point, far beyond the
  53 bits of a double.  The sum is rounded once.
-/
import Plectrum.Binary64.Basic

namespace Plectrum.Binary64

/-- The bits after the point in the fixed point of the series. -/
def pointBits : Nat := 192

/-- The sum of `power / k + power · q² / (k + 2) + …` in fixed point, where `q² = n / d`. -/
def oddSeries (n d : Nat) : Nat → Nat → Nat → Nat
  | 0, _, _ => 0
  | terms + 1, k, power => power / k + oddSeries n d terms (k + 2) (power * n / d)

/-- The inverse hyperbolic tangent of `n / d` in fixed point, for a quotient of at most
one third.  Each term has three bits less than the one before. -/
def artanh (n d : Nat) : Nat :=
  oddSeries (n * n) (d * d) (pointBits / 3 + 1) 1 (n * twoTo pointBits / d)

/-- The logarithm of two in fixed point. -/
def lnTwo : Nat := 2 * artanh 1 3

/-- The logarithm of `units` smallest units in fixed point, for a positive count. -/
def lnUnits (units : Nat) : Int :=
  let power := units.log2
  let one := twoTo power
  ((power : Int) - 1074) * lnTwo + 2 * artanh (units - one) (units + one)

/-- The natural logarithm: of zero minus infinity, of a negative number none. -/
def ln : Binary64 → Binary64
  | .finite _ 0 => .infinite true
  | .finite false units => ofQuotient (lnUnits units) (twoTo pointBits)
  | .finite true _ => .nan
  | .infinite negative => if negative then .nan else .infinite false
  | .nan => .nan

example : ln (ofInt 1) = .zero := by decide +kernel

end Plectrum.Binary64
