/-
  Plectrum.Rounding
  ─────────────────
  **Rounding to the nearest whole number, halves to the even neighbour.**

  Ticks, velocities and tempos are whole numbers, and each is the rounding of an
  exact quotient.  `nearestQuotient` rounds a quotient of natural numbers;
  `nearestInt` and `towardZero` carry it to the rationals, sign by sign.
-/

namespace Plectrum

/-! ## §0. Powers. -/

/-- The `n`-th power of two. -/
def twoTo (n : Nat) : Nat := Nat.pow 2 n

/-- The `n`-th power of ten. -/
def tenTo (n : Nat) : Nat := Nat.pow 10 n

theorem twoTo_pos (n : Nat) : 0 < twoTo n := Nat.pow_pos (by decide)

theorem twoTo_add (m n : Nat) : twoTo (m + n) = twoTo m * twoTo n := Nat.pow_add 2 m n

theorem twoTo_lt_tenTo {m n : Nat} (le : m ≤ n) (pos : n ≠ 0) : twoTo m < tenTo n :=
  Nat.lt_of_le_of_lt (Nat.pow_le_pow_right (by decide) le) (Nat.pow_lt_pow_left (by decide) pos)

/-! ## §1. Quotients of natural numbers. -/

/-- The whole number nearest to `n / d`; of two equally near ones, the even one. -/
def nearestQuotient (n d : Nat) : Nat :=
  -- Compare twice the remainder with the divisor instead of a half.
  let quotient := n / d
  let twice := 2 * (n % d)
  if twice < d then quotient
  else if d < twice then quotient + 1
  else if quotient % 2 = 0 then quotient else quotient + 1

/-- A whole quotient rounds to itself. -/
theorem nearestQuotient_one (n : Nat) : nearestQuotient n 1 = n := by
  simp [nearestQuotient, Nat.mod_one]

/-- Rounding moves a quotient up by less than one whole step. -/
theorem div_le_nearestQuotient (n d : Nat) : n / d ≤ nearestQuotient n d := by
  simp only [nearestQuotient]
  repeat' split
  all_goals omega

theorem nearestQuotient_le_succ (n d : Nat) : nearestQuotient n d ≤ n / d + 1 := by
  simp only [nearestQuotient]
  repeat' split
  all_goals omega

/-! ## §2. Rationals. -/

/-- The whole number nearest to `q`; a half goes to the even neighbour. -/
def nearestInt (q : Rat) : Int :=
  let magnitude : Int := nearestQuotient q.num.natAbs q.den
  if q.num < 0 then -magnitude else magnitude

/-- The whole part of `q`, its fraction dropped. -/
def towardZero (q : Rat) : Int :=
  q.num.tdiv q.den

example : nearestInt (mkRat 5 2) = 2 ∧ nearestInt (mkRat 7 2) = 4 := by decide +kernel
example : nearestInt (mkRat (-5) 2) = -2 ∧ towardZero (mkRat (-7) 2) = -3 := by decide +kernel

end Plectrum
