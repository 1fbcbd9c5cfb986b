/-
  Plectrum.Quantity.Arithmetic
  ────────────────────────────
  **Arithmetic on quantities.**

  Whole numbers stay whole, a fraction keeps the result a fraction, and a double
  makes the result a double.  Only the step into the doubles can fail: a whole
  number or a fraction beyond the largest double has no image there.  `Scalar`
  collects what the ramps need, so that the same formulas can be read over the
  exact rationals.
-/
import Plectrum.Fault

namespace Plectrum

namespace Quantity

/-! ## §1. Into and out of the doubles. -/

/-- A double, unless it is beyond the largest one. -/
def inRange (fault : Fault) : Binary64 → Except Fault Binary64
  | .infinite _ => .error fault
  | x => .ok x

/-- The double that a whole number takes part in an operation as. -/
def floatOfInt (n : Int) : Except Fault Binary64 := inRange .integerTooLarge (.ofInt n)

/-- The double nearest to a quotient of whole numbers. -/
def floatOfQuotient (n d : Int) : Except Fault Binary64 :=
  if d = 0 then .error .divisionByZero else inRange .quotientTooLarge (.ofQuotient n d)

/-- The double that a quantity takes part in an operation as. -/
def toFloat : Quantity → Except Fault Binary64
  | .whole n => floatOfInt n
  | .truth b => floatOfInt (ofTruth b)
  | .ratio q => floatOfQuotient q.num q.den
  | .float x => .ok x

/-- The nearest double, infinite when out of range. -/
def nearestFloat : Quantity → Binary64
  | .whole n => .ofInt n
  | .truth b => .ofInt (ofTruth b)
  | .ratio q => .ofRat q
  | .float x => x

/-- Carry an operation out on doubles. -/
def onFloats (op : Binary64 → Binary64 → Binary64) (a b : Quantity) : Except Fault Quantity := do
  let x ← a.toFloat
  let y ← b.toFloat
  return .float (op x y)

/-! ## §2. The operations. -/

def add (a b : Quantity) : Except Fault Quantity :=
  match a.plain, b.plain with
  | .whole a, .whole b => .ok (.whole (a + b))
  | .whole a, .ratio q => .ok (.ratio (a + q))
  | .ratio p, .whole b => .ok (.ratio (p + b))
  | .ratio p, .ratio q => .ok (.ratio (p + q))
  | a, b => onFloats Binary64.add a b

def sub (a b : Quantity) : Except Fault Quantity :=
  match a.plain, b.plain with
  | .whole a, .whole b => .ok (.whole (a - b))
  | .whole a, .ratio q => .ok (.ratio (a - q))
  | .ratio p, .whole b => .ok (.ratio (p - b))
  | .ratio p, .ratio q => .ok (.ratio (p - q))
  | a, b => onFloats Binary64.sub a b

def mul (a b : Quantity) : Except Fault Quantity :=
  match a.plain, b.plain with
  | .whole a, .whole b => .ok (.whole (a * b))
  | .whole a, .ratio q => .ok (.ratio (a * q))
  | .ratio p, .whole b => .ok (.ratio (p * b))
  | .ratio p, .ratio q => .ok (.ratio (p * q))
  | a, b => onFloats Binary64.mul a b

/-- The exact quotient of fractions. -/
def ratioQuotient (p q : Rat) : Except Fault Quantity :=
  if q = 0 then .error .divisionByZero else .ok (.ratio (p / q))

/-- The quotient of doubles. -/
def floatQuotient (x y : Binary64) : Except Fault Quantity :=
  if (float y).isZero then .error .divisionByZero else .ok (.float (x.div y))

/-- The quotient: of two whole numbers a double, rounded once. -/
def div (a b : Quantity) : Except Fault Quantity :=
  match a.plain, b.plain with
  | .whole n, .whole d => return .float (← floatOfQuotient n d)
  | .whole n, .ratio q => ratioQuotient n q
  | .ratio p, .whole d => ratioQuotient p d
  | .ratio p, .ratio q => ratioQuotient p q
  -- What has no double comes before a zero.
  | a, b => do floatQuotient (← a.toFloat) (← b.toFloat)

/-- The whole multiple of the positive number `width` that `a` is, as a quantity
of the kind of `a`; none when `a` is no whole multiple. -/
def wholeMultiple? (a : Quantity) (width : Nat) : Option Quantity :=
  match a.plain with
  | .whole n => if n % width = 0 then some (.whole (n / width)) else none
  | .ratio q => if q.den = 1 ∧ q.num % width = 0 then some (.whole (q.num / width)) else none
  | .float (.finite negative units) =>
    -- Counts of units divide exactly when the numbers do.
    let part := width * Binary64.unitsPerOne
    if units % part = 0 then some (.float (Binary64.rounded negative units width)) else none
  | _ => none

/-! ## §3. Whole numbers. -/

/-- The whole number nearest to a double, halves to even. -/
def nearestOfFloat : Binary64 → Except Fault Int
  | .finite negative units =>
    let magnitude : Int := nearestQuotient units Binary64.unitsPerOne
    .ok (if negative then -magnitude else magnitude)
  | .infinite _ => .error .infinityToInteger
  | .nan => .error .nanToInteger

/-- The whole number nearest to a quantity, halves to even. -/
def nearest : Quantity → Except Fault Int
  | .whole n => .ok n
  | .truth b => .ok (ofTruth b)
  | .ratio q => .ok (nearestInt q)
  | .float x => nearestOfFloat x

/-- A quantity without its fraction. -/
def truncated : Quantity → Except Fault Int
  | .whole n => .ok n
  | .truth b => .ok (ofTruth b)
  | .ratio q => .ok (towardZero q)
  | .float (.finite negative units) =>
    let magnitude : Int := units / Binary64.unitsPerOne
    .ok (if negative then -magnitude else magnitude)
  | .float (.infinite _) => .error .infinityToInteger
  | .float .nan => .error .nanToInteger

/-- The text of a quantity with a fixed number of places.  A ratio has no such text. -/
def fixed (places : Nat) : Quantity → Except Fault String
  | .ratio _ => .error .wrongKind
  | a => do return (← a.toFloat).fixed places

end Quantity

/-! ## §4. Arithmetic as a parameter. -/

/-- What a ramp computes with.  Values that are no numbers fail in every operation but
the question whether two are the same. -/
class Scalar (α : Type) where
  /-- A count, such as a number of beats. -/
  count : Int → α
  /-- A constant of a formula. -/
  constant : Nat → α
  add : α → α → Except Fault α
  sub : α → α → Except Fault α
  mul : α → α → Except Fault α
  div : α → α → Except Fault α
  lt : α → α → Except Fault Bool
  le : α → α → Except Fault Bool
  same : α → α → Bool
  /-- The nearest whole number, halves to even. -/
  nearest : α → Except Fault Int

instance : Scalar Quantity where
  count n := .whole n
  constant n := .float (.ofInt n)
  add := Quantity.add
  sub := Quantity.sub
  mul := Quantity.mul
  div := Quantity.div
  lt a b := .ok (a.lt b)
  le a b := .ok (a.le b)
  same := Quantity.same
  nearest := Quantity.nearest

/-- Exact arithmetic. -/
instance : Scalar Rat where
  count n := n
  constant n := n
  add p q := .ok (p + q)
  sub p q := .ok (p - q)
  mul p q := .ok (p * q)
  div p q := if q = 0 then .error .divisionByZero else .ok (p / q)
  lt p q := .ok (decide (p < q))
  le p q := .ok (decide (p ≤ q))
  same p q := p == q
  nearest q := .ok (nearestInt q)

end Plectrum
