/-
  Plectrum.Quantity.Basic
  ───────────────────────
  **The numbers of a performance: whole, rational or double.**

  Ticks are whole numbers in ordinary music, beat offsets are exact fractions, and
  tempos, volumes and hand-placed ticks may be doubles.  A quantity remembers which
  of the three it is, since the arithmetic and the text of the three differ.  A truth
  value counts as one or zero and keeps its own text.  Comparison is exact across all
  of them: no operand is rounded first.
-/
import Plectrum.Binary64.Decimal
import Plectrum.Text.Digit

namespace Plectrum

/-- A number of a performance. -/
inductive Quantity where
  | whole (n : Int)
  /-- A truth value, which counts as one or zero. -/
  | truth (b : Bool)
  | ratio (q : Rat)
  | float (x : Binary64)
  deriving Repr, DecidableEq

namespace Quantity

instance : Inhabited Quantity := ⟨.whole 0⟩

/-! ## §1. Whole numbers. -/

/-- The whole number that a truth value counts as. -/
def ofTruth (b : Bool) : Int := if b then 1 else 0

/-- The number without its way of being written: a truth value as the whole number it counts as. -/
def plain : Quantity → Quantity
  | .truth b => .whole (ofTruth b)
  | q => q

/-- The whole number that a quantity is, if it is written as one. -/
def integer? : Quantity → Option Int
  | .whole n => some n
  | .truth b => some (ofTruth b)
  | _ => none

/-! ## §2. Exact comparison. -/

/-- A place on the extended number line: below all rationals, at one, or above all. -/
inductive Place where
  | bottom
  | value (q : Rat)
  | top
  deriving Repr, DecidableEq

/-- The order of places. -/
def Place.lt : Place → Place → Bool
  | .bottom, .bottom => false
  | .bottom, _ => true
  | .value _, .bottom => false
  | .value p, .value q => p < q
  | .value _, .top => true
  | .top, _ => false

/-- Where a quantity lies; NaN lies nowhere. -/
def place? : Quantity → Option Place
  | .whole n => some (.value n)
  | .truth b => some (.value (ofTruth b))
  | .ratio q => some (.value q)
  | .float (.finite negative units) =>
    some (.value (mkRat (Binary64.signedUnits negative units) Binary64.unitsPerOne))
  | .float (.infinite negative) => some (if negative then .bottom else .top)
  | .float .nan => none

/-- Strictly less; false when either side is NaN. -/
def lt (a b : Quantity) : Bool :=
  match a.place?, b.place? with
  | some p, some q => p.lt q
  | _, _ => false

/-- Less or equal; false when either side is NaN. -/
def le (a b : Quantity) : Bool :=
  match a.place?, b.place? with
  | some p, some q => !q.lt p
  | _, _ => false

/-- Equal in value; false when either side is NaN. -/
def same (a b : Quantity) : Bool :=
  match a.place?, b.place? with
  | some p, some q => p == q
  | _, _ => false

/-- Exactly zero. -/
def isZero (a : Quantity) : Bool := a.same (.whole 0)

@[simp] theorem lt_whole (a b : Int) : (whole a).lt (whole b) = decide (a < b) := by
  show decide ((a : Rat) < (b : Rat)) = decide (a < b)
  exact decide_eq_decide.2 Rat.intCast_lt_intCast

@[simp] theorem le_whole (a b : Int) : (whole a).le (whole b) = decide (a ≤ b) := by
  show (!decide ((b : Rat) < (a : Rat))) = decide (a ≤ b)
  rw [← decide_not]
  exact decide_eq_decide.2 (by rw [Rat.intCast_lt_intCast, Int.not_lt])

/-! ## §3. Text. -/

/-- A rational as text, without a denominator of one. -/
def ratioText (q : Rat) : String :=
  if q.den = 1 then toString q.num else toString q.num ++ "/" ++ toString q.den

/-- A quantity as messages show it. -/
def text : Quantity → String
  | .whole n => toString n
  | .truth b => if b then "True" else "False"
  | .ratio q => ratioText q
  | .float x => x.text

/-- Whether a whole number keeps within the limit of digits. -/
def isShort (n : Nat) : Bool := n < tenTo Text.digitLimit

/-- Whether a quantity can be written; a number with too many digits cannot. -/
def isWritable : Quantity → Bool
  | .whole n => isShort n.natAbs
  | .ratio q => isShort q.num.natAbs && isShort q.den
  | _ => true

end Quantity
end Plectrum
