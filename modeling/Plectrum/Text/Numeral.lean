/-
  Plectrum.Text.Numeral
  ─────────────────────
  **Reading numbers.**

  Whole numbers, fractions and decimals share one shape of digits: decimal digits
  of any script, with single low lines between them.  Blanks may surround a number
  and a sign may stand before it.  A run of more than 4300 digits is refused.
-/
import Plectrum.Fault
import Plectrum.Text.Blank
import Plectrum.Text.Digit

namespace Plectrum.Text

/-! ## §1. Digits and signs. -/

/-- The number that a run of digits stands for. -/
def naturalOfDigits (ds : Text) : Except Fault Nat :=
  if digitLimit < ds.length then .error (.tooManyDigits ds.length) else .ok (digitsValue ds)

/-- The digits that go on after a digit, and what follows them.  A low line counts
only between two digits. -/
def digitTail : Text → Text × Text
  | [] => ([], [])
  | [a] => if isDigit a then ([a], []) else ([], [a])
  | a :: b :: t =>
    if isDigit a then
      let (ds, rest) := digitTail (b :: t)
      (a :: ds, rest)
    else if a = '_' ∧ isDigit b then
      let (ds, rest) := digitTail t
      (b :: ds, rest)
    else ([], a :: b :: t)

/-- The digits that a text begins with, and what follows them. -/
def digitRun? : Text → Option (Text × Text)
  | [] => none
  | l :: t =>
    if isDigit l then
      let (ds, rest) := digitTail t
      some (l :: ds, rest)
    else none

/-- The digits that a text begins with, possibly none, and what follows them. -/
def digitRunOrNone (t : Text) : Text × Text :=
  (digitRun? t).getD ([], t)

/-- Whether a minus sign stands first, and what follows the sign. -/
def signed : Text → Bool × Text
  | .char '-' :: t => (true, t)
  | .char '+' :: t => (false, t)
  | t => (false, t)

/-- `n` or its negative. -/
def applySign (negative : Bool) (n : Nat) : Int :=
  if negative then -(n : Int) else n

/-! ## §2. Whole numbers. -/

/-- A digit, or a low line as it may stand between digits. -/
def isDigitOrLine (l : Letter) : Bool := isDigit l || l == '_'

/-- Digits with single low lines between them, and nothing else. -/
def isDigitRun (t : Text) : Bool :=
  (splitWhere (· == '_') t).all fun piece => !piece.isEmpty && piece.all isDigit

/-- Read a whole number.  The limit of digits comes before what follows them. -/
def readInt (t : Text) : Except Fault Int := do
  let (negative, body) := signed (trimWhere isNumberBlank t)
  let run := body.takeWhile isDigitOrLine
  if !isDigitRun run then throw (.notAnInteger 10 (.text t))
  let n ← naturalOfDigits (run.filter isDigit)
  if !(body.dropWhile isDigitOrLine).isEmpty then throw (.notAnInteger 10 (.text t))
  return applySign negative n

/-! ## §3. Decimals. -/

/-- A number taken apart: digits before the point, digits after it, and the power of ten. -/
structure Decimal where
  integer : Text
  fraction : Text
  exponent : Int
  /-- The number of digits that the exponent is written with. -/
  exponentSize : Nat

/-- The exponent that a text consists of, if any stands there, and the number of its digits. -/
def exponent? : Text → Option (Int × Nat)
  | [] => some (0, 0)
  | l :: t =>
    if l = 'e' ∨ l = 'E' then
      let (negative, body) := signed t
      match digitRun? body with
      | some (ds, []) => some (applySign negative (digitsValue ds), ds.length)
      | _ => none
    else none

/-- A number without a sign: digits, a point with more digits, an exponent.  At
least one digit stands before or after the point. -/
def decimal? (t : Text) : Option Decimal :=
  let (integer, afterInteger) := digitRunOrNone t
  -- Both `5.` and `.5` are decimals, a lone point is none.
  let (fraction, rest) :=
    match afterInteger with
    | .char '.' :: tail => digitRunOrNone tail
    | _ => ([], afterInteger)
  if integer.isEmpty && fraction.isEmpty then none
  else (exponent? rest).map fun (exponent, size) => ⟨integer, fraction, exponent, size⟩

/-- The exact value of a decimal. -/
def Decimal.toRat (d : Decimal) : Rat :=
  let digits : Rat := digitsValue (d.integer ++ d.fraction)
  let power := d.exponent - d.fraction.length
  if 0 ≤ power then digits * 10 ^ power.toNat else digits / 10 ^ (-power).toNat

/-- Read a fraction: a decimal, or two whole numbers with a bar between them, the
second not zero.  No part has more digits than the limit. -/
def readRatio? (t : Text) : Option Rat :=
  let (negative, body) := signed (trim t)
  let magnitude : Option Rat :=
    match digitRun? body with
    -- No blank and no sign may stand beside the bar.
    | some (numerator, .char '/' :: tail) =>
      match digitRun? tail with
      | some (denominator, []) =>
        if digitLimit < numerator.length ∨ digitLimit < denominator.length
            ∨ digitsValue denominator = 0 then none
        else some ((digitsValue numerator : Rat) / (digitsValue denominator : Rat))
      | _ => none
    | _ =>
      (decimal? body).bind fun d =>
        if digitLimit < d.integer.length ∨ digitLimit < d.fraction.length
            ∨ digitLimit < d.exponentSize then none
        else some d.toRat
  magnitude.map fun q => if negative then -q else q

/-- The names of the doubles that are no numbers: infinity, and NaN. -/
def floatName? (negative : Bool) (t : Text) : Option Binary64 :=
  let name := t.toLower
  if name = "inf" ∨ name = "infinity" then some (.infinite negative)
  else if name = "nan" then some .nan
  else none

/-- Read a double. -/
def readFloat (t : Text) : Except Fault Binary64 :=
  let (negative, body) := signed (trimWhere isNumberBlank t)
  match floatName? negative body with
  | some x => .ok x
  | none =>
    match decimal? body with
    | some d =>
      .ok (.ofDecimal negative (digitsValue (d.integer ++ d.fraction))
        (d.exponent - d.fraction.length))
    | none => .error (.notANumber (.text t))

end Plectrum.Text
