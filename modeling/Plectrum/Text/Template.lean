/-
  Plectrum.Text.Template
  ──────────────────────
  **Templates: texts with a blank for a number.**

  A blank begins with a percent sign and ends with the letter that says how the number is
  written.  Between them may stand flags, a width, a point with a precision, and a
  letter for the size of the number.  Two percent signs with nothing between them are
  one.  A template takes a single number, and every letter of it is looked at once.
-/
import Plectrum.Fault
import Plectrum.Room

namespace Plectrum.Template

/-! ## §1. Places in a template. -/

/-- What came last in a template. -/
inductive Spot where
  /-- Something outside of blanks. -/
  | outside
  /-- The sign that begins a blank. -/
  | sign
  | flag
  /-- A digit of a width. -/
  | width
  /-- A star, which takes the number for the width. -/
  | widthTaken
  | point
  /-- A digit of a precision. -/
  | precision
  /-- A star, which takes the number for the precision. -/
  | precisionTaken
  /-- A letter for the size of the number. -/
  | size
  deriving Repr, DecidableEq

/-- How far a template is filled in. -/
structure Filling where
  spot : Spot
  /-- How many letters came so far. -/
  position : Nat
  /-- Whether the number has been used. -/
  spent : Bool
  /-- Whether any letters come out. -/
  shows : Bool
  /-- The width that the present blank asks for. -/
  width : Nat
  /-- The precision that it asks for. -/
  precision : Option Nat
  deriving Repr

/-- Before the first letter. -/
def Filling.start : Filling := ⟨.outside, 0, false, false, 0, none⟩

/-- The most that a precision can be. -/
def precisionLimit : Nat := twoTo 31 - 1

/-- How much more than a precision there has to be room for. -/
def precisionMargin : Nat := 3

/-- A number with one more digit; there is a most that it can be. -/
def withDigit (limit : Nat) (fault : Fault) (n : Nat) (l : Letter) : Except Fault Nat :=
  let digit := l.code - '0'.toNat
  if (limit - digit) / 10 < n then .error fault else .ok (10 * n + digit)

/-! ## §2. One letter. -/

def isDigit (l : Letter) : Bool := l.is Char.isDigit

def isFlag (l : Letter) : Bool := l.is "-+ #0".toList.contains

/-- Use the number, which can be done once. -/
def spend (f : Filling) : Except Fault Filling :=
  if f.spent then .error .wrongKind else .ok { f with spent := true }

/-- The end of a blank, where letters come out. -/
def Filling.close (f : Filling) (shows : Bool) : Filling :=
  { f with spot := .outside, shows := f.shows || shows, width := 0, precision := none }

/-- The letter that ends a blank and says how the number is written. -/
def conversion (f : Filling) (l : Letter) : Except Fault Filling := do
  let f ← spend f
  let precision := f.precision.getD 0
  if l.is "sra".toList.contains then
    -- As a text, a number can be cut off to nothing.
    return f.close (f.precision != some 0 || f.width != 0)
  else if l.is "diuoxX".toList.contains then
    if precisionLimit - precisionMargin < precision then throw .precisionTooLarge
    return f.close true
  else if l.is "eEfFgGc".toList.contains then return f.close true
  else throw (.unknownBlank l f.position)

/-- A letter after the precision, if there is one. -/
def afterPrecision (f : Filling) (l : Letter) : Except Fault Filling :=
  if l.is "hlL".toList.contains then .ok { f with spot := .size } else conversion f l

/-- A letter after the width, if there is one. -/
def afterWidth (f : Filling) (l : Letter) : Except Fault Filling :=
  if l == '.' then .ok { f with spot := .point, precision := some 0 } else afterPrecision f l

/-- One more letter of a template for `number`. -/
def letter (number : Nat) (f : Filling) (l : Letter) : Except Fault Filling :=
  match f.spot with
  | .outside => .ok (if l == '%' then { f with spot := .sign } else { f with shows := true })
  | .sign =>
    if l == '%' then .ok (f.close true)
    -- Names are for several values.
    else if l == '(' then .error .wrongKind
    else front f l
  | .flag => front f l
  | .width =>
    if isDigit l then do
      return { f with width := ← withDigit indexLimit .widthTooBig f.width l }
    else afterWidth f l
  | .widthTaken => afterWidth f l
  | .point =>
    if l == '*' then do
      return { (← spend f) with spot := .precisionTaken, precision := some number }
    else if isDigit l then .ok { f with spot := .precision, precision := some (l.code - '0'.toNat) }
    else afterPrecision f l
  | .precision =>
    if isDigit l then do
      let n ← withDigit precisionLimit .precisionTooBig (f.precision.getD 0) l
      return { f with precision := some n }
    else afterPrecision f l
  | .precisionTaken => afterPrecision f l
  | .size => conversion f l
where
  /-- A letter at the front of a blank. -/
  front (f : Filling) (l : Letter) : Except Fault Filling :=
    if isFlag l then .ok { f with spot := .flag }
    else if l == '*' then do
      return { (← spend f) with spot := .widthTaken, width := number }
    else if isDigit l then .ok { f with spot := .width, width := l.code - '0'.toNat }
    else afterWidth f l

/-! ## §3. A whole template. -/

/-- One more letter, and its position. -/
def advance (number : Nat) (f : Filling) (l : Letter) : Except Fault Filling := do
  let f ← letter number f l
  return { f with position := f.position + 1 }

/-- Whether any letters come out of a template for a number, which has to be used. -/
def fill (number : Nat) (t : Text) : Except Fault Bool := do
  let f ← t.foldlM (advance number) Filling.start
  if f.spot ≠ .outside then throw .openBlank
  if !f.spent then throw .wrongKind
  return f.shows

example : (fill 3 "%s").toOption = some true ∧ (fill 3 "%.0s").toOption = some false := by decide
example : (fill 3 "100%%").toOption = none ∧ (fill 3 "%d%%").toOption = some true := by decide

end Plectrum.Template
