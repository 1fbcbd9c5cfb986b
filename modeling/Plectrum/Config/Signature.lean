/-
  Plectrum.Config.Signature
  ─────────────────────────
  **Time signatures: `N/D`.**

  `N` beats make a measure; `D`, the note that is one beat, is one of 1, 2, 4, 8 and
  16.  The signature remembers how it was written.
-/
import Plectrum.Text.Numeral

namespace Plectrum

open Text

/-- A time signature. -/
structure Signature where
  /-- As it was written. -/
  written : Text
  beats : Nat
  unit : Nat
  deriving Repr, DecidableEq

namespace Signature

/-- The notes that may be one beat. -/
def units : List Nat := [1, 2, 4, 8, 16]

/-- The digits of the two numbers. -/
def parts? (t : Text) : Option (Text × Text) :=
  let numerator := t.takeWhile isDigit
  if numerator.isEmpty then none
  else
    match t.dropWhile isDigit with
    | .char '/' :: denominator =>
      if !denominator.isEmpty && denominator.all isDigit then some (numerator, denominator) else none
    | _ => none

/-- Read a time signature; blanks may surround it. -/
def read (t : Text) : Except Fault Signature :=
  match parts? (trim t) with
  | none => .error (.badSignature t)
  | some (numerator, denominator) => do
    let beats ← naturalOfDigits numerator
    let unit ← naturalOfDigits denominator
    if beats < 1 ∨ unit ∉ units then .error (.badSignature t) else .ok ⟨t, beats, unit⟩

end Signature
end Plectrum
