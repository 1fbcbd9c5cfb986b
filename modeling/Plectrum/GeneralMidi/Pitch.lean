/-
  Plectrum.GeneralMidi.Pitch
  ──────────────────────────
  **Note names and tunings.**

  A note is a letter, an accidental and an octave; middle C, `C4`, is pitch 60.  A
  tuning lists the open strings from the lowest up, a drum list the drums from the
  bottom line of a tab up; both resolve to root pitches.
-/
import Plectrum.Datum.Reading
import Plectrum.GeneralMidi.Drum

namespace Plectrum.GeneralMidi

open Text

/-! ## §1. Notes. -/

/-- The steps above C of a note letter. -/
def letterSteps? (c : Char) : Option Int :=
  match c.toUpper with
  | 'C' => some 0
  | 'D' => some 2
  | 'E' => some 4
  | 'F' => some 5
  | 'G' => some 7
  | 'A' => some 9
  | 'B' => some 11
  | _ => none

/-- The steps of an accidental, and what follows it. -/
def accidental : Text → Int × Text
  | .char '#' :: t | .char 's' :: t | .char 'S' :: t => (1, t)
  | .char 'b' :: t => (-1, t)
  | t => (0, t)

/-- The octave that a text consists of: one digit, with or without a minus. -/
def octave? : Text → Option Int
  | [.char '-', d] => (digitValue? d).map fun n => -(n : Int)
  | [d] => (digitValue? d).map fun n => (n : Int)
  | _ => none

/-- The pitch of a note name without surrounding blanks, in or out of range. -/
def notePitch? : Text → Option Int
  | .char letter :: t => do
    let steps ← letterSteps? letter
    let (shift, rest) := accidental t
    let octave ← octave? rest
    return (octave + 1) * 12 + steps + shift
  | _ => none

/-- The pitch of the note with a name; blanks may surround it. -/
def noteNamed (name : Text) : Except Fault Quantity :=
  match notePitch? (trim name) with
  | none => .error (.unknownNote name)
  | some p => if isKey p then .ok (.whole p) else .error (.noteOutOfRange name)

/-- The pitch of a note, which is named by a text or a whole number; a number stays as it
is written. -/
def pitch (d : Datum) : Except Fault Quantity :=
  match d with
  | .text name => noteNamed name
  | .number q =>
    match q.integer? with
    | some n => if isKey n then .ok q else .error (.pitchOutOfRange q)
    | none => .error .lacksOperation
  | d => do noteNamed (← d.asText)

/-! ## §2. Tunings. -/

/-- The names that a datum lists: those of a list, the words of a text that is a tuning,
or a single drum, whose name has blanks. -/
def namesOf (percussion : Bool) (d : Datum) : Except Fault (List Datum) :=
  match d with
  | .text t => .ok (if percussion then [d] else (words t).map .text)
  | _ => d.elements

/-- The root pitches of the strings or drums that a datum lists.  Names resolve one after
the other, so the first that fails decides. -/
def rootsOf (percussion : Bool) (d : Datum) : Except Fault (List Quantity) := do
  let pitches ← (← namesOf percussion d).mapM (if percussion then drum else pitch)
  if pitches.isEmpty then throw .noStrings
  return pitches

example : notePitch? "C4" = some 60 ∧ notePitch? "Bb3" = some 58 := by decide
example : notePitch? "C-1" = some 0 ∧ notePitch? "E--1" = none := by decide

end Plectrum.GeneralMidi
