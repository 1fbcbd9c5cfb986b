/-
  Plectrum.Voice.Chord
  ────────────────────
  **Chords: a fret for each string, or none.**

  A chord lists the strings from the lowest up.  A number is the fret held there; a
  dash, or nothing, leaves the string alone.  Every fret must keep its string within
  the range of pitches.
-/
import Plectrum.Datum.Reading
import Plectrum.GeneralMidi.Pitch

namespace Plectrum.Chord

open Text

/-- The items of a chord: the words of a text, or what another datum holds. -/
def items : Datum → Except Fault (List Datum)
  | .text t => .ok ((words t).map .text)
  | d => d.elements

/-- The whole number that an item spells, when it spells one. -/
def fretNumber? (item : Datum) : Except Fault (Option Int) :=
  match item with
  | .text t => .ok (readInt t).toOption
  | .number q =>
    match q.truncated with
    | .ok n => .ok (some n)
    | .error .infinityToInteger => .error .infinityToInteger
    | .error _ => .ok none
  | d => .ok d.readWhole.toOption

/-- The fret of one item on a string with the given root. -/
def fret (chord : Datum) (root : Quantity) (item : Datum) : Except Fault (Option Int) :=
  match item with
  -- Only these two leave the string alone; all else has to be a number.
  | .null | .text [.char '-'] => .ok none
  | _ => do
    match ← fretNumber? item with
    | none => throw (.badFret item chord)
    | some n =>
      let pitch ← root.add (.whole n)
      if (Quantity.whole 0).le pitch && pitch.le (.whole 127) then return some n
      else throw (.fretOutOfRange n pitch chord)

/-- The frets of a chord on strings with the given roots. -/
def frets (roots : List Quantity) (chord : Datum) : Except Fault (List (Option Int)) := do
  let entries ← items chord
  if entries.length ≠ roots.length then throw (.chordSize roots.length chord)
  (roots.zip entries).mapM fun (root, item) => fret chord root item

end Plectrum.Chord
