/-
  Plectrum.GeneralMidi.Drum
  ─────────────────────────
  **The drums of General MIDI.**

  On the percussion channel a key stands for a drum instead of a pitch.  The named
  keys run without a gap from the bass drum at 35 up to the triangle at 81; any key
  from 0 to 127 may be given by number.
-/
import Plectrum.GeneralMidi.Program

namespace Plectrum.GeneralMidi

/-- The key of the first named drum. -/
def firstDrum : Nat := 35

/-- The named drums, from the first key on. -/
def drumNames : List String :=
  ["Acoustic Bass Drum", "Bass Drum 1", "Side Stick", "Acoustic Snare", "Hand Clap",
   "Electric Snare", "Low Floor Tom", "Closed Hi-Hat", "High Floor Tom", "Pedal Hi-Hat",
   "Low Tom", "Open Hi-Hat", "Low-Mid Tom", "Hi-Mid Tom", "Crash Cymbal 1", "High Tom",
   "Ride Cymbal 1", "Chinese Cymbal", "Ride Bell", "Tambourine", "Splash Cymbal", "Cowbell",
   "Crash Cymbal 2", "Vibraslap", "Ride Cymbal 2", "Hi Bongo", "Low Bongo", "Mute Hi Conga",
   "Open Hi Conga", "Low Conga", "High Timbale", "Low Timbale", "High Agogo", "Low Agogo",
   "Cabasa", "Maracas", "Short Whistle", "Long Whistle", "Short Guiro", "Long Guiro", "Claves",
   "Hi Wood Block", "Low Wood Block", "Mute Cuica", "Open Cuica", "Mute Triangle",
   "Open Triangle"]

/-- The keys and pitches that MIDI knows. -/
def isKey (n : Int) : Bool := 0 ≤ n && n ≤ 127

/-- The key of the drum with a name. -/
def drumNamed (name : Text) : Except Fault Quantity :=
  match indexOf? name drumNames with
  | some n => .ok (.whole (firstDrum + n : Nat))
  | none => .error (.unknownDrum name)

/-- The key of a drum, which is named by a text or a whole number; a number stays as it
is written. -/
def drum (d : Datum) : Except Fault Quantity :=
  match d with
  | .text name => drumNamed name
  | .number q =>
    match q.integer? with
    | some n => if isKey n then .ok q else .error (.drumOutOfRange q)
    | none => .error .wrongKind
  | _ => .error .wrongKind

end Plectrum.GeneralMidi
