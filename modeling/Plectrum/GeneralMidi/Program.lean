/-
  Plectrum.GeneralMidi.Program
  ────────────────────────────
  **The 128 programs of General MIDI.**

  A program is named or numbered.  Names are matched without regard to case and
  blanks; the spelling is that of the usual program list.  A text of digits counts
  as the number it spells.
-/
import Plectrum.Text.Numeral

namespace Plectrum.GeneralMidi

open Text

/-! ## §1. Matching names. -/

/-- The lower-case form of a character, as far as the names need it: besides the
capital letters only the Kelvin sign has a lower case among their letters. -/
def lowerCase (c : Char) : Char :=
  if c.toNat = 0x212A then 'k' else c.toLower

/-- A name without blanks and capitals. -/
def plainName (name : Text) : Text := (name.filter (!isBlank ·)).map (Letter.map lowerCase)

/-- The position of a name in a list of names. -/
def indexOf? (name : Text) (names : List String) : Option Nat :=
  names.findIdx? fun (known : String) => plainName known == plainName name

/-! ## §2. Programs. -/

/-- The programs, from number zero on. -/
def programNames : List String :=
  ["Acoustic Grand", "Bright Acoustic", "Electric Grand", "Honky-Tonk", "Electric Piano 1",
   "Electric Piano 2", "Harpsichord", "Clav", "Celesta", "Glockenspiel", "Music Box",
   "Vibraphone", "Marimba", "Xylophone", "Tubular Bells", "Dulcimer", "Drawbar Organ",
   "Percussive Organ", "Rock Organ", "Church Organ", "Reed Organ", "Accordion", "Harmonica",
   "Tango Accordion", "Acoustic Guitar(nylon)", "Acoustic Guitar(steel)",
   "Electric Guitar(jazz)", "Electric Guitar(clean)", "Electric Guitar(muted)",
   "Overdriven Guitar", "Distortion Guitar", "Guitar Harmonics", "Acoustic Bass",
   "Electric Bass(finger)", "Electric Bass(pick)", "Fretless Bass", "Slap Bass 1", "Slap Bass 2",
   "Synth Bass 1", "Synth Bass 2", "Violin", "Viola", "Cello", "Contrabass", "Tremolo Strings",
   "Pizzicato Strings", "Orchestral Strings", "Timpani", "String Ensemble 1",
   "String Ensemble 2", "SynthStrings 1", "SynthStrings 2", "Choir Aahs", "Voice Oohs",
   "Synth Voice", "Orchestra Hit", "Trumpet", "Trombone", "Tuba", "Muted Trumpet", "French Horn",
   "Brass Section", "SynthBrass 1", "SynthBrass 2", "Soprano Sax", "Alto Sax", "Tenor Sax",
   "Baritone Sax", "Oboe", "English Horn", "Bassoon", "Clarinet", "Piccolo", "Flute", "Recorder",
   "Pan Flute", "Blown Bottle", "Shakuhachi", "Whistle", "Ocarina", "Lead 1 (square)",
   "Lead 2 (sawtooth)", "Lead 3 (calliope)", "Lead 4 (chiff)", "Lead 5 (charang)",
   "Lead 6 (voice)", "Lead 7 (fifths)", "Lead 8 (bass+lead)", "Pad 1 (new age)", "Pad 2 (warm)",
   "Pad 3 (polysynth)", "Pad 4 (choir)", "Pad 5 (bowed)", "Pad 6 (metallic)", "Pad 7 (halo)",
   "Pad 8 (sweep)", "FX 1 (rain)", "FX 2 (soundtrack)", "FX 3 (crystal)", "FX 4 (atmosphere)",
   "FX 5 (brightness)", "FX 6 (goblins)", "FX 7 (echoes)", "FX 8 (sci-fi)", "Sitar", "Banjo",
   "Shamisen", "Koto", "Kalimba", "Bagpipe", "Fiddle", "Shanai", "Tinkle Bell", "Agogo",
   "Steel Drums", "Woodblock", "Taiko Drum", "Melodic Tom", "Synth Drum", "Reverse Cymbal",
   "Guitar Fret Noise", "Breath Noise", "Seashore", "Bird Tweet", "Telephone Ring", "Helicopter",
   "Applause", "Gunshot"]

/-- A program number that is in range; `given` is how it was named. -/
def programInRange (given : Datum) (n : Int) : Except Fault Int :=
  if 0 ≤ n ∧ n ≤ 127 then .ok n else .error (.programOutOfRange given)

/-- The number of the program with a name. -/
def programNamed (name : Text) : Except Fault Int :=
  let trimmed := trim name
  if !trimmed.isEmpty && trimmed.all isDigitLike then do
    programInRange (.text name) (← readInt name)
  else
    match indexOf? name programNames with
    | some n => .ok n
    | none => .error (.unknownProgram name)

/-- The number of a program, which is named by a text or a whole number. -/
def program (d : Datum) : Except Fault Int :=
  match d.text?, d.int? with
  | some name, _ => programNamed name
  | none, some n => programInRange d n
  | none, none => .error .wrongKind

end Plectrum.GeneralMidi
