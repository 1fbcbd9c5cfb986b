/-
  Plectrum.Voice.Measure
  ──────────────────────
  **Playing measures: a pattern over chords, or silence.**

  A pattern is played once for each chord, one measure each.  All chords are read
  before anything sounds.  Strings are numbered from the highest in a pattern and
  listed from the lowest in a chord; actions on strings that the instrument lacks, or
  that the chord leaves alone, do nothing.
-/
import Plectrum.Pattern.Basic
import Plectrum.Voice.Chord
import Plectrum.Voice.Strike

namespace Plectrum

/-- What a voice is asked to play. -/
inductive Music where
  | silence
  | pattern (p : Pattern)
  /-- Something that is no pattern, by the name of its kind. -/
  | other (kindName : String)

namespace Play

variable {γ : Type} [ChanceSource γ]

/-- The place among `count` strings, lowest first, of the string numbered `string` from the highest. -/
def stringIndex? (count string : Nat) : Option Nat :=
  if 1 ≤ string ∧ string ≤ count then some (count - string) else none

/-- Play one stroke of a group. -/
def stroke (tick : Int) (stray : Binary64) (frets : List (Option Int)) (s : Stroke) :
    Play γ Unit := do
  let v ← voice
  match stringIndex? v.stringCount s.string with
  -- A string after the last one is left out; there is none before the first one.
  | none => if s.string = 0 then throw .noSuchString
  | some index =>
    match frets[index]?, v.roots[index]? with
    | some (some fret), some root =>
      strike tick index (← root.add (.whole fret)) s.velocity stray true
    | _, _ => pure ()

/-- The time of a beat offset in the measure that begins at the clock. -/
def offsetTick (v : Voice) (offset : Rat) : Except Fault Quantity := do
  v.clock.add (← (Quantity.ratio (offset - 1)).mul v.config.ticks)

/-- Play one group: one time and one stray for all its strokes. -/
def group (frets : List (Option Int)) (g : Group) : Play γ Unit := do
  -- The time is drawn before the force.
  let tick ← humanize (← offsetTick (← voice) g.offset)
  let stray ← jitter
  g.strokes.forM (stroke tick stray frets)

/-- Play a pattern over one chord, and go on by one measure. -/
def playMeasure (pattern : Pattern) (frets : List (Option Int)) : Play γ Unit := do
  pattern.groups.forM (group frets)
  let v ← voice
  let clock ← v.clock.add v.measure
  changeVoice fun v => { v with clock }

/-- One silent measure. -/
def playSilence : Play γ Unit := do
  let v ← voice
  let clock ← v.clock.add v.measure
  changeVoice fun v => { v with clock }
  let skip ← v.skip.add v.measure
  changeVoice fun v => { v with skip }

/-- A pattern may reach beyond its measure; the journal says so. -/
def warnBeyondMeasure (pattern : Pattern) : Play γ Unit := do
  let v ← voice
  let last := Quantity.ratio pattern.lastOffset
  if (Quantity.whole (v.beats + 1)).le last then
    let reached ← last.toFloat
    Act.report .warning .instrument
      [.shown v.name, ": pattern reaches beat ", Quantity.float reached, ", beyond a ", v.beats,
       " beat measure"]

/-- The frets of the chords for a pattern; a pattern needs at least one. -/
def readChords (roots : List Quantity) (chords : List Datum) :
    Except Fault (List (List (Option Int))) := do
  if chords.isEmpty then throw .patternWithoutChords
  chords.mapM (Chord.frets roots)

/-- Play a pattern over chords that have been read. -/
def playMeasures (pattern : Pattern) (parsed : List (List (Option Int))) : Play γ Unit := do
  warnBeyondMeasure pattern
  changeVoice fun v => { v with skip := .whole 0 }
  parsed.forM (playMeasure pattern)
  let v ← voice
  Act.report .debug .instrument
    [.shown v.name, ": played ", parsed.length, " measure(s), clock ", v.clock]

/-- Play a pattern over chords, or one silent measure. -/
def play (music : Music) (chords : List Datum) : Play γ Unit := do
  requireOpen
  match music with
  | .silence =>
    if !chords.isEmpty then throw .chordsWithoutPattern
    playSilence
  | .other kindName => throw (.notAPattern kindName)
  | .pattern pattern =>
    -- Every chord is read before anything sounds.
    let parsed ← readChords (← voice).roots chords
    playMeasures pattern parsed

/-- Silence, several measures of it. -/
def rests : Nat → Play γ Unit
  | 0 => pure ()
  | count + 1 => do
    play .silence []
    rests count

/-- `measures` measures of silence, which have to be a whole number; none when it is not
positive. -/
def rest (measures : Datum) : Play γ Unit :=
  match measures.int? with
  | some count => rests count.toNat
  | none => throw .wrongKind

end Play
end Plectrum
