/-
  Plectrum.Band.Song
  ──────────────────
  **The song of a band: its tracks, in order.**

  The first track controls: who made the song, its tempo, its time signature, and
  every tempo change in the order it was queued.  The notes of the master follow, then
  the metronome if there is a lead-in, then the notes of each auxiliary.  A note track
  ends with the notes that still sound, at the clock.  Building a song changes nothing.
-/
import Plectrum.Band.Basic
import Plectrum.Midi.Track

namespace Plectrum

/-! ## §1. Control. -/

namespace Voice

/-- The text that names the maker of a song. -/
def attributionText : Text := "Created with strumline"

/-- The events of the control track. -/
def controlEvents (v : Voice) (attribution : Bool) : Except Fault (List Event) := do
  let first ← microsecondsPerBeat v.dynamics.initialBpm
  let signature := [Datum.whole v.beats, .whole v.config.signature.unit]
  let start : List Event :=
    [.at 0 (.setTempo (.whole first)), .at 0 (.timeSignature (.list signature))]
  let changes := v.dynamics.tempoChanges.toList.map fun change =>
    (⟨change.tick, .setTempo (.whole change.microseconds)⟩ : Event)
  return (if attribution then [.at 0 (.text (.text attributionText))] else []) ++ start
    ++ changes

/-! ## §2. Notes. -/

/-- The ends of the notes that still sound. -/
def closingEvents (v : Voice) : List Event :=
  v.sounding.filterMap fun sounding =>
    sounding.map fun pitch => ⟨.number v.clock, .noteOff v.channel (.number pitch) (.whole 0)⟩

/-- The name of the note track; a name that is nothing is empty. -/
def trackName (v : Voice) : Datum := if v.name.isNothing then .text [] else v.name

/-- The events of the note track. -/
def noteTrackEvents (v : Voice) : List Event :=
  [.at 0 (.trackName v.trackName), .at 0 (.programChange v.channel (.whole v.patch))]
    ++ v.events.toList ++ v.closingEvents

/-! ## §3. Metronome. -/

def metronomeName : Text := "Metronome"
def metronomeChannel : Datum := .number Config.percussionChannel
def metronomeKit : Datum := .whole 0
def clickPitch : Datum := .whole 37
def clickVelocity : Datum := .whole 70
def clickTicks : Quantity := .whole 1

/-- The two events of a click at a tick. -/
def click (tick off : Quantity) : List Event :=
  [⟨.number tick, .noteOn metronomeChannel clickPitch clickVelocity⟩,
   ⟨.number off, .noteOff metronomeChannel clickPitch (.whole 0)⟩]

/-- The clicks from `tick` up to `last`, one each `beat`, if there are no more than `most`. -/
def clicks (last beat : Quantity) (most : Nat) (tick : Quantity) : Except Fault (List Event) :=
  -- A click belongs to the piece if it begins before the end.
  if tick.lt last then
    match most with
    | 0 => .error .endless
    | most + 1 => do
      let off ← tick.add clickTicks
      let next ← tick.add beat
      return click tick off ++ (← clicks last beat most next)
  else .ok []

/-- The largest number of clicks from zero up to `last`, if they have an end.  Doubles may
fall short of the exact number of beats, so there is room for twice as many.  They also have
an end of their own: beyond it the next tick is infinite.  Whole numbers and ratios have none. -/
def clickLimit (last beat : Quantity) : Nat :=
  let upTo (l b : Rat) : Nat := if 0 < b then 2 * (l / b).ceil.toNat + 2 else 0
  match last.place?, beat.place?, beat with
  | _, none, _ | _, some .top, _ => 1
  | some (.value l), some (.value b), _ => upTo l b
  | some .top, some (.value b), .float _ => upTo (twoTo 1024) b
  | _, _, _ => 0

/-- Where the clicks of a metronome end: before the silence at the end, or with the lead-in. -/
def metronomeEnd (v : Voice) (lead : Quantity) : Except Fault Quantity :=
  if v.config.metronome.isNothing then lead.mul v.config.ticks else v.clock.sub v.skip

/-- The events of the metronome track, if there is a lead-in. -/
def metronomeEvents (v : Voice) : Except Fault (Option (List Event)) := do
  match v.config.lead with
  | none => return none
  | some lead =>
    let last ← v.metronomeEnd lead
    let beats ← clicks last v.config.ticks (clickLimit last v.config.ticks) (.whole 0)
    return some ([.at 0 (.trackName (.text metronomeName)),
      .at 0 (.programChange metronomeChannel metronomeKit)] ++ beats)

end Voice

/-! ## §4. All tracks. -/

namespace Band

variable {γ : Type}

/-- The song of a band. -/
def song (band : Band γ) (attribution : Bool) : Except Fault Song := do
  -- Nothing is closed yet: a track that fails leaves the band as it is.
  let control ← Track.ofEvents (← band.master.controlEvents attribution)
  let notes ← Track.ofEvents band.master.noteTrackEvents
  let metronome ← (← band.master.metronomeEvents).mapM Track.ofEvents
  let others ← band.auxiliaries.mapM fun v => Track.ofEvents v.noteTrackEvents
  return ⟨band.master.config.ticks, [control, notes] ++ metronome.toList ++ others⟩

end Band
end Plectrum
