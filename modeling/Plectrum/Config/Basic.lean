/-
  Plectrum.Config.Basic
  ─────────────────────
  **The settings of one instrument.**

  Settings that are left open depend on whether the instrument is melodic or
  percussion; the percussion channel makes it percussion.  `Config.ofSettings` fills
  them in and checks every bound, one after the other, so the first setting out of
  bounds is the one that is reported.  Settings without bounds stay the data that were
  given; what they are good for shows when they are used.
-/
import Plectrum.Config.Options
import Plectrum.Config.Signature
import Plectrum.Datum.Reading

namespace Plectrum

/-- The settings of one instrument. -/
structure Config where
  name : Datum
  signature : Signature
  bpm : Quantity
  /-- The program or drum kit. -/
  instrument : Datum
  /-- The tuning or the drums. -/
  strings : Datum
  /-- The scale of every velocity. -/
  volume : Quantity
  /-- How far a strike may stray in time, in ticks either way. -/
  timeSpread : Quantity
  /-- How far a velocity may stray, either way. -/
  volumeSpread : Quantity
  /-- The beats of the lead-in; without one there is no metronome. -/
  lead : Option Quantity
  /-- Whether the metronome goes on after the lead-in. -/
  metronome : Datum
  /-- The file that finishing writes. -/
  midi : Datum
  channel : Quantity
  percussion : Datum
  seed : Datum
  /-- Ticks for each beat. -/
  ticks : Quantity
  /-- Whether the file names its generator. -/
  attribution : Datum
  deriving Repr

namespace Config

/-! ## §1. Defaults and bounds. -/

def percussionChannel : Quantity := .whole 9
def lastChannel : Quantity := .whole 15
def maxVolume : Quantity := .ratio (3 / 2)
def maxTimeSpread : Quantity := .whole 10
def maxVolumeSpread : Quantity := .whole 6
def defaultSignature : Text := "4/4"
def defaultBpm : Int := 100
def defaultTicks : Int := 192
def defaultProgram : Datum := .text "Acoustic Guitar(nylon)"
def defaultKit : Datum := .whole 0
def defaultTuning : Datum := .text "E2 A2 D3 G3 B3 E4"

def defaultDrums : Datum :=
  .list [.text "Acoustic Bass Drum", .text "Crash Cymbal 1", .text "Pedal Hi-Hat",
    .text "Closed Hi-Hat"]

/-! ## §2. Reading settings. -/

/-- A value between two bounds, both included. -/
def between (low high value : Quantity) : Bool := low.le value && value.le high

/-- A setting as it is given, or its default. -/
def settingOr (settings : Options) (key : Text) (default : Datum) : Datum :=
  (settings.get? key).getD default

/-- A setting that is given and not missing. -/
def given? (settings : Options) (key : Text) : Option Datum :=
  match settings.get? key with
  | none | some .null => none
  | some d => some d

/-- A numeric setting, or its default. -/
def numberOr (settings : Options) (key : Text) (default : Quantity) : Except Fault Quantity :=
  (settingOr settings key (.number default)).asNumber

/-- Whether an instrument is percussion: it says so, or it is on the percussion channel. -/
def percussionOf (settings : Options) : Datum :=
  if (settingOr settings "channel" .null).sameKey (.number percussionChannel) then .truth true
  else settingOr settings "percussion" (.truth false)

/-- Fill in what is open and check all bounds. -/
def ofSettings (settings : Options) : Except Fault Config := do
  let percussion := percussionOf settings
  let drums := !percussion.isNothing
  let channel := (given? settings "channel").getD
    (.number (if drums then percussionChannel else .whole 0))
  let name := (given? settings "name").getD
    (if drums then .text "Percussion" else .text "Guitar")
  let instrument := (given? settings "instrument").getD
    (if drums then defaultKit else defaultProgram)
  let strings := (given? settings "strings").getD (if drums then defaultDrums else defaultTuning)
  let signature ← Signature.read
    (← (settingOr settings "signature" (.text defaultSignature)).asText)
  -- From here on the bounds are checked in this order, so that the first fault is settled.
  let bpm ← numberOr settings "bpm" (.whole defaultBpm)
  if bpm.le (.whole 0) then throw (.bpmNotPositive bpm)
  let channel ← channel.asNumber
  if !between (.whole 0) lastChannel channel then throw (.channelOutOfRange channel)
  let volume ← numberOr settings "volume" (.float (.ofInt 1))
  if !between (.whole 0) maxVolume volume then throw (.volumeOutOfRange volume)
  let timeSpread ← numberOr settings "rtime" (.whole 0)
  if !between (.whole 0) maxTimeSpread timeSpread then throw (.timeSpreadOutOfRange timeSpread)
  let volumeSpread ← numberOr settings "rvol" (.whole 0)
  if !between (.whole 0) maxVolumeSpread volumeSpread then
    throw (.volumeSpreadOutOfRange volumeSpread)
  let lead ← (given? settings "lead").mapM Datum.asNumber
  match lead with
  | some beats => if beats.lt (.whole 0) then throw (.negativeLead beats)
  | none => pure ()
  let ticks ← numberOr settings "ticks" (.whole defaultTicks)
  if ticks.le (.whole 0) then throw (.resolutionNotPositive ticks)
  return {
    name, signature, bpm, instrument, strings, volume, timeSpread, volumeSpread, lead, channel,
    percussion, ticks
    metronome := settingOr settings "metronome" (.truth true)
    midi := settingOr settings "midi" .null
    seed := settingOr settings "seed" .null
    attribution := settingOr settings "attribution" (.truth true) }

/-- The configuration that options describe. -/
def ofOptions (options : Options) : Except Fault Config := do
  ofSettings (← options.canonical)

/-- Whether an instrument with these settings is percussion. -/
def isPercussion (c : Config) : Bool := !c.percussion.isNothing

/-- The ticks of one measure. -/
def ticksPerMeasure (c : Config) : Except Fault Quantity :=
  (Quantity.whole c.signature.beats).mul c.ticks

end Config
end Plectrum
