/-
  Plectrum.Voice.Basic
  ────────────────────
  **A voice: tuned strings, what they sound, and where in time it is.**

  A voice is one playable instrument, melodic or percussion.  It keeps a clock in
  ticks, the note that sounds on each string, and the timeline of everything played
  so far.  Strings go on sounding until they are struck again, muted, or closed when
  the piece is finished.
-/
import Plectrum.Config.Basic
import Plectrum.Dynamics.Playing
import Plectrum.GeneralMidi.Pitch
import Plectrum.Midi.Event
import Plectrum.Tab.Strike
import Plectrum.Chance.Source

namespace Plectrum

/-! ## §1. State. -/

/-- The most recent strike. -/
structure LastStrike where
  /-- Its time as written. -/
  nominal : Quantity
  /-- Its time as played. -/
  tick : Int
  deriving Repr

/-- The program of a voice, and its strings. -/
structure Tuning where
  /-- The program or drum kit. -/
  patch : Int
  /-- The pitch of each open string, lowest first. -/
  roots : List Quantity
  deriving Repr

/-- The tuning that settings ask for: the program is resolved first, then the strings. -/
def Tuning.ofConfig (config : Config) : Except Fault Tuning := do
  -- A wrong program is reported before a wrong string.
  let patch ← GeneralMidi.program config.instrument
  return ⟨patch, ← GeneralMidi.rootsOf config.isPercussion config.strings⟩

/-- One playable instrument. -/
structure Voice where
  config : Config
  tuning : Tuning
  /-- The ticks of one measure. -/
  measure : Quantity
  dynamics : Dynamics Datum
  /-- The pitch that sounds on each string, lowest first. -/
  sounding : List (Option Quantity)
  /-- Where the next measure begins. -/
  clock : Quantity
  /-- The silent ticks at the end so far, which the metronome leaves out. -/
  skip : Quantity
  lastStrike : LastStrike
  events : Array Event
  auxiliary : Bool
  finished : Bool
  deriving Repr

namespace Voice

/-- The pitch of each open string, lowest first. -/
def roots (v : Voice) : List Quantity := v.tuning.roots

/-- The program or drum kit. -/
def patch (v : Voice) : Int := v.tuning.patch

/-- The number of strings or drums. -/
def stringCount (v : Voice) : Nat := v.roots.length

/-- The channel, as events hold it. -/
def channel (v : Voice) : Datum := .number v.config.channel

def name (v : Voice) : Datum := v.config.name

/-- The beats of one measure. -/
def beats (v : Voice) : Nat := v.config.signature.beats

/-- How the digits of a tab are read. -/
def tabStyle (v : Voice) : TabStyle := .ofPercussion v.config.isPercussion

/-- The clock at the end of the lead-in. -/
def leadIn (config : Config) : Except Fault Quantity :=
  match config.lead with
  | none => .ok (.whole 0)
  | some beats =>
    if beats.isZero then .ok (.whole 0)
    else do (Quantity.whole 0).add (← beats.mul config.ticks)

/-- A new voice with a tuning. -/
def create (config : Config) (tuning : Tuning) (auxiliary : Bool) : Except Fault Voice := do
  let dynamics ← Dynamics.start (Datum.number config.bpm) (.number config.volume)
  let measure ← config.ticksPerMeasure
  let clock ← leadIn config
  return {
    config, tuning, measure, dynamics, clock, auxiliary
    sounding := List.replicate tuning.roots.length none
    skip := .whole 0
    lastStrike := ⟨.whole 0, 0⟩
    events := #[]
    finished := false }

/-- What a new voice reports. -/
def greeting (v : Voice) : Wording :=
  [.shown v.name, ": ", v.stringCount, " strings, ", v.config.signature.written, " at ",
   v.config.bpm, " BPM, channel ", .shown v.channel, ", patch ", v.patch]

/-- Report a new voice.  A setting that cannot be written keeps the voice from coming to be. -/
def greet {σ : Type} (v : Voice) : Act σ Unit := Act.report .info .instrument v.greeting

end Voice

/-! ## §2. Acts on a voice. -/

/-- A voice with the source of chance it draws from.  What is given in place of a source
draws nothing. -/
structure Player (γ : Type) where
  voice : Voice
  chance : Option γ

/-- A step of playing one voice. -/
abbrev Play (γ α : Type) := Act (Player γ) α

namespace Play

variable {γ α : Type}

/-- The voice as it is now. -/
def voice : Play γ Voice := do return (← Act.state).voice

/-- Change the voice. -/
def changeVoice (f : Voice → Voice) : Play γ Unit :=
  Act.update fun p => { p with voice := f p.voice }

/-- A finished voice plays nothing more. -/
def requireOpen : Play γ Unit := do
  let v ← voice
  if v.finished then throw (.alreadyFinished v.name)

/-- Run an act on the volume and tempo of the voice. -/
def onDynamics (act : Act (Dynamics Datum) α) : Play γ α :=
  Act.onPart (·.voice.dynamics)
    (fun d p => { p with voice := { p.voice with dynamics := d } }) act

/-- Draw from the source of chance. -/
def draw [ChanceSource γ] (bound : Quantity) : Play γ Binary64 :=
  Act.ofStart fun desk =>
    match desk.state.chance with
    | none => (.error .lacksOperation, desk)
    | some source =>
      let (x, source) := ChanceSource.spread bound.nearestFloat source
      (.ok x, { desk with state := { desk.state with chance := some source } })

end Play
end Plectrum
