/-
  Plectrum.Midi.Track
  ───────────────────
  **Messages, tracks and songs.**

  A message is a happening whose values fit the format, with the ticks since the
  message before.  A track is the messages of a list of events; all ticks are settled
  before the first value is checked.  A song is tracks under one tick resolution.
-/
import Plectrum.Binary64.Logarithm
import Plectrum.Datum.Reading
import Plectrum.Midi.Event

namespace Plectrum

/-! ## §1. Bounds. -/

/-- A message of a track. -/
structure Message where
  /-- The ticks since the message before. -/
  delta : Quantity
  what : Happening
  deriving Repr

namespace Message

/-- The whole number that a value has to be. -/
def integer (d : Datum) : Except Fault Int :=
  match d.int? with
  | some n => .ok n
  | none => .error .wrongKind

def checkChannel (channel : Datum) : Except Fault Unit := do
  let n ← integer channel
  if 0 ≤ n ∧ n ≤ 15 then return () else throw .channelByte

def checkData (value : Datum) : Except Fault Unit := do
  let n ← integer value
  if 0 ≤ n ∧ n ≤ 127 then return () else throw .dataByte

def checkAttribute (low high : Nat) (value : Datum) : Except Fault Unit := do
  let n ← integer value
  if (low : Int) ≤ n ∧ n ≤ high then return () else throw (.attributeRange low high)

def checkText (d : Datum) : Except Fault Unit :=
  match d with
  | .text _ => .ok ()
  | _ => .error .wrongKind

/-- The longest tempo that three bytes hold. -/
def maxTempo : Nat := twoTo 24 - 1

/-- The largest denominator of a time signature. -/
def maxDenominator : Nat := twoTo 255

/-- The power of two that a denominator is.  It is the quotient of two logarithms in
doubles, when that is a whole number; a few powers of two miss it, and large numbers
beside a power of two meet it. -/
def denominatorPower? (denominator : Int) : Option Nat :=
  match (Binary64.ln (.ofInt denominator)).div (.ln (.ofInt 2)) with
  | .finite _ units =>
    if units % Binary64.unitsPerOne = 0 then some (units / Binary64.unitsPerOne) else none
  | _ => none

/-- The two numbers of a time signature. -/
def signatureParts (signature : Datum) : Except Fault (Datum × Datum) := do
  match ← signature.elements with
  | [numerator, denominator] => return (numerator, denominator)
  | parts => throw (.signatureSize parts.length)

/-- Whether a value is a denominator.  Its range comes before the question whether it is
a power of two. -/
def checkDenominator (denominator : Datum) : Except Fault Unit := do
  checkAttribute 1 maxDenominator denominator
  if (denominatorPower? (← integer denominator)).isNone then throw .denominatorNotPower

/-- Whether a delta is a number, of whatever kind. -/
def checkDelta (delta : Datum) : Except Fault Unit := do
  let _ ← delta.asNumber

/-- Whether the values of a message fit the format.  The delta of a channel message comes
first, then its channel; that of other messages comes last. -/
def check (delta : Datum) : Happening → Except Fault Unit
  | .noteOn channel pitch velocity | .noteOff channel pitch velocity => do
    checkDelta delta
    checkChannel channel
    checkData pitch
    checkData velocity
  | .programChange channel program => do
    checkDelta delta
    checkChannel channel
    checkData program
  | .setTempo microseconds => do
    checkAttribute 0 maxTempo microseconds
    checkDelta delta
  | .timeSignature signature => do
    let (numerator, denominator) ← signatureParts signature
    checkAttribute 0 255 numerator
    checkDenominator denominator
    checkDelta delta
  | .trackName d | .text d => do
    checkText d
    checkDelta delta
  | .unknown kind => .error (.unknownEventKind kind)

/-- The message of an event. -/
def ofEvent (delta : Datum) (event : Event) : Except Fault Message := do
  check delta event.what
  return ⟨← delta.asNumber, event.what⟩

end Message

/-! ## §2. Tracks. -/

/-- The messages of one track. -/
abbrev Track := List Message

/-- The track of events in absolute time. -/
def Track.ofEvents (events : List Event) : Except Fault Track := do
  (← Timeline.deltas events).mapM fun (delta, event) => Message.ofEvent (.number delta) event

/-- Tracks that sound together. -/
structure Song where
  ticksPerBeat : Quantity
  tracks : List Track
  deriving Repr

end Plectrum
