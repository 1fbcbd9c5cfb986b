/-
  Plectrum.Midi.File
  ──────────────────
  **The bytes of a Standard MIDI File.**

  A file is a header chunk and one chunk for each track.  A message is its delta time
  as a variable-length quantity, then its bytes; a channel message repeats no status
  byte that the message before had, and every meta message ends that run.  A track
  chunk is written when it is complete, so a track that fails leaves the chunks
  before it.
-/
import Plectrum.Bytes
import Plectrum.Midi.Track

namespace Plectrum.MidiFile

open Bytes (bigEndian)

/-! ## §1. Numbers and texts. -/

/-- The leading bytes of a variable-length quantity, seven bits each, marked as not last. -/
def leadingBytes (n : Nat) : List UInt8 :=
  if n = 0 then [] else leadingBytes (n / 128) ++ [UInt8.ofNat (128 + n % 128)]
termination_by n

/-- A variable-length quantity: seven bits a byte, the most significant first. -/
def variableLength (n : Nat) : List UInt8 :=
  leadingBytes (n / 128) ++ [UInt8.ofNat (n % 128)]

/-- The bytes of the letters of a text, one each. -/
def latinBytes (t : Text) : Except Fault (List UInt8) :=
  let fits := fun (l : Letter) => l.code < 256
  match t.dropWhile fits with
  | [] => .ok (t.map fun l => UInt8.ofNat l.code)
  | rest => .error (.unencodable (rest.takeWhile (!fits ·)) (t.takeWhile fits).length)

/-- The bytes of a delta time: a whole number that is not negative. -/
def deltaBytes (delta : Quantity) : Except Fault (List UInt8) :=
  match delta.integer? with
  | some n => if n < 0 then .error .timeNegative else .ok (variableLength n.toNat)
  | none => .error .timeNotWhole

/-! ## §2. Messages. -/

/-- The ticks of MIDI clock between two metronome clicks. -/
def clocksPerClick : Nat := 24

/-- The notated 32nd notes of a quarter note. -/
def notesPerQuarter : Nat := 8

/-- A meta message of a type with its data. -/
def metaBytes (type : UInt8) (payload : List UInt8) : List UInt8 :=
  [0xFF, type] ++ variableLength payload.length ++ payload

/-- The bytes of a message, without its delta time. -/
inductive Encoded where
  | channel (status : UInt8) (values : List UInt8)
  | metaEvent (bytes : List UInt8)
  deriving Repr, DecidableEq

/-- A byte for a number that fits one. -/
def byte (n : Int) : UInt8 := UInt8.ofNat n.toNat

/-- A byte for a value that fits one. -/
def byteOf (d : Datum) : Except Fault UInt8 := do return byte (← Message.integer d)

/-- A channel message: its kind and channel in one byte, then its values. -/
def channelMessage (kind : Int) (channel : Datum) (values : List Datum) :
    Except Fault Encoded := do
  return .channel (byte (kind + (← Message.integer channel))) (← values.mapM byteOf)

/-- A meta message that holds a text. -/
def textMessage (type : UInt8) (d : Datum) : Except Fault Encoded := do
  return .metaEvent (metaBytes type (← latinBytes d.shown))

/-- Encode a happening. -/
def encode : Happening → Except Fault Encoded
  | .noteOn channel pitch velocity => channelMessage 0x90 channel [pitch, velocity]
  | .noteOff channel pitch velocity => channelMessage 0x80 channel [pitch, velocity]
  | .programChange channel program => channelMessage 0xC0 channel [program]
  | .setTempo microseconds => do
    return .metaEvent (metaBytes 0x51 (bigEndian 3 (← Message.integer microseconds).toNat))
  | .timeSignature signature => do
    let (numerator, denominator) ← Message.signatureParts signature
    let power := (Message.denominatorPower? (← Message.integer denominator)).getD 0
    return .metaEvent (metaBytes 0x58
      [← byteOf numerator, byte power, byte clocksPerClick, byte notesPerQuarter])
  | .trackName name => textMessage 0x03 name
  | .text content => textMessage 0x01 content
  | .unknown kind => .error (.unknownEventKind kind)

/-- The bytes of an encoded message after one with status `running`, and the status after it. -/
def Encoded.bytes (running : Option UInt8) : Encoded → List UInt8 × Option UInt8
  | .channel status values =>
    -- Running status: an equal status byte is left out.
    if running = some status then (values, running) else (status :: values, some status)
  | .metaEvent bytes => (bytes, none)

/-! ## §3. Chunks. -/

/-- The end of every track. -/
def endOfTrack : List UInt8 := [0x00, 0xFF, 0x2F, 0x00]

/-- The bytes of the messages of a track, with the end of the track. -/
def trackBytes : Option UInt8 → Track → Except Fault (List UInt8)
  | _, [] => .ok endOfTrack
  | running, message :: messages => do
    let delta ← deltaBytes message.delta
    let (bytes, running) := (← encode message.what).bytes running
    return delta ++ bytes ++ (← trackBytes running messages)

/-- The four letters of a header chunk, MThd. -/
def headerName : List UInt8 := [0x4D, 0x54, 0x68, 0x64]

/-- The four letters of a track chunk, MTrk. -/
def trackName : List UInt8 := [0x4D, 0x54, 0x72, 0x6B]

/-- A chunk: its four letters, the length, and the content. -/
def chunk (name content : List UInt8) : List UInt8 :=
  name ++ bigEndian 4 content.length ++ content

/-- The first number that eight signed bytes do not hold. -/
def longLimit : Int := twoTo 63

/-- The ticks of a beat as a header holds them. -/
def resolution (ticksPerBeat : Quantity) : Except Fault Int :=
  match ticksPerBeat.integer? with
  | some ticks =>
    if longLimit ≤ ticks ∨ ticks < -longLimit then .error .resolutionTooLarge
    else if ticks < -32768 ∨ 32767 < ticks then .error .resolutionRange
    else .ok ticks
  | none => .error .resolutionNotWhole

/-- The header: several tracks that sound together, how many, and the ticks of a beat. -/
def header (song : Song) : Except Fault (List UInt8) :=
  -- The count of the tracks comes before the ticks.
  if 32767 < song.tracks.length then .error .tooManyTracks
  else do
    let ticks ← resolution song.ticksPerBeat
    return chunk headerName (bigEndian 2 1 ++ bigEndian 2 song.tracks.length
      ++ bigEndian 2 (ticks % 65536).toNat)

/-- The first length that four bytes do not hold. -/
def lengthLimit : Nat := twoTo 32

/-- The chunks of tracks up to the first that fails, and its fault.  The name of a chunk is
written before its length is. -/
def chunks : List Track → List UInt8 × Option Fault
  | [] => ([], none)
  | track :: tracks =>
    match trackBytes none track with
    | .error f => ([], some f)
    | .ok content =>
      if lengthLimit ≤ content.length then (trackName, some .trackTooLong)
      else
        let (rest, fault) := chunks tracks
        (chunk trackName content ++ rest, fault)

/-- The bytes of a file as far as they are written, and the fault that ended the writing. -/
def write (song : Song) : List UInt8 × Option Fault :=
  match header song with
  | .error f => ([], some f)
  | .ok head =>
    let (rest, fault) := chunks song.tracks
    (head ++ rest, fault)

example : variableLength 0x0FFFFFFF = [0xFF, 0xFF, 0xFF, 0x7F] := by decide +kernel

end Plectrum.MidiFile
