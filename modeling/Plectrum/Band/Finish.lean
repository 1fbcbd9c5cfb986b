/-
  Plectrum.Band.Finish
  ────────────────────
  **Finishing: the song is built, all voices are closed, the file is saved.**

  All tracks are built before anything is closed, so music that cannot be put in
  order leaves every voice as it was.  Finishing a second time does nothing.
-/
import Plectrum.Band.Song
import Plectrum.Midi.File

namespace Plectrum

/-- A voice after the end: nothing sounds, and no events are kept. -/
def Voice.close (v : Voice) : Voice :=
  { v with sounding := v.sounding.map fun _ => none, events := #[], finished := true }

/-- A band after the end. -/
def Band.close {γ : Type} (band : Band γ) : Band γ :=
  { band with master := band.master.close, auxiliaries := band.auxiliaries.map Voice.close }

namespace Perform

variable {γ : Type}

/-- Save the bytes of a song at a path, or as many of them as could be written.  `file` is how
the path is given. -/
def save (song : Song) (file : Datum) (path : Text) : Perform γ Unit := do
  let (bytes, failure) := MidiFile.write song
  match (← Act.state).folder.save path bytes with
  | .error f =>
    if f.kind.isFile then
      Act.report .error .midiFile ["Failed to save MIDI file ", .shown file, ": ", f.message]
    throw f
  | .ok folder =>
    -- What could be written is in the folder before a failure ends the act.
    Act.update fun band => { band with folder }
    match failure with
    | some f => throw f
    | none => Act.report .info .midiFile ["Saved ", .shown file]

/-- The first number that four signed bytes do not hold. -/
def descriptorLimit : Int := twoTo 31

/-- Save where a number points to.  Numbers of a size that open files have point to no
file that is open. -/
def saveToNumber (n : Int) : Perform γ Unit := do
  if descriptorLimit ≤ n ∨ n < -descriptorLimit then throw .wrongKind
  if n < 0 then throw .negativeDescriptor
  Act.report .error .midiFile
    ["Failed to save MIDI file ", n, ": ", Fault.badDescriptor.message]
  throw .badDescriptor

/-- Save a song where a datum points to. -/
def saveTo (song : Song) (file : Datum) : Perform γ Unit :=
  match file with
  | .text path => save song file path
  | .bytes bs => save song file (Text.ofBytes bs)
  | file =>
    match file.int? with
    | some n => saveToNumber n
    | none => throw .wrongKind

/-- The file to save: the one asked for, or the configured one; one that is nothing does
not count. -/
def chosenFile (asked configured : Datum) : Datum := if asked.isNothing then configured else asked

/-- Whether the song names its maker: as asked for, or as configured. -/
def namesMaker (asked configured : Datum) : Bool :=
  match asked with
  | .null => !configured.isNothing
  | asked => !asked.isNothing

/-- Finish the band.  The song is none when the band was finished before. -/
def finish (part : Part) (midi attribution : Datum) : Perform γ (Option Song) := do
  let v ← voice part
  if v.auxiliary then throw .finishOfAuxiliary
  if v.finished then
    Act.report .debug .midiFile [.shown v.name, ": already finished"]
    return none
  let song ← (← Act.state).song (namesMaker attribution v.config.attribution)
  -- The song is complete, so the band is closed even if saving fails.
  Act.update Band.close
  Act.report .info .midiFile
    [.shown v.name, ": finished with ", song.tracks.length, " tracks, ", v.clock, " ticks"]
  let file := chosenFile midi v.config.midi
  if !file.isNothing then saveTo song file
  return some song

/-- Leave a block of music that went well: a master is finished then. -/
def leave (part : Part) : Perform γ Unit := do
  if !(← voice part).auxiliary then
    let _ ← finish part .null .null

end Perform
end Plectrum
