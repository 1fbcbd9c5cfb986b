/-
  Plectrum.Main
  ─────────────
  **The command line.**

  Everything is decided by `Command.run` on a value of type `Folder`.  This module
  looks up the files and folders that a call may touch, runs the command, prints what
  it says, and writes the files that have changed.
-/
import Plectrum.Chance.Twister
import Plectrum.Command.Run

open Plectrum

/-- A text as it is printed; a surrogate that stands alone is shown by its code. -/
def printed (t : Text) : String :=
  String.ofList (t.flatMap fun l =>
    match l with
    | .char c => [c]
    | l => Text.codeEscape l)

/-- The path of a place. -/
def pathOf (place : Place) : String :=
  "/".intercalate (place.map fun name => printed (Text.ofBytes name))

/-- Add a folder if it is there. -/
def lookAtFolder (folder : Folder) (place : Place) : IO Folder := do
  if ← (System.mkFilePath [pathOf place]).isDir then
    return { folder with folders := place :: folder.folders }
  else return folder

/-- Add the file at a path and the folders on the way to it, as far as they are there. -/
def lookAt (folder : Folder) (path : Text) : IO Folder := do
  let place := Folder.placeOf path
  let folder ← (List.range (place.length + 1)).foldlM
    (fun folder depth => lookAtFolder folder (place.take depth)) folder
  try
    let bytes ← IO.FS.readBinFile (pathOf place)
    return folder.put place bytes.toList
  catch _ => return folder

/-- The paths that a call may save a song to. -/
def savePaths (arguments : Command.Arguments) (folder : Folder) : List Text :=
  let score := ((Document.load arguments.score).start ⟨folder, #[]⟩).1.toOption.getD .null
  let instrument := (score.field? "instrument").getD .null
  let named := ["midi", "file"].filterMap fun (key : String) =>
    (instrument.field? key).bind (·.text?)
  arguments.output.text?.toList ++ Command.songPath arguments.score :: named

/-- The part of the file system that a call may touch. -/
def surroundings (args : List Text) : IO Folder := do
  match Command.read args with
  | .run arguments =>
    let folder ← lookAt default arguments.score
    (savePaths arguments folder).foldlM lookAt folder
  | _ => return default

/-- Write the files that differ from what was there before. -/
def writeChanges (before after : Folder) : IO Unit :=
  after.files.forM fun (place, bytes) => do
    if before.fileAt? place != some bytes then
      IO.FS.writeBinFile (pathOf place) ⟨bytes.toArray⟩

/-- A source of chance: from the seed, or from the clock when there is none. -/
def twister (clock : Nat) (seed : Option Nat) : Twister := .ofSeed (seed.getD clock)

def main (args : List String) : IO UInt32 := do
  let args := args.map Text.ofString
  let folder ← surroundings args
  let clock ← IO.monoNanosNow
  let outcome := Command.run (twister clock) "strumline.__main__" args folder
  outcome.reports.forM fun line => IO.eprintln (printed line)
  outcome.output.forM fun line => IO.println (printed line)
  writeChanges folder outcome.folder
  match outcome.ending with
  | .code n => return UInt32.ofNat n
  | .fault f =>
    IO.eprintln (printed (Command.name ++ ": " ++ f.message))
    return 1
