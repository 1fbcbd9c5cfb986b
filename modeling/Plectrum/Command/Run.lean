/-
  Plectrum.Command.Run
  ────────────────────
  **The command: from a score in a folder to a song in a folder.**

  The command loads a score, renders it, and saves the song: into the file that is
  asked for, or the one that the instrument names, or one beside the score.  Mistakes
  in the music are reported and end the command with code one; other faults leave it.
-/
import Plectrum.Command.Usage
import Plectrum.Document.Load
import Plectrum.Score.Render

namespace Plectrum.Command

/-! ## §1. The file to save. -/

/-- The ending of song files. -/
def songEnding : Text := ".mid"

/-- A path without what follows its last point; a path without a point stays as it is. -/
def withoutEnding (path : Text) : Text :=
  match path.reverse.dropWhile (· != .char '.') with
  | [] => path
  | _ :: front => front.reverse

/-- The path of the song that goes with a score. -/
def songPath (score : Text) : Text := withoutEnding score ++ songEnding

/-- Whether the instrument of a score names a file. -/
def namesFile (score : Datum) : Except Fault Bool := do
  let instrument ← score.fieldOr "instrument" (.mapping [])
  -- Only this spelling of the setting is looked at.
  let file := (Datum.lookup? (.text "midi") (← instrument.entries)).getD .null
  return !file.isNothing

/-- The file to save; missing when it is left to the instrument. -/
def outputFile (arguments : Arguments) (score : Datum) : Except Fault Datum := do
  match arguments.output with
  | .null => return if ← namesFile score then .null else .text (songPath arguments.score)
  | file => return file

/-! ## §2. Running. -/

variable [Document.Format]

/-- Load and render a score. -/
def perform {γ : Type} [ChanceSource γ] (chanceOf : Option Nat → γ) (arguments : Arguments) :
    Act Folder Unit := do
  let score ← Document.load arguments.score
  let output ← outputFile arguments score
  let _ ← Score.render chanceOf score output arguments.seed

/-- How the command ends. -/
inductive Ending where
  | code (n : Nat)
  | fault (f : Fault)

/-- What the command leaves behind. -/
structure Outcome where
  ending : Ending
  /-- The lines it prints. -/
  output : List Text
  /-- The lines it reports. -/
  reports : List Text
  folder : Folder

/-- The name of the part that speaks; `self` is the name of the command itself. -/
def speakerName (self : Text) : Speaker → Text
  | .pattern => "strumline.pattern"
  | .ramp => "strumline.ramp"
  | .config => "strumline.config"
  | .instrument => "strumline.instrument"
  | .midiFile => "strumline.midi_file"
  | .command => self

/-- An entry of the journal as a line. -/
def reportLine (self : Text) (e : Entry) : Text :=
  e.level.label ++ ":" ++ speakerName self e.speaker ++ ":" ++ e.text

/-- The entries that are shown. -/
def reports (self : Text) (verbose : Bool) (journal : Journal) : List Text :=
  let least := if verbose then Level.debug else Level.info
  (journal.toList.filter fun e => least.rank ≤ e.level.rank).map (reportLine self)

/-- Run the command on a score.  Mistakes in the music are the last entry of the journal. -/
def runScore {γ : Type} [ChanceSource γ] (chanceOf : Option Nat → γ) (self : Text)
    (arguments : Arguments) (folder : Folder) : Outcome :=
  let (result, desk) := (perform chanceOf arguments).start ⟨folder, #[]⟩
  let shown := reports self arguments.verbose
  match result with
  | .ok () => ⟨.code 0, [], shown desk.journal, desk.state⟩
  | .error f =>
    -- Faults of other families are not the musician's and leave the command.
    if f.kind.isMusical then
      ⟨.code 1, [], shown (desk.journal.push ⟨.error, .command, f.message⟩), desk.state⟩
    else ⟨.fault f, [], shown desk.journal, desk.state⟩

/-- Run the command with the words of its command line. -/
def run {γ : Type} [ChanceSource γ] (chanceOf : Option Nat → γ) (self : Text)
    (args : List Text) (folder : Folder) : Outcome :=
  match read args with
  | .help => ⟨.code 0, helpLines, [], folder⟩
  | .misuse m => ⟨.code 2, [], m.lines, folder⟩
  | .run arguments => runScore chanceOf self arguments folder

example : songPath "a.b.yaml" = "a.b.mid" ∧ songPath "score" = "score.mid" := by decide +kernel

end Plectrum.Command
