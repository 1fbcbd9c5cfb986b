/-
  Plectrum.Command.Usage
  ──────────────────────
  **What the command says about itself.**

  The usage line, the help, and the messages for a command line that cannot be read.
-/
import Plectrum.Command.Arguments

namespace Plectrum.Command

/-- The name of the command. -/
def name : Text := "strumline"

/-- How the command is called. -/
def usageLine : Text := "usage: " ++ name ++ " [-h] [-o OUTPUT] [-s SEED] [-v] score"

/-- The lines of the help. -/
def helpLines : List Text :=
  [usageLine,
   "",
   "Render a strumline YAML score to a MIDI file.",
   "",
   "positional arguments:",
   "  score                 YAML score file",
   "",
   "options:",
   "  -h, --help            show this help message and exit",
   "  -o OUTPUT, --output OUTPUT",
   "                        MIDI file to write (default: the score's",
   "                        instrument.midi, or the score name with .mid)",
   "  -s SEED, --seed SEED  seed for time and velocity randomization",
   "  -v, --verbose         log every measure"]

namespace Misuse

/-- What is wrong with an argument of a switch. -/
def aboutSwitch (s : Switch) (text : Text) : Text := "argument " ++ s.title ++ ": " ++ text

/-- The message for a mistake. -/
def message : Misuse → Text
  | .ambiguous word matching =>
    "ambiguous option: " ++ word ++ " could match " ++ Text.joined ", " matching
  | .noValue s => aboutSwitch s "expected one argument"
  | .unwantedValue s text =>
    aboutSwitch s ("ignored explicit argument " ++ Text.quoted text)
  | .badSeed text => aboutSwitch .seed ("invalid int value: " ++ Text.quoted text)
  | .scoreMissing => "the following arguments are required: score"
  | .unrecognized words => "unrecognized arguments: " ++ Text.joined " " words

/-- The lines for a mistake. -/
def lines (m : Misuse) : List Text := [usageLine, name ++ ": error: " ++ m.message]

end Misuse

end Plectrum.Command
