/-
  Plectrum.Config.Options
  ───────────────────────
  **Options as they are written: keys with values.**

  Each setting of an instrument has a name, and some have other spellings.  Options
  are collected under the names of the settings; an unknown key and a setting given
  twice are refused, whatever the values.
-/
import Plectrum.Fault

namespace Plectrum

/-- Keys with values, in the order they were written. -/
abbrev Options := List (Text × Datum)

namespace Options

/-- The settings of an instrument. -/
def settings : List Text :=
  ["name", "signature", "bpm", "instrument", "strings", "volume", "rtime", "rvol", "lead",
   "metronome", "midi", "channel", "percussion", "seed", "ticks", "attribution"]

/-- Other spellings of settings. -/
def aliases : List (Text × Text) :=
  [("sig", "signature"), ("tempo", "bpm"), ("instr", "instrument"), ("kit", "instrument"),
   ("instruments", "strings"), ("chan", "channel"), ("file", "midi")]

/-- The setting that a key spells. -/
def settingOf (key : Text) : Text := (aliases.lookup key).getD key

/-- The value at a key, if it is there. -/
def get? (options : Options) (key : Text) : Option Datum := options.lookup key

/-- Whether a key is there. -/
def has (options : Options) (key : Text) : Bool := (options.lookup key).isSome

/-- Set a key: an old key keeps its place, a new one goes to the end. -/
def set (options : Options) (key : Text) (value : Datum) : Options :=
  match options with
  | [] => [(key, value)]
  | (k, v) :: rest => if k == key then (k, value) :: rest else (k, v) :: set rest key value

/-- Set a key unless it is there. -/
def setDefault (options : Options) (key : Text) (value : Datum) : Options :=
  if options.has key then options else options ++ [(key, value)]

/-- One entry for each key: the last value at the first place. -/
def ofPairs (pairs : List (Text × Datum)) : Options :=
  pairs.foldl (fun options (key, value) => set options key value) []

/-- Collect options under the names of their settings. -/
def collect : Options → Options → Except Fault Options
  | collected, [] => .ok collected
  | collected, (key, value) :: rest =>
    let setting := settingOf key
    -- Two spellings of one setting count as the setting given twice.
    if setting ∉ settings then .error (.unknownOption key)
    else if has collected setting then .error (.repeatedOption key setting)
    else collect (collected ++ [(setting, value)]) rest

/-- The options under the names of their settings. -/
def canonical (options : Options) : Except Fault Options := collect [] options

end Options
end Plectrum
