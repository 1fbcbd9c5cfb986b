/-
  Plectrum.Journal
  ────────────────
  **What a performance reports while it goes on.**

  An entry has a level, a part that speaks, and a text.  A reader chooses the
  entries by level.
-/
import Plectrum.Text.Letter

namespace Plectrum

/-- How much an entry matters. -/
inductive Level where
  | debug
  | info
  | warning
  | error
  deriving Repr, DecidableEq

namespace Level

/-- The level as it is shown. -/
def label : Level → Text
  | .debug => "DEBUG"
  | .info => "INFO"
  | .warning => "WARNING"
  | .error => "ERROR"

def rank : Level → Nat
  | .debug => 0
  | .info => 1
  | .warning => 2
  | .error => 3

end Level

/-- The part that speaks. -/
inductive Speaker where
  | pattern
  | ramp
  | config
  | instrument
  | midiFile
  | command
  deriving Repr, DecidableEq

/-- One entry of the journal. -/
structure Entry where
  level : Level
  speaker : Speaker
  text : Text
  deriving Repr, DecidableEq

/-- The entries so far, in order. -/
abbrev Journal := Array Entry

end Plectrum
