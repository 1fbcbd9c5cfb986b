/-
  Plectrum.Tab.Strike
  ───────────────────
  **From a tab digit to a note.**

  On a melodic instrument a digit is a fret and every strike has one velocity; on
  drums it is the force of the hit, nine being the full one, and the pitch is always
  the drum's own.
-/
import Plectrum.Datum.Arithmetic

namespace Plectrum

/-- How an instrument reads the digits of its tabs. -/
inductive TabStyle where
  | frets
  | hits
  deriving Repr, DecidableEq

namespace TabStyle

/-- Percussion reads hits. -/
def ofPercussion (percussion : Bool) : TabStyle := if percussion then .hits else .frets

/-- The velocity of every fretted strike. -/
def fretVelocity : Int := 80

/-- The velocity of the hardest hit. -/
def hitVelocity : Quantity := .whole 100

/-- The digit of the hardest hit. -/
def hitSteps : Quantity := .whole 9

/-- A fretted strike ends the note on its string; a hit ends by itself. -/
def closesSounding : TabStyle → Bool
  | .frets => true
  | .hits => false

/-- Fretted tabs need measures of one width. -/
def uniformTabs : TabStyle → Bool
  | .frets => true
  | .hits => false

/-- The velocity of a hit, its fraction dropped. -/
def hitForce (digit : Quantity) : Except Fault Int := do
  (← (← hitVelocity.mul digit).div hitSteps).truncated

/-- Pitch and velocity of a digit on a string or drum with the given root. -/
def strike (style : TabStyle) (root digit : Quantity) : Except Fault (Quantity × Int) :=
  match style with
  | .frets => do return (← root.add digit, fretVelocity)
  | .hits => do return (root, ← hitForce digit)

/-- Pitch and velocity where root and digit are data of any kind. -/
def strikeOf (style : TabStyle) (root digit : Datum) : Except Fault (Datum × Int) :=
  match style with
  | .frets => do return (← root.plus digit, fretVelocity)
  | .hits => do return (root, ← hitForce (← digit.asNumber))

end TabStyle
end Plectrum
