/-
  Plectrum.Pattern.Basic
  ──────────────────────
  **Patterns: what is struck, and when, within a measure.**

  A pattern is a list of groups.  A group holds the strokes that happen together
  at one beat offset, counted from one at the downbeat.  Groups keep the order
  they were written in; a pattern knows nothing of tunings, chords or time.
-/
import Plectrum.Rounding

namespace Plectrum

/-- One string, numbered from the highest, struck with a velocity; velocity zero mutes it. -/
structure Stroke where
  string : Nat
  velocity : Nat
  deriving Repr, DecidableEq

/-- Strokes at one beat offset. -/
structure Group where
  offset : Rat
  strokes : List Stroke
  deriving Repr, DecidableEq

/-- A compiled pluck or strum pattern. -/
structure Pattern where
  groups : List Group
  deriving Repr, DecidableEq

namespace Pattern

/-- The number of groups. -/
def size (p : Pattern) : Nat := p.groups.length

/-- The latest beat offset; an empty pattern is at the downbeat. -/
def lastOffset (p : Pattern) : Rat :=
  match p.groups with
  | [] => 1
  | first :: rest => rest.foldl (fun latest g => if latest < g.offset then g.offset else latest)
      first.offset

end Pattern
end Plectrum
