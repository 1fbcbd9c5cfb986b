/-
  Plectrum.Room
  ─────────────
  **How long a list can be.**

  What a score asks for can be written briefly and still be longer than any list:
  a range up to the number 9223372036854775808, or a text times a large number.  A
  length beyond `indexLimit` cannot be counted, so no text or list has it.
-/
import Plectrum.Rounding

namespace Plectrum

/-- The largest length there is a number for. -/
def indexLimit : Nat := twoTo 63 - 1

end Plectrum
