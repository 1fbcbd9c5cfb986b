/-
  Plectrum.Chance.Source
  ──────────────────────
  **Sources of chance.**

  Strikes stray in time and in velocity by draws from a source.  The performance
  needs one thing of it: a draw between minus a bound and the bound.  A whole band
  shares one source, so its draws come in the order of the calls.
-/
import Plectrum.Binary64.Basic

namespace Plectrum

/-- A source of random draws, carried along as a value. -/
class ChanceSource (γ : Type) where
  /-- A draw between `-bound` and `bound`, and the source after it. -/
  spread : (bound : Binary64) → γ → Binary64 × γ

end Plectrum
