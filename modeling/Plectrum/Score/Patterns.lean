/-
  Plectrum.Score.Patterns
  ───────────────────────
  **The patterns of a score.**

  A score names its patterns.  Each is a mapping with one key, `pluck` or `strum`,
  whose value is a spec or a list of specs.  Patterns are compiled in the order they
  are written, and the first that fails decides.
-/
import Plectrum.Act
import Plectrum.Pattern.Spec

namespace Plectrum.Score

variable {σ : Type}

/-- Compile the specs of one pattern. -/
def compile (kind : PatternKind) (d : Datum) : Act σ Pattern := do
  let specs ← Spec.listOf d
  let pattern ← Pattern.ofSpecs kind specs
  Act.report .debug .pattern
    ["Compiled ", specs.length, " spec(s) into ", pattern.size, " action group(s)"]
  return pattern

/-- The one kind and the specs of the entry at `name`. -/
def patternEntry (name entry : Datum) : Except Fault (PatternKind × Datum) :=
  match entry.turned with
  | .mapping [(kind, d)] =>
    if kind.sameKey (.text "pluck") then .ok (.pluck, d)
    else if kind.sameKey (.text "strum") then .ok (.strum, d)
    else .error (.unknownPatternKind name kind)
  | _ => .error (.badPatternEntry name)

/-- Compile all patterns, with their names. -/
def compilePatterns : List (Datum × Datum) → Act σ (List (Datum × Pattern))
  | [] => return []
  | (name, entry) :: rest => do
    let (kind, d) ← patternEntry name entry
    let pattern ← compile kind d
    return (name, pattern) :: (← compilePatterns rest)

end Plectrum.Score
