/-
  Plectrum.Score.Render
  ─────────────────────
  **Rendering a score.**

  A score describes an instrument, names patterns and chords, and lists steps.
  Rendering creates the instrument, performs the steps on it, and finishes it, which
  saves the song if a file is named.
-/
import Plectrum.Band.Finish
import Plectrum.Score.Patterns
import Plectrum.Score.Step

namespace Plectrum.Score

variable {γ : Type}

/-! ## §1. The instrument. -/

/-- The pair that an entry of a list of pairs is. -/
def pairOf (index : Nat) (d : Datum) : Except Fault (Datum × Datum) := do
  match ← d.elements with
  | [key, value] => if key.isKey then return (key, value) else throw .wrongKind
  | parts => throw (.pairSize index parts.length)

/-- The pairs of a list, from an index on. -/
def pairsOf : Nat → List Datum → Except Fault (List (Datum × Datum))
  | _, [] => .ok []
  | index, d :: ds => do return (← pairOf index d) :: (← pairsOf (index + 1) ds)

/-- Keyed data as options, whose keys have to be texts. -/
def optionsOfEntries (entries : List (Datum × Datum)) : Except Fault Options := do
  let named ← entries.mapM fun (key, value) =>
    match key with
    | .text t => Except.ok (t, value)
    | _ => Except.error Fault.wrongKind
  return Options.ofPairs named

/-- The options of an instrument: a mapping, or a list of pairs. -/
def optionsOfDatum (d : Datum) : Except Fault Options := do
  match d.entries? with
  | some entries => optionsOfEntries entries
  | none => optionsOfEntries (← pairsOf 0 (← d.elements))

/-- The options of the instrument of a score, with a seed that overrides theirs if one is given. -/
def instrumentOptions (score seed : Datum) : Except Fault Options := do
  let options ← optionsOfDatum (← score.fieldOr "instrument" (.mapping []))
  match seed with
  | .null => return options
  | seed => return options.set "seed" seed

/-! ## §2. The performance. -/

/-- Perform a score on a voice. -/
def perform [ChanceSource γ] (score : Datum) : Play γ Unit := do
  let patterns ← compilePatterns (← (← score.fieldOr "patterns" (.mapping [])).entries)
  let chords ← score.fieldOr "chords" (.mapping [])
  let steps ← (← score.fieldOr "score" (.list [])).elements
  performSteps ⟨patterns, chords⟩ 1 steps

/-- Render a score: `chanceOf` makes a source of chance from the number of a seed,
`midi` names a file to save in place of the instrument's own, and `seed` stands in place of
the instrument's seed. -/
def render [ChanceSource γ] (chanceOf : Option Nat → γ) (score midi seed : Datum) :
    Act Folder (Option Song) := do
  let setup ← Setup.ofOptions (← instrumentOptions score seed)
  let band ← Band.create chanceOf setup (← Act.state)
  Act.onPart (fun folder => { band with folder }) (fun band _ => band.folder) do
    -- The folder is the only thing that outlives the band.
    Perform.on .master (perform score)
    Perform.finish .master midi .null

end Plectrum.Score
