/-
  Plectrum.Document.Value
  ───────────────────────
  **The value of a document.**

  A part has a value when the parts that it leads to have theirs.  The values are found
  from the last part to the first, until no more are found: a part that is left leads
  back to itself, or to one that does.  Those are loops.  They are unrolled, turn by turn,
  as far as anything that reads them goes.
-/
import Plectrum.Document.Part
import Plectrum.Document.SetOrder

namespace Plectrum.Document

/-! ## §1. One part. -/

/-- The values of parts, as far as they are known. -/
abbrev Values : Type := Array (Option Datum)

/-- The value of a face, if it is known. -/
def Face.datum? (known : Values) : Face → Option Datum
  | .value d => some d
  | .part place => (known[place]?).getD none

/-- Keys with values; a key that comes again keeps its first place and its last value. -/
def entriesOf (entries : List (Datum × Datum)) : List (Datum × Datum) :=
  entries.foldl (fun found (key, value) => Datum.insert key value found) []

/-- The value of a part, if those of its faces are known.  `mark` tells from other data those
that may lead back to themselves, by where they are in the part. -/
def Part.datum? (known : Values) (mark : LoopName → Datum → Datum) : Part → Option Datum
  | .list items => do return mark [] (.list (← items.mapM (Face.datum? known)))
  | .mapping entries => do
    let entries ← entries.mapM fun (key, face) => do return (key, ← face.datum? known)
    return mark [] (.mapping (entriesOf entries))
  | .set keys => some (.set (inSetOrder ((entriesOf (keys.map fun key => (key, .null))).map (·.1))))
  | .pairs entries => do
    let entries ← entries.mapM fun (key, value) =>
      do return Datum.pair (← key.datum? known) (← value.datum? known)
    return mark [] (.list (entries.zipIdx.map fun (pair, i) => mark [i] pair))

/-! ## §2. Parts without loops. -/

/-- Look once for the values of parts that are not known, from the last part to the first. -/
def searchOnce (parts : Array Part) (known : Values) : Values :=
  (List.range parts.size).foldr
    (fun place known =>
      match (known[place]?).getD none, parts[place]? with
      | none, some part => known.setIfInBounds place (part.datum? known fun _ d => d)
      | _, _ => known)
    known

/-- How many values are known. -/
def knownCount (known : Values) : Nat := known.countP Option.isSome

/-- Look for values until no more are found, at most `times`. -/
def search (parts : Array Part) : Nat → Values → Values
  | 0, known => known
  | times + 1, known =>
    let more := searchOnce parts known
    if knownCount more = knownCount known then known else search parts times more

/-! ## §3. Loops. -/

/-- Whether each part is a loop: its value was not found. -/
def loopPlaces (known : Values) : List Nat :=
  (List.range known.size).filter fun place => ((known[place]?).getD none).isNone

/-- Put a value for every loop where nothing will look. -/
def beforeTurns (known : Values) (loops : List Nat) : Values :=
  loops.foldl (fun known place => known.setIfInBounds place (some .null)) known

/-- Unroll all loops by one more turn. -/
def turnOnce (parts : Array Part) (loops : List Nat) (known : Values) : Values :=
  loops.foldr
    (fun place known =>
      match parts[place]? with
      | some part => known.setIfInBounds place (part.datum? known fun inner d => .loop (place :: inner) d)
      | none => known)
    known

/-- Unroll all loops by some turns. -/
def turn (parts : Array Part) (loops : List Nat) : Nat → Values → Values
  | 0, known => known
  | times + 1, known => turn parts loops times (turnOnce parts loops known)

/-- How many things lie within each other where a score is read. -/
def readingDepth : Nat := 8

/-- The value of a document.  From anywhere a score is read, a text that is written of a loop
passes every loop at most once. -/
def Settled.datum (s : Settled) : Datum :=
  let known := search s.parts s.parts.size (Array.replicate s.parts.size none)
  let loops := loopPlaces known
  let turns := if loops.isEmpty then 0 else loops.length + readingDepth
  ((s.root.datum? (turn s.parts loops turns (beforeTurns known loops)))).getD .null

end Plectrum.Document
