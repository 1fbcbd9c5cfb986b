/-
  Plectrum.Tab.Grid
  ─────────────────
  **Tab grids: one line for each string, one column for each time slot.**

  A tab line is a label or nothing, then measures with bars between them; its cells
  are dashes and digits.  All lines have the same measures, and a measure spans a
  given number of beats, so its width must divide those beats into whole ticks.
  Reading a tab gives the cells without bars, and the length of each column.
-/
import Plectrum.Datum.Reading
import Plectrum.Text.Blank
import Plectrum.Text.Digit
import Plectrum.Text.Template

namespace Plectrum

open Text

/-- A tab without its bars. -/
structure Grid where
  /-- The cells of each line, from the top. -/
  rows : List Text
  /-- The length of each column in ticks. -/
  steps : List Quantity
  deriving Repr

namespace Grid

/-- The columns: length in ticks, and cells from the top. -/
def columns (g : Grid) : List (Quantity × Text) :=
  g.steps.zipIdx.map fun (step, i) => (step, g.rows.filterMap (·[i]?))

/-- The length of the whole grid in ticks. -/
def total (g : Grid) : Except Fault Quantity :=
  g.steps.foldlM Quantity.add (.whole 0)

end Grid

namespace Tab

/-! ## §1. Lines. -/

/-- A line without surrounding blanks, unless it is blank. -/
def visible? (line : Text) : Option Text :=
  let trimmed := trim line
  if trimmed.isEmpty then none else some trimmed

/-- The lines of a tab text that are not blank. -/
def linesOfText (t : Text) : List Text := (lines t).filterMap visible?

/-- The lines of a tab that are not blank; a tab is a text, or a list with a text for each line. -/
def linesOfDatum : Datum → Except Fault (List Text)
  | .text t => .ok (linesOfText t)
  -- Every line has to be a text.
  | d => do return (← (← d.elements).mapM Datum.asText).filterMap visible?

/-! ## §2. Measures. -/

/-- A cell: a dash for silence, or a digit. -/
def isCell (l : Letter) : Bool := l == '-' || isDigit l

/-- Cells, at least one; one line feed may end them. -/
def isGridText (t : Text) : Bool :=
  let cells := if t.getLast? = some (.char '\n') then t.dropLast else t
  !cells.isEmpty && cells.all isCell

/-- What stands between the bars of a line after its label.  Text in front of the
first bar is a measure when it is grid text, and a label otherwise. -/
def body? (line : Text) : Option Text :=
  match line.dropWhile (· != .char '|') with
  | [] => none
  | _ :: rest =>
    let front := trim (line.takeWhile (· != .char '|'))
    -- An empty front leaves an empty first piece, which `measures` drops.
    some (if !front.isEmpty && !isGridText front then rest else front ++ .char '|' :: rest)

/-- Without an empty piece at the front. -/
def dropEmptyFront : List Text → List Text
  | [] :: rest => rest
  | pieces => pieces

/-- Without a blank piece at the end. -/
def dropBlankEnd (pieces : List Text) : List Text :=
  match pieces.getLast? with
  | some piece => if (trim piece).isEmpty then pieces.dropLast else pieces
  | none => pieces

/-- The measures of a line: at least one, and nothing but grid text. -/
def measures (line : Text) : Except Fault (List Text) :=
  match body? line with
  | none => .error (.badTabLine line)
  | some body =>
    let pieces := dropBlankEnd (dropEmptyFront (splitWhere (· == '|') body))
    if !pieces.isEmpty && pieces.all isGridText then .ok pieces
    else .error (.badTabLine line)

/-! ## §3. Grids. -/

/-- The lengths of the columns of measures with the given widths, each spanning `span` ticks. -/
def stepsOfWidths (firstLine : Text) (span : Quantity) :
    List Nat → Except Fault (List Quantity)
  | [] => .ok []
  | width :: widths =>
    match span.wholeMultiple? width with
    | none => .error (.measureSize width firstLine)
    | some step => do
      return List.replicate width step ++ (← stepsOfWidths firstLine span widths)

/-- The lengths of the columns when a measure spans some ticks.  A text in place of their number
is a template, and what remains of it for a width is no whole number of ticks. -/
def stepsOfSpan (firstLine : Text) (span : Datum) (widths : List Nat) :
    Except Fault (List Quantity) :=
  match span, widths with
  | .text template, width :: _ => do
    throw (if ← Template.fill width template then .measureSize width firstLine else .wrongKind)
  | span, widths => do stepsOfWidths firstLine (← span.asNumber) widths

/-- A tab has one line for each string. -/
def checkLineCount (stringCount : Datum) (tabLines : List Text) : Except Fault Unit :=
  if Datum.sameKey (.whole tabLines.length) stringCount then .ok ()
  else .error (.tabLineCount stringCount tabLines.length)

/-- Read the lines of a tab as a grid whose measures span `beats` beats each; in a
uniform grid all measures have one width. -/
def gridOfLines (tabLines : List Text) (ticksPerBeat beats : Datum) (uniform : Bool) :
    Except Fault Grid := do
  let beats ← beats.asNumber
  if beats.le (.whole 0) then throw (.tabBeats beats)
  let table ← tabLines.mapM measures
  match tabLines, table with
  | firstLine :: _, firstRow :: _ =>
    let widths := firstRow.map List.length
    -- All lines are measured by the first one.
    match (tabLines.zip table).find? fun (_, row) => row.map List.length != widths with
    | some (line, _) => throw (.misalignedMeasures line)
    | none =>
      if uniform && widths.any (· != widths.headD 0) then
        throw (.unevenMeasures firstLine)
      -- The ticks of a beat are not looked at before this.
      let steps ← stepsOfSpan firstLine (← ticksPerBeat.times (.number beats)) widths
      return ⟨table.map List.flatten, steps⟩
  | _, _ => throw .emptyGrid

/-- Read a tab of `stringCount` lines as a grid. -/
def grid (tab stringCount ticksPerBeat beats : Datum) (uniform : Bool) : Except Fault Grid := do
  let tabLines ← linesOfDatum tab
  checkLineCount stringCount tabLines
  gridOfLines tabLines ticksPerBeat beats uniform

/-- The value of a cell that is struck. -/
def cellDigit (l : Letter) : Except Fault Nat :=
  match digitValue? l with
  | some d => .ok d
  | none => .error (.notAnInteger 10 (.text [l]))

end Tab
end Plectrum
