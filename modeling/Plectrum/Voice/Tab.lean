/-
  Plectrum.Voice.Tab
  ──────────────────
  **Playing tabs.**

  A tab is read as a grid, one line for each string from the highest down.  On
  strings a digit is a fret; on drums it is the force of a hit.  The whole grid is
  checked before anything sounds; then its columns are played one after the other,
  and the clock goes on by their lengths.
-/
import Plectrum.Tab.Grid
import Plectrum.Voice.Strike

namespace Plectrum

/-! ## §1. What is played. -/

/-- A tab, with the beats that each of its measures spans if they are stated. -/
structure TabText where
  beats : Datum
  text : Datum
  deriving Repr

namespace TabText

/-- A tab from what is written for it: a number of beats may come first, then one
text with all lines, or a text for each line. -/
def ofParts (parts : List Datum) (beats : Datum) : Except Fault TabText :=
  let (beats, texts) :=
    match parts with
    | first :: second :: rest =>
      -- A number in front of at least one text is the number of beats.
      if first.int?.isSome then (first, second :: rest) else (beats, parts)
    | _ => (beats, parts)
  if texts.isEmpty || texts.any (·.int?.isSome) then .error .noTabText
  else
    match texts with
    | [text] => .ok ⟨beats, text⟩
    | texts => .ok ⟨beats, .list texts⟩

/-- The beats of a measure: the stated ones, or `default` when none are. -/
def beatsOr (asked : TabText) (default : Nat) : Datum :=
  match asked.beats with
  | .null => .whole default
  | beats => beats

end TabText

namespace Play

variable {γ : Type} [ChanceSource γ]

/-! ## §2. Checks. -/

/-- The highest digit of a line; silence counts as zero. -/
def highestDigit (row : Text) : Except Fault Nat := do
  return ((← (row.filter (· != .char '-')).mapM Tab.cellDigit).max?).getD 0

/-- Whether the lines of a grid stay within the range of pitches.  `roots` are the
roots of the lines from the top, and `line` is the number of the first. -/
def checkPitches (style : TabStyle) :
    Nat → List Quantity → List Text → Except Fault Unit
  | line, root :: roots, row :: rows => do
    let (pitch, _) ← style.strike root (.whole (← highestDigit row))
    if (Quantity.whole 127).lt pitch then throw (.tabPitchOutOfRange line pitch)
    checkPitches style (line + 1) roots rows
  | _, _, _ => .ok ()

/-! ## §3. Columns. -/

/-- Play the cell of one line, unless it is silent. -/
def cell (tick : Int) (stray : Binary64) (line : Nat) (l : Letter) : Play γ Unit := do
  if l == '-' then return ()
  let v ← voice
  let index := v.stringCount - line - 1
  match v.roots[index]? with
  | none => return ()
  | some root =>
    let (pitch, velocity) ← v.tabStyle.strike root (.whole (← Tab.cellDigit l))
    strike tick index pitch velocity stray v.tabStyle.closesSounding

/-- Play the cells of a column, from line `line` down. -/
def cells (tick : Int) (stray : Binary64) : Nat → Text → Play γ Unit
  | _, [] => pure ()
  | line, l :: ls => do
    cell tick stray line l
    cells tick stray (line + 1) ls

/-- Play columns from a tick on; the tick after them. -/
def columns : Quantity → List (Quantity × Text) → Play γ Quantity
  | tick, [] => pure tick
  | tick, (step, column) :: rest => do
    -- Here the force is drawn before the time.
    let stray ← jitter
    let played ← humanize tick
    cells played stray 0 column
    columns (← tick.add step) rest

/-! ## §4. The act. -/

/-- Read a tab for a voice.  Both checks come before the first column, so a bad tab
plays nothing. -/
def readTab (v : Voice) (parts : List Datum) (beats : Datum) : Except Fault Grid := do
  let asked ← TabText.ofParts parts beats
  let grid ← Tab.grid asked.text (.whole v.stringCount) (.number v.config.ticks)
    (asked.beatsOr v.beats) v.tabStyle.uniformTabs
  checkPitches v.tabStyle 1 v.roots.reverse grid.rows
  return grid

/-- Play a grid that has been read. -/
def playGrid (grid : Grid) : Play γ Unit := do
  let clock ← columns (← voice).clock grid.columns
  changeVoice fun v => { v with clock, skip := .whole 0 }
  Act.report .debug .instrument
    [.shown (← voice).name, ": played ", grid.steps.length, " tab columns, clock ", clock]

/-- Play a tab. -/
def tab (parts : List Datum) (beats : Datum) : Play γ Unit := do
  requireOpen
  let grid ← readTab (← voice) parts beats
  playGrid grid

end Play
end Plectrum
