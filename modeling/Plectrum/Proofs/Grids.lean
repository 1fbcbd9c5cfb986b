/-
  Plectrum.Proofs.Grids
  ─────────────────────
  **What a tab has to be to be read as a grid, and which grid it is.**

  The lines of a tab are ruled by their bars: each line has measures of its own, and the widths of
  the measures are the same in all lines.  The ticks of a measure are then divided among its
  columns, and there has to be no rest.  These two tables, the measures of the lines and the steps
  of the measures, are all that a grid is made of: it has the first without its bars, and the second
  without its measures.

  Main results:
    * `Tab.gridOfLines_ok_iff` — which lines are read as a grid, and as which one;
    * `Grid.crossed_columns` — the columns of a grid have all of its rows, and give them back;
    * `Tab.grid_rectangular` — a grid of whole ticks fills its measures exactly.
-/
import Mathlib.Algebra.BigOperators.Group.List.Basic
import Mathlib.Algebra.Ring.Int.Defs
import Plectrum.Proofs.Outcomes
import Plectrum.Proofs.Tracks
import Plectrum.Tab.Grid

namespace Plectrum

open Text

namespace Tab

/-! ## §1. Lines. -/

/-- Lines that are ruled into measures, which have the same widths in each line. -/
structure Ruled (tabLines : List Text) (table : List (List Text)) (widths : List Nat) : Prop where
  some : tabLines ≠ []
  read : tabLines.mapM measures = .ok table
  aligned : ∀ row ∈ table, row.map List.length = widths

/-- All measures have the width of the first one. -/
def Uniform (widths : List Nat) : Prop := ∀ w ∈ widths, w = widths.headD 0

theorem uniform_iff (widths : List Nat) :
    widths.any (· != widths.headD 0) = false ↔ Uniform widths := by
  simp [Uniform]

/-- No line is out of line with the first one, if all have its widths. -/
theorem find?_misaligned {tabLines : List Text} {table : List (List Text)} (widths : List Nat)
    (length : tabLines.length = table.length) :
    ((tabLines.zip table).find? fun (_, row) => row.map List.length != widths) = none ↔
      ∀ row ∈ table, row.map List.length = widths := by
  rw [List.find?_eq_none]
  constructor
  · intro aligned row here
    rw [← List.map_snd_zip (Nat.le_of_eq length.symm)] at here
    obtain ⟨⟨line, row⟩, within, rfl⟩ := List.mem_map.1 here
    simpa using aligned _ within
  · rintro aligned ⟨line, row⟩ within
    simpa using aligned row (List.of_mem_zip within).2

/-! ## §2. Steps. -/

/-- The steps of the columns of one measure, which spans some ticks: all of them are the same, and
there is no rest. -/
def Divides (span : Quantity) (width : Nat) (steps : List Quantity) : Prop :=
  ∃ step, span.wholeMultiple? width = some step ∧ steps = List.replicate width step

/-- Each measure is divided by itself. -/
theorem stepsOfWidths_ok_iff {firstLine : Text} {span : Quantity} {widths : List Nat}
    {steps : List Quantity} :
    stepsOfWidths firstLine span widths = .ok steps ↔
      ∃ parts, List.Forall₂ (Divides span) widths parts ∧ steps = parts.flatten := by
  induction widths generalizing steps with
  | nil =>
    constructor
    · intro read
      cases read
      exact ⟨[], .nil, rfl⟩
    · rintro ⟨parts, each, rfl⟩
      cases each
      rfl
  | cons width widths ih =>
    unfold stepsOfWidths
    constructor
    · intro read
      split at read
      · cases read
      · next step divides =>
        obtain ⟨rest, restHere, same⟩ := bind_ok read
        cases same
        obtain ⟨parts, each, rfl⟩ := ih.1 restHere
        exact ⟨_ :: parts, .cons ⟨step, divides, rfl⟩ each, rfl⟩
    · rintro ⟨parts, each, rfl⟩
      cases each with
      | @cons _ part _ parts first each =>
        obtain ⟨step, divides, rfl⟩ := first
        rw [divides]
        dsimp only
        rw [ih.2 ⟨parts, each, rfl⟩]
        rfl

/-- What measures span is a number, if there are steps: a template leaves none. -/
theorem stepsOfSpan_ok_iff {firstLine : Text} {span : Datum} {widths : List Nat}
    {steps : List Quantity} :
    stepsOfSpan firstLine span widths = .ok steps ↔
      ∃ q, span = .number q ∧ stepsOfWidths firstLine q widths = .ok steps := by
  constructor
  · intro read
    unfold stepsOfSpan at read
    split at read
    · obtain ⟨filled, -, refused⟩ := bind_ok read
      cases refused
    · obtain ⟨q, number, read⟩ := bind_ok read
      cases span with
      | number p =>
        cases number
        exact ⟨_, rfl, read⟩
      | _ => cases number
  · rintro ⟨q, rfl, read⟩
    exact read

/-- How the ticks of a beat, and the beats of a measure, divide measures into steps. -/
def Timed (ticks beats : Datum) (widths : List Nat) (parts : List (List Quantity)) : Prop :=
  ∃ b span, beats = .number b ∧ b.le (.whole 0) = false ∧
    ticks.times beats = .ok (.number span) ∧ List.Forall₂ (Divides span) widths parts

/-! ## §3. Grids. -/

/-- Lines are read as a grid exactly if they are ruled and timed, and then the grid has their rows
and their steps. -/
theorem gridOfLines_ok_iff {tabLines : List Text} {ticks beats : Datum} {uniform : Bool}
    {g : Grid} :
    gridOfLines tabLines ticks beats uniform = .ok g ↔
      ∃ table widths parts, Ruled tabLines table widths ∧ (uniform = true → Uniform widths) ∧
        Timed ticks beats widths parts ∧ g = ⟨table.map List.flatten, parts.flatten⟩ := by
  constructor
  · intro read
    unfold gridOfLines at read
    obtain ⟨b, number, read⟩ := bind_ok read
    obtain ⟨forward, read⟩ := check_ok read
    obtain ⟨table, ruled, read⟩ := bind_ok read
    have length := (mapM_ok_iff_forall₂.1 ruled).length_eq
    -- All lines are measured by the first one, so there has to be one.
    cases tabLines with
    | nil => cases read
    | cons firstLine lines =>
      cases table with
      | nil => cases length
      | cons firstRow rows =>
        dsimp only at read
        split at read
        · cases read
        next aligned =>
          obtain ⟨even, read⟩ := check_ok read
          obtain ⟨span, product, read⟩ := bind_ok read
          obtain ⟨steps, divided, same⟩ := bind_ok read
          cases same
          obtain ⟨q, rfl, divided⟩ := stepsOfSpan_ok_iff.1 divided
          obtain ⟨parts, each, rfl⟩ := stepsOfWidths_ok_iff.1 divided
          refine ⟨_, firstRow.map List.length, parts,
            ⟨List.cons_ne_nil _ _, ruled, (find?_misaligned _ length).1 aligned⟩, ?_, ?_, rfl⟩
          · rintro rfl
            rw [Bool.not_eq_true, Bool.true_and] at even
            exact (uniform_iff _).1 even
          · cases beats with
            | number q =>
              cases number
              exact ⟨b, _, rfl, by simpa using forward, product, each⟩
            | _ => cases number
  · rintro ⟨table, widths, parts, ruled, even, ⟨b, span, rfl, forward, product, each⟩, rfl⟩
    have read := ruled.read
    have length := (mapM_ok_iff_forall₂.1 read).length_eq
    obtain ⟨firstLine, lines, rfl⟩ := List.exists_cons_of_ne_nil ruled.some
    cases table with
    | nil => cases length
    | cons firstRow rows =>
      have aligned := ruled.aligned
      obtain rfl := aligned firstRow List.mem_cons_self
      have steps : stepsOfSpan firstLine (.number span) (firstRow.map List.length) =
          .ok parts.flatten :=
        stepsOfSpan_ok_iff.2 ⟨span, rfl, stepsOfWidths_ok_iff.2 ⟨parts, each, rfl⟩⟩
      have uneven : (uniform && (firstRow.map List.length).any
          (· != (firstRow.map List.length).headD 0)) = false := by
        cases uniform with
        | false => rfl
        | true => exact (uniform_iff _).2 (even rfl)
      unfold gridOfLines
      simp only [Datum.asNumber_number, bind, Except.bind, forward, Bool.false_eq_true, if_false,
        read, (find?_misaligned _ length).2 aligned, uneven, product, steps]
      rfl

theorem checkLineCount_ok_iff {count : Nat} {tabLines : List Text} :
    checkLineCount (.whole count) tabLines = .ok () ↔ tabLines.length = count := by
  have same : Datum.sameKey (.whole tabLines.length) (.whole count) = true ↔
      tabLines.length = count := by
    show ((Quantity.Place.value ((tabLines.length : Int) : Rat)) ==
      .value ((count : Int) : Rat)) = true ↔ _
    rw [beq_iff_eq, Quantity.Place.value.injEq, Rat.intCast_inj, Int.ofNat_inj]
  unfold checkLineCount
  split
  · next here => exact iff_of_true rfl (same.1 here)
  · next other => exact iff_of_false nofun (mt same.2 other)

/-- A tab is read as a grid if it has a line for each string, and they are read as one. -/
theorem grid_ok_iff {tab count ticks beats : Datum} {uniform : Bool} {g : Grid} :
    grid tab count ticks beats uniform = .ok g ↔
      ∃ tabLines, linesOfDatum tab = .ok tabLines ∧ checkLineCount count tabLines = .ok () ∧
        gridOfLines tabLines ticks beats uniform = .ok g := by
  unfold grid
  constructor
  · intro read
    obtain ⟨tabLines, lines, read⟩ := bind_ok read
    obtain ⟨⟨⟩, counted, read⟩ := bind_ok read
    exact ⟨tabLines, lines, counted, read⟩
  · rintro ⟨tabLines, lines, counted, read⟩
    rw [lines]
    show (checkLineCount count tabLines >>= _) = _
    rw [counted]
    exact read

end Tab

/-! ## §4. Columns. -/

namespace Grid

/-- A table read the other way: each line of it has what stands at one place in the lines of the
table. -/
def crossed (width : Nat) (table : List Text) : List Text :=
  (List.range width).map fun i => table.filterMap (·[i]?)

theorem columns_steps (g : Grid) : g.columns.map Prod.fst = g.steps := by
  unfold columns
  rw [List.map_map]
  exact List.zipIdx_map_fst 0 g.steps

theorem columns_crossed (g : Grid) :
    g.columns.map Prod.snd = crossed g.steps.length g.rows := by
  unfold columns crossed
  rw [List.map_map, List.range_eq_range', ← List.zipIdx_map_snd, List.map_map]
  rfl

variable {table : List Text} {width i : Nat}

/-- No line of a table is left out at a place that all lines reach. -/
theorem length_column (reaches : ∀ row ∈ table, i < row.length) :
    (table.filterMap (·[i]?)).length = table.length := by
  induction table with
  | nil => rfl
  | cons row table ih =>
    obtain ⟨here, others⟩ := List.forall_mem_cons.1 reaches
    simp [here, ih others]

/-- What stands at a place in the lines of a table, line by line. -/
theorem getElem?_column (reaches : ∀ row ∈ table, i < row.length) (line : Nat) :
    (table.filterMap (·[i]?))[line]? = table[line]?.bind (·[i]?) := by
  induction table generalizing line with
  | nil => rfl
  | cons row table ih =>
    obtain ⟨here, others⟩ := List.forall_mem_cons.1 reaches
    cases line with
    | zero => simp [here]
    | succ line => simp [here, ih others line]

theorem filterMap_getElem? (row : Text) : (List.range row.length).filterMap (row[·]?) = row := by
  induction row with
  | nil => rfl
  | cons l row ih =>
    rw [List.length_cons, List.range_succ_eq_map, List.filterMap_cons, List.filterMap_map]
    exact congrArg (l :: ·) ih

/-- A table whose lines have one width is read back from its columns. -/
theorem crossed_crossed (rectangular : ∀ row ∈ table, row.length = width) :
    crossed table.length (crossed width table) = table := by
  refine List.ext_getElem? fun line => ?_
  unfold crossed
  rw [List.getElem?_map]
  by_cases inside : line < table.length
  · have row := rectangular _ (List.getElem_mem inside)
    rw [List.getElem?_range inside, List.getElem?_eq_getElem inside, Option.map_some,
      List.filterMap_map]
    refine congrArg some (Eq.trans ?_ (filterMap_getElem? table[line]))
    rw [row]
    refine List.filterMap_congr fun i within => ?_
    have reaches : ∀ row ∈ table, i < row.length := by
      intro row here
      rw [rectangular row here]
      exact List.mem_range.1 within
    show (table.filterMap (·[i]?))[line]? = table[line][i]?
    rw [getElem?_column reaches, List.getElem?_eq_getElem inside]
    rfl
  · have beyond := Nat.le_of_not_lt inside
    rw [List.getElem?_eq_none (by simpa using beyond), List.getElem?_eq_none beyond]
    rfl

/-- The columns of a grid whose rows are as long as there are columns have a cell of each row, and
the rows can be read back from them. -/
theorem crossed_columns {g : Grid} (rectangular : ∀ row ∈ g.rows, row.length = g.steps.length) :
    (∀ column ∈ g.columns, column.2.length = g.rows.length) ∧
      crossed g.rows.length (g.columns.map Prod.snd) = g.rows := by
  rw [g.columns_crossed]
  refine ⟨?_, crossed_crossed rectangular⟩
  intro column here
  have cells : column.2 ∈ g.columns.map Prod.snd := List.mem_map_of_mem here
  rw [g.columns_crossed] at cells
  obtain ⟨i, within, same⟩ := List.mem_map.1 cells
  rw [← same]
  refine length_column fun row inRows => ?_
  rw [rectangular row inRows]
  exact List.mem_range.1 within

end Grid

namespace Tab

/-- Each measure has as many steps as it is wide. -/
theorem lengths_of_divides {span : Quantity} {widths : List Nat} {parts : List (List Quantity)}
    (each : List.Forall₂ (Divides span) widths parts) : parts.map List.length = widths := by
  induction each with
  | nil => rfl
  | cons first _ ih =>
    obtain ⟨step, -, rfl⟩ := first
    rw [List.map_cons, List.length_replicate, ih]

/-- The rows of a grid are as long as there are columns. -/
theorem Ruled.rectangular {tabLines : List Text} {table : List (List Text)} {widths : List Nat}
    (ruled : Ruled tabLines table widths) {span : Quantity} {parts : List (List Quantity)}
    (each : List.Forall₂ (Divides span) widths parts) :
    ∀ row ∈ table.map List.flatten, row.length = parts.flatten.length := by
  intro row here
  obtain ⟨pieces, within, rfl⟩ := List.mem_map.1 here
  rw [List.length_flatten, List.length_flatten, ruled.aligned pieces within,
    lengths_of_divides each]

/-- A grid has a row for each string, and all rows are as long as there are columns. -/
theorem grid_shape {tab ticks beats : Datum} {count : Nat} {uniform : Bool} {g : Grid}
    (read : grid tab (.whole count) ticks beats uniform = .ok g) :
    g.rows.length = count ∧ ∀ row ∈ g.rows, row.length = g.steps.length := by
  obtain ⟨tabLines, -, counted, read⟩ := grid_ok_iff.1 read
  obtain ⟨table, widths, parts, ruled, -, ⟨b, span, -, -, -, each⟩, rfl⟩ :=
    gridOfLines_ok_iff.1 read
  refine ⟨?_, ruled.rectangular each⟩
  rw [List.length_map, ← (mapM_ok_iff_forall₂.1 ruled.read).length_eq,
    checkLineCount_ok_iff.1 counted]

/-! ## §5. Whole ticks. -/

/-- A grid of whole ticks that the measures of some lines fill: there is a step for each cell of a
measure, all steps of a measure are the same, and together they are what it spans. -/
structure Fills (span : Int) (tabLines : List Text) (table : List (List Text))
    (parts : List (List Int)) (g : Grid) : Prop where
  ruled : Ruled tabLines table (parts.map List.length)
  rows : g.rows = table.map List.flatten
  steps : g.steps = parts.flatten.map .whole
  even : ∀ part ∈ parts, ∀ step ∈ part, part.length * step = span
  full : ∀ part ∈ parts, part.sum = span

theorem divides_whole_iff {n : Int} {width : Nat} {steps : List Quantity} :
    Divides (.whole n) width steps ↔
      n % width = 0 ∧ steps = List.replicate width (.whole (n / width)) := by
  have multiple : (Quantity.whole n).wholeMultiple? width =
      if n % width = 0 then some (.whole (n / width)) else none := rfl
  unfold Divides
  rw [multiple]
  by_cases whole : n % width = 0
  · simp [whole]
  · simp [whole]

/-- Measures that are divided without a rest are as long as their steps. -/
theorem exists_wholeParts {n : Int} {widths : List Nat} {parts : List (List Quantity)}
    (each : List.Forall₂ (Divides (.whole n)) widths parts) :
    ∃ wholes : List (List Int), parts = wholes.map (List.map .whole) ∧
      wholes.map List.length = widths ∧
      ∀ part ∈ wholes, (∀ step ∈ part, part.length * step = n) ∧ part.sum = n := by
  induction each with
  | nil => exact ⟨[], rfl, rfl, nofun⟩
  | @cons width _ widths _ first _ ih =>
    obtain ⟨whole, rfl⟩ := divides_whole_iff.1 first
    obtain ⟨wholes, rfl, rfl, fill⟩ := ih
    have product : (width : Int) * (n / width) = n :=
      Int.mul_ediv_cancel' (Int.dvd_of_emod_eq_zero whole)
    refine ⟨List.replicate width (n / width) :: wholes, by simp, by simp, ?_⟩
    rw [List.forall_mem_cons]
    refine ⟨⟨?_, ?_⟩, fill⟩
    · intro step within
      rw [List.length_replicate, List.eq_of_mem_replicate within, product]
    · rw [List.sum_replicate, nsmul_eq_mul, product]

/-- A measure of whole ticks and beats spans whole ticks. -/
theorem times_of_integer {ticks beats : Quantity} {t b : Int} (resolution : ticks.integer? = some t)
    (whole : beats.integer? = some b) :
    (Datum.number ticks).times (.number beats) = .ok (.whole (t * b)) := by
  show (Datum.number <$> ticks.mul beats : Except Fault Datum) = _
  rw [Quantity.mul_of_integer resolution whole]
  rfl

/-- Whole ticks and beats: a tab that is read has beats, and its measures fill its grid. -/
theorem exists_fills {tab count : Datum} {ticks beats : Quantity} {t b : Int} {uniform : Bool}
    (resolution : ticks.integer? = some t) (whole : beats.integer? = some b) {g : Grid}
    (read : grid tab count (.number ticks) (.number beats) uniform = .ok g) :
    0 < b ∧ ∃ tabLines table parts, linesOfDatum tab = .ok tabLines ∧
      Fills (t * b) tabLines table parts g := by
  obtain ⟨tabLines, lines, -, read⟩ := grid_ok_iff.1 read
  obtain ⟨table, widths, parts, ruled, -, ⟨_, span, same, forward, product, each⟩, rfl⟩ :=
    gridOfLines_ok_iff.1 read
  cases same
  rw [times_of_integer resolution whole] at product
  cases product
  rw [Quantity.le_of_integer whole rfl, decide_eq_false_iff_not] at forward
  obtain ⟨wholes, rfl, rfl, fill⟩ := exists_wholeParts each
  refine ⟨by omega, tabLines, table, wholes, lines, ruled, rfl, ?_, ?_, ?_⟩
  · rw [← List.map_flatten]
  · intro part here
    exact (fill part here).1
  · intro part here
    exact (fill part here).2

/-- Whole ticks add up. -/
theorem foldlM_add_whole (n : Int) (ks : List Int) :
    (ks.map Quantity.whole).foldlM Quantity.add (.whole n) = .ok (.whole (n + ks.sum)) := by
  induction ks generalizing n with
  | nil => simp [pure, Except.pure]
  | cons k ks ih =>
    rw [List.map_cons, List.foldlM_cons, List.sum_cons, ← Int.add_assoc, ← ih (n + k)]
    rfl

namespace Fills

variable {span : Int} {tabLines : List Text} {table : List (List Text)} {parts : List (List Int)}
  {g : Grid}

/-- The ticks of all measures. -/
theorem sum (fills : Fills span tabLines table parts g) :
    parts.flatten.sum = parts.length * span := by
  rw [List.sum_flatten, List.map_congr_left fills.full, List.map_const', List.sum_replicate,
    nsmul_eq_mul]

theorem total (fills : Fills span tabLines table parts g) :
    g.total = .ok (.whole (parts.length * span)) := by
  unfold Grid.total
  rw [fills.steps, foldlM_add_whole, fills.sum, Int.zero_add]

/-- The steps of measures that go forward go forward. -/
theorem steps_pos (fills : Fills span tabLines table parts g) (positive : 0 < span) :
    ∀ step ∈ g.steps, ∃ k : Int, 0 < k ∧ step = .whole k := by
  intro step here
  rw [fills.steps] at here
  obtain ⟨k, within, rfl⟩ := List.mem_map.1 here
  obtain ⟨part, inParts, inPart⟩ := List.mem_flatten.1 within
  have product := fills.even part inParts k inPart
  refine ⟨k, ?_, rfl⟩
  -- A step that does not go forward would not take its measure forward.
  by_contra backward
  have back := Int.mul_nonneg (Int.natCast_nonneg part.length) (show 0 ≤ -k by omega)
  rw [Int.mul_neg, product] at back
  omega

end Fills

/-- Every tab of whole ticks and beats that is read gives a rectangular grid: it has a row for each
string and in each row a cell for each step, all steps are positive, those of a measure add up to
its ticks, and the columns are the rows read the other way. -/
theorem grid_rectangular (tab : Datum) {count : Nat} {t b : Int} (uniform : Bool) (ticks : 0 < t)
    (beats : 0 < b) {g : Grid}
    (read : grid tab (.whole count) (.whole t) (.whole b) uniform = .ok g) :
    g.rows.length = count ∧ (∀ row ∈ g.rows, row.length = g.steps.length) ∧
      (∀ step ∈ g.steps, ∃ k : Int, 0 < k ∧ step = .whole k) ∧
      (∃ tabLines table parts, linesOfDatum tab = .ok tabLines ∧
        Fills (t * b) tabLines table parts g ∧
        g.total = .ok (.whole (parts.length * (t * b)))) ∧
      g.columns.map Prod.fst = g.steps ∧
      (∀ column ∈ g.columns, column.2.length = g.rows.length) ∧
      Grid.crossed g.rows.length (g.columns.map Prod.snd) = g.rows := by
  obtain ⟨-, tabLines, table, parts, lines, fills⟩ := exists_fills rfl rfl read
  obtain ⟨counted, rectangular⟩ := grid_shape read
  obtain ⟨full, back⟩ := Grid.crossed_columns rectangular
  exact ⟨counted, rectangular, fills.steps_pos (Int.mul_pos ticks beats),
    ⟨tabLines, table, parts, lines, fills, fills.total⟩, g.columns_steps, full, back⟩

/-- Two drums, with a measure of four columns and a measure of two. -/
def twoDrums : Datum := .text "hat |1-1-|0-|\nkick |---2|-1"

theorem twoDrums_rectangular :
    (0 : Int) < 192 ∧ (0 : Int) < 4 ∧
      ∃ g, grid twoDrums (.whole 2) (.whole 192) (.whole 4) false = .ok g ∧
        g.rows = ["1-1-0-", "---2-1"] ∧ (∀ row ∈ g.rows, row.length = g.steps.length) ∧
        Grid.crossed g.rows.length (g.columns.map Prod.snd) = g.rows := by
  have read : grid twoDrums (.whole 2) (.whole 192) (.whole 4) false =
      .ok ⟨["1-1-0-", "---2-1"], [192, 192, 192, 192, 384, 384].map Quantity.whole⟩ := rfl
  obtain ⟨-, rectangular, -, -, -, -, back⟩ :=
    grid_rectangular twoDrums false (by decide) (by decide) read
  exact ⟨by decide, by decide, _, read, rfl, rectangular, back⟩

end Tab
end Plectrum
