/-
  Plectrum.Proofs.Layouts
  ───────────────────────
  **Tabs in any layout are read back.**

  A tab line is written with a label, with a bar or with nothing in front of its measures, and with
  a bar or nothing behind them.  Which of these it was is found out from what stands in front of
  the first bar.  This never takes a measure for something else, and takes a label for a measure
  only if it is one: without the blanks around it, the label is grid text.

  Main results:
    * `Tab.LineText.measures_trim` — the measures of a line are read as they were written;
    * `Tab.Layout.lines_write` — the lines of a tab are found in all layouts;
    * `Tab.grid_layout` — so the grid that is written is the grid that is read.
-/
import Plectrum.Proofs.Grids
import Plectrum.Proofs.Numerals

namespace Plectrum

open Text

namespace Tab

/-! ## §1. Cells. -/

theorem isBlank_of_isCell {l : Letter} (cell : isCell l = true) : isBlank l = false := by
  unfold isCell at cell
  rw [Bool.or_eq_true, beq_iff_eq] at cell
  cases cell with
  | inl dash =>
    subst dash
    decide
  | inr digit => exact isBlank_of_isDigit digit

/-- Cells are grid text, if there are any. -/
theorem isGridText_of_cells {m : Text} (some : m ≠ []) (cells : ∀ l ∈ m, isCell l = true) :
    isGridText m = true := by
  -- A cell is no line feed, so nothing is taken away at the end.
  have last : m.getLast? ≠ Option.some (.char '\n') := by
    intro ends
    exact absurd (cells _ (List.mem_of_getLast? ends)) (by decide)
  unfold isGridText
  rw [if_neg last]
  simpa [some] using cells

/-- A bar is looked for, and what stands in front of it is a label or a measure. -/
theorem body?_of_front {front : Text} (barless : Letter.char '|' ∉ front) (rest : Text) :
    body? (front ++ .char '|' :: rest) =
      some (if !(trim front).isEmpty && !isGridText (trim front) then rest
        else trim front ++ .char '|' :: rest) := by
  have other : ∀ l ∈ front, (l != Letter.char '|') = true := by
    intro l here
    rw [bne_iff_ne]
    rintro rfl
    exact barless here
  have stops : Stops (· != Letter.char '|') (.char '|' :: rest) := stops_cons (by decide) rest
  unfold body?
  rw [dropWhile_run other stops, takeWhile_run other stops]

/-- An empty piece is dropped only in front of the others. -/
theorem dropEmptyFront_cons {piece : Text} (some : piece ≠ []) (pieces : List Text) :
    dropEmptyFront (piece :: pieces) = piece :: pieces := by
  cases piece with
  | nil => exact absurd rfl some
  | cons l piece => rfl

/-- A blank piece is dropped only behind the others. -/
theorem dropBlankEnd_of_solid {pieces : List Text} (solid : ∀ piece ∈ pieces, trim piece ≠ []) :
    dropBlankEnd pieces = pieces := by
  unfold dropBlankEnd
  split
  · next piece last =>
    rw [if_neg]
    simpa using solid piece (List.mem_of_getLast? last)
  · rfl

theorem dropBlankEnd_concat (pieces : List Text) : dropBlankEnd (pieces ++ [[]]) = pieces := by
  unfold dropBlankEnd
  rw [List.getLast?_concat, List.dropLast_concat]
  rfl

/-! ## §2. Lines. -/

/-- A label.  Without the blanks around it, it is neither empty nor grid text. -/
structure Label where
  text : Text
  some : trim text ≠ []
  other : isGridText (trim text) = false
  barless : Letter.char '|' ∉ text
  oneLine : ∀ l ∈ text, isLineBreak l = false

/-- What stands in front of the measures of a line: nothing, a bar, or a label and a bar. -/
inductive Front where
  | bare
  | bar
  | named (label : Label)

def Front.write : Front → Text
  | .bare => []
  | .bar => [.char '|']
  | .named label => label.text ++ [.char '|']

/-- A line of a tab: its measures, and what stands around them.  There is at least one bar. -/
structure LineText where
  front : Front
  row : List Text
  /-- Whether a bar ends the line. -/
  closed : Bool
  some : row ≠ []
  filled : ∀ m ∈ row, m ≠ []
  cells : ∀ m ∈ row, ∀ l ∈ m, isCell l = true
  barred : front = .bare → closed = true ∨ 2 ≤ row.length

namespace LineText

variable (line : LineText)

/-- The measures with the bars between them, and the bar at the end. -/
def body : Text := joined ['|'] line.row ++ if line.closed then [.char '|'] else []

def write : Text := line.front.write ++ line.body

theorem barless {m : Text} (here : m ∈ line.row) : Letter.char '|' ∉ m := by
  intro bar
  exact absurd (line.cells m here _ bar) (by decide)

/-- There are no blanks among the measures. -/
theorem solid_body : ∀ l ∈ line.body, isBlank l = false := by
  have bar : isBlank '|' = false := by decide
  intro l here
  rcases List.mem_append.1 here with within | ends
  · rcases mem_joined within with between | ⟨m, inRow, own⟩
    · rw [List.mem_singleton.1 between]
      exact bar
    · exact isBlank_of_isCell (line.cells m inRow l own)
  · cases closed : line.closed with
    | true =>
      rw [closed, if_pos rfl, List.mem_singleton] at ends
      rw [ends]
      exact bar
    | false =>
      rw [closed] at ends
      cases ends

theorem trim_measure {m : Text} (here : m ∈ line.row) : trim m = m :=
  trim_of_none fun l own => isBlank_of_isCell (line.cells m here l own)

/-- The pieces between the bars are the measures, and an empty one behind a bar at the end. -/
theorem splitWhere_body :
    splitWhere (· == '|') line.body = line.row ++ if line.closed then [[]] else [] := by
  have cut := splitWhere_joined line.some fun _ => line.barless
  unfold body
  cases line.closed with
  | true =>
    show splitWhere _ (joined [.char '|'] line.row ++ .char '|' :: []) = _
    rw [splitWhere_mid (by decide), cut]
    rfl
  | false =>
    show splitWhere _ (joined [.char '|'] line.row ++ []) = _
    rw [List.append_nil, cut]
    exact (List.append_nil _).symm

theorem dropBlankEnd_row :
    dropBlankEnd (line.row ++ if line.closed then [[]] else []) = line.row := by
  have solid : ∀ m ∈ line.row, trim m ≠ [] := by
    intro m here
    rw [line.trim_measure here]
    exact line.filled m here
  cases line.closed with
  | true => exact dropBlankEnd_concat line.row
  | false =>
    show dropBlankEnd (line.row ++ []) = _
    rw [List.append_nil]
    exact dropBlankEnd_of_solid solid

theorem pieces_body :
    dropBlankEnd (dropEmptyFront (splitWhere (· == '|') line.body)) = line.row := by
  obtain ⟨first, others, row⟩ := List.exists_cons_of_ne_nil line.some
  have filled : first ≠ [] := line.filled first (row ▸ List.mem_cons_self)
  have whole := line.dropBlankEnd_row
  rw [line.splitWhere_body]
  rw [row, List.cons_append] at whole ⊢
  rw [dropEmptyFront_cons filled, whole]

/-- A line with nothing in front has a bar behind its first measure. -/
theorem exists_bar (bare : line.front = .bare) :
    ∃ first ∈ line.row, ∃ rest, line.body = first ++ .char '|' :: rest := by
  obtain ⟨first, others, row⟩ := List.exists_cons_of_ne_nil line.some
  refine ⟨first, row ▸ List.mem_cons_self, ?_⟩
  have barred := line.barred bare
  unfold body
  rw [row] at barred ⊢
  cases others with
  | nil =>
    cases barred with
    | inl closed =>
      rw [closed]
      exact ⟨[], rfl⟩
    | inr two => exact absurd two (Nat.not_succ_le_self 1)
  | cons next others =>
    refine ⟨joined [.char '|'] (next :: others) ++ if line.closed then [.char '|'] else [], ?_⟩
    show first ++ [.char '|'] ++ joined [.char '|'] (next :: others) ++ _ = _
    simp

/-- The first bar of a line is found where it was written, and what stands in front of it is taken
for what it is. -/
theorem pieces_trim : ∃ body, body? (trim line.write) = Option.some body ∧
    dropBlankEnd (dropEmptyFront (splitWhere (· == '|') body)) = line.row := by
  unfold write
  cases front : line.front with
  | bare =>
    obtain ⟨first, inRow, rest, same⟩ := line.exists_bar front
    refine ⟨line.body, ?_, line.pieces_body⟩
    -- The first measure is grid text, so it is no label.
    have grid := isGridText_of_cells (line.filled first inRow) (line.cells first inRow)
    show body? (trim line.body) = _
    rw [trim_of_none line.solid_body, same, body?_of_front (line.barless inRow),
      line.trim_measure inRow, grid]
    simp
  | bar =>
    -- Nothing stands in front of the first bar, and that leaves an empty piece.
    refine ⟨.char '|' :: line.body, ?_, ?_⟩
    · have solid : ∀ l ∈ Letter.char '|' :: line.body, isBlank l = false := by
        rw [List.forall_mem_cons]
        exact ⟨by decide, line.solid_body⟩
      show body? (trim (.char '|' :: line.body)) = _
      rw [trim_of_none solid]
      exact body?_of_front List.not_mem_nil line.body
    · have empty : splitWhere (· == '|') (.char '|' :: line.body) =
          [] :: splitWhere (· == '|') line.body := rfl
      rw [empty, splitWhere_body]
      exact line.dropBlankEnd_row
  | named label =>
    -- What is left of the label is no grid text, so it is dropped together with its bar.
    refine ⟨line.body, ?_, line.pieces_body⟩
    have barless : Letter.char '|' ∉ label.text.dropWhile isBlank := by
      intro bar
      exact label.barless ((List.dropWhile_suffix _).subset bar)
    have solid : ∀ l ∈ Letter.char '|' :: line.body, isBlank l = false := by
      rw [List.forall_mem_cons]
      exact ⟨by decide, line.solid_body⟩
    have core := trim_append_solid label.some (List.cons_ne_nil _ _) solid
    show body? (trim (label.text ++ [.char '|'] ++ line.body)) = _
    rw [List.append_assoc, List.singleton_append, core, body?_of_front barless, trim_dropWhile,
      label.other]
    simp [label.some]

/-- The measures of a line are read as they were written. -/
theorem measures_trim : measures (trim line.write) = .ok line.row := by
  obtain ⟨body, found, pieces⟩ := line.pieces_trim
  have grid : (!line.row.isEmpty && line.row.all isGridText) = true := by
    have all : ∀ m ∈ line.row, isGridText m = true :=
      fun m here => isGridText_of_cells (line.filled m here) (line.cells m here)
    simpa [line.some] using all
  unfold measures
  rw [found]
  dsimp only
  rw [pieces, if_pos grid]

/-- A line is written without line breaks. -/
theorem oneLine : ∀ l ∈ line.write, isLineBreak l = false := by
  have solid : ∀ {l}, isBlank l = false → isLineBreak l = false := by
    intro l visible
    by_contra ends
    rw [isBlank_of_isLineBreak (by simpa using ends)] at visible
    cases visible
  intro l here
  rcases List.mem_append.1 here with inFront | inBody
  · cases front : line.front with
    | bare =>
      rw [front] at inFront
      cases inFront
    | bar =>
      rw [front] at inFront
      rw [List.mem_singleton.1 inFront]
      decide
    | named label =>
      rw [front] at inFront
      rcases List.mem_append.1 inFront with own | bar
      · exact label.oneLine l own
      · rw [List.mem_singleton.1 bar]
        decide
  · exact solid (line.solid_body l inBody)

/-- A line is not blank, and blanks around it are not seen. -/
theorem visible?_write {before after : Text} (front : ∀ l ∈ before, isBlank l = true)
    (back : ∀ l ∈ after, isBlank l = true) :
    visible? (before ++ line.write ++ after) = Option.some (trim line.write) := by
  have visible : (trim line.write).isEmpty = false := by
    obtain ⟨body, found, -⟩ := line.pieces_trim
    cases core : trim line.write with
    | nil =>
      rw [core] at found
      cases found
    | cons l rest => rfl
  unfold visible?
  dsimp only
  rw [trim_blanks front back, visible]
  rfl

end LineText

/-! ## §3. Lines of a text. -/

/-- Pieces that begin with the same piece, and show the same lines after it. -/
def ShownAlike (pieces others : List Text) : Prop :=
  pieces.headD [] = others.headD [] ∧
    pieces.tail.filterMap visible? = others.tail.filterMap visible?

theorem filterMap_visible? (pieces : List Text) : pieces.filterMap visible? =
    (visible? (pieces.headD [])).toList ++ pieces.tail.filterMap visible? := by
  cases pieces with
  | nil => rfl
  | cons piece pieces => cases visible : visible? piece <;> simp [visible]

namespace ShownAlike

variable {pieces others : List Text}

theorem shown (alike : ShownAlike pieces others) :
    pieces.filterMap visible? = others.filterMap visible? := by
  rw [filterMap_visible? pieces, filterMap_visible? others, alike.1, alike.2]

theorem empty (alike : ShownAlike pieces others) : ShownAlike ([] :: pieces) ([] :: others) :=
  ⟨rfl, alike.shown⟩

theorem consPiece (alike : ShownAlike pieces others) (l : Letter) :
    ShownAlike (consPiece l pieces) (consPiece l others) := by
  have grown : ∀ pieces, Text.consPiece l pieces = (l :: pieces.headD []) :: pieces.tail := by
    intro pieces
    cases pieces <;> rfl
  rw [grown, grown]
  exact ⟨congrArg (l :: ·) alike.1, alike.2⟩

end ShownAlike

/-- A carriage return with a line feed ends one line, and a line break at the end opens no further
one.  What is blank is not shown, so there may as well be a line behind each letter that ends
one. -/
theorem lines_alike (t : Text) : ShownAlike (lines t) (splitWhere isLineBreak t) := by
  fun_induction lines t with
  | case1 => exact ⟨rfl, rfl⟩
  | case2 t ih => exact ⟨rfl, ih.shown⟩
  | case3 l t _ ends ih =>
    rw [splitWhere, if_pos ends]
    exact ih.empty
  | case4 l t _ goesOn ih =>
    rw [splitWhere, if_neg goesOn]
    exact ih.consPiece l

theorem linesOfText_eq (t : Text) : linesOfText t = (splitWhere isLineBreak t).filterMap visible? :=
  (lines_alike t).shown

theorem linesOfText_mid {l : Letter} (ends : isLineBreak l = true) (t rest : Text) :
    linesOfText (t ++ l :: rest) = linesOfText t ++ linesOfText rest := by
  simp only [linesOfText_eq, splitWhere_mid ends, List.filterMap_append]

theorem linesOfText_of_oneLine {t : Text} (oneLine : ∀ l ∈ t, isLineBreak l = false) :
    linesOfText t = (visible? t).toList := by
  rw [linesOfText_eq, splitWhere_of_none oneLine, filterMap_visible?]
  exact List.append_nil _

/-- Blanks in front of the lines are not seen. -/
theorem linesOfText_blanks {blanks : Text} (blank : ∀ l ∈ blanks, isBlank l = true) (t : Text) :
    linesOfText (blanks ++ t) = linesOfText t := by
  induction blanks with
  | nil => rfl
  | cons l blanks ih =>
    obtain ⟨here, others⟩ := List.forall_mem_cons.1 blank
    rw [← ih others, linesOfText_eq, linesOfText_eq, List.cons_append, splitWhere]
    by_cases ends : isLineBreak l = true
    · rw [if_pos ends]
      rfl
    · rw [if_neg ends]
      -- The blank comes in front of a piece, which shows the same.
      cases cut : splitWhere isLineBreak (blanks ++ t) with
      | nil => exact absurd cut (splitWhere_ne_nil _ _)
      | cons piece pieces =>
        have same : visible? (l :: piece) = visible? piece := by
          have one : ∀ d ∈ [l], isBlank d = true := by simpa using here
          have trimmed := trim_blanks one (List.forall_mem_nil _) piece
          rw [List.append_nil] at trimmed
          unfold visible?
          rw [← trimmed]
          rfl
        rw [consPiece, List.filterMap_cons, same, ← List.filterMap_cons]

/-- A line ends where the blanks behind it have a line break. -/
theorem linesOfText_line (line : LineText) {gap : Text} (blank : ∀ l ∈ gap, isBlank l = true)
    {more : Text} (ends : more = [] ∨ ∃ l ∈ gap, isLineBreak l = true) :
    linesOfText (line.write ++ (gap ++ more)) = trim line.write :: linesOfText more := by
  have alone : ∀ {run : Text}, (∀ l ∈ run, isBlank l = true) → (∀ l ∈ run, isLineBreak l = false) →
      linesOfText (line.write ++ run) = [trim line.write] := by
    intro run blank oneLine
    have visible := line.visible?_write (List.forall_mem_nil _) blank
    rw [List.nil_append] at visible
    rw [linesOfText_of_oneLine, visible]
    · rfl
    · intro l here
      exact (List.mem_append.1 here).elim (line.oneLine l) (oneLine l)
  -- The gap belongs to the line up to its first line break, and to the lines below after it.
  obtain ⟨run, rest, rfl, inRun, stops⟩ := exists_run (fun l => !isLineBreak l) gap
  have oneLine : ∀ l ∈ run, isLineBreak l = false := by simpa using inRun
  have blank' : ∀ l ∈ run, isBlank l = true := fun l here => blank l (List.mem_append_left _ here)
  cases rest with
  | nil =>
    have last : more = [] := by
      refine ends.resolve_right ?_
      rintro ⟨l, here, breaks⟩
      rw [oneLine l (by simpa using here)] at breaks
      cases breaks
    rw [last, List.append_nil, List.append_nil, alone blank' oneLine]
    rfl
  | cons l rest =>
    have breaks : isLineBreak l = true := by simpa using stops l rfl
    have blanks : ∀ l ∈ rest, isBlank l = true :=
      fun l here => blank l (List.mem_append_right _ (List.mem_cons_of_mem _ here))
    have whole : line.write ++ (run ++ l :: rest ++ more) =
        line.write ++ run ++ l :: (rest ++ more) := by
      simp
    rw [whole, linesOfText_mid breaks, alone blank' oneLine, linesOfText_blanks blanks]
    rfl

/-! ## §4. Layouts. -/

/-- Blanks between two lines of a text, with a line break among them. -/
structure LineGap where
  letters : Text
  blank : ∀ l ∈ letters, isBlank l = true
  broken : ∃ l ∈ letters, isLineBreak l = true

/-- A text with lines one below the other; there may be blank ones. -/
structure Page where
  before : Text
  first : LineText
  rest : List (LineGap × LineText)
  after : Text
  blankBefore : ∀ l ∈ before, isBlank l = true
  blankAfter : ∀ l ∈ after, isBlank l = true

namespace Page

/-- A line with others below it. -/
def writeOn (after : Text) : LineText → List (LineGap × LineText) → Text
  | line, [] => line.write ++ after
  | line, (gap, next) :: rest => line.write ++ (gap.letters ++ writeOn after next rest)

def write (page : Page) : Text := page.before ++ writeOn page.after page.first page.rest

def lines (page : Page) : List LineText := page.first :: page.rest.map Prod.snd

theorem lines_writeOn {after : Text} (blank : ∀ l ∈ after, isBlank l = true) (line : LineText)
    (rest : List (LineGap × LineText)) :
    linesOfText (writeOn after line rest) =
      (line :: rest.map Prod.snd).map fun line => trim line.write := by
  induction rest generalizing line with
  | nil =>
    have last := linesOfText_line line blank (.inl rfl)
    rw [List.append_nil] at last
    exact last
  | cons p rest ih =>
    obtain ⟨gap, next⟩ := p
    rw [writeOn, linesOfText_line line gap.blank (.inr gap.broken), ih next]
    rfl

theorem lines_write (page : Page) :
    linesOfText page.write = page.lines.map fun line => trim line.write := by
  unfold write
  rw [linesOfText_blanks page.blankBefore]
  exact lines_writeOn page.blankAfter page.first page.rest

end Page

/-- A text of a list: a line with blanks around it, or nothing but blanks. -/
structure Entry where
  before : Text
  line : Option LineText
  after : Text
  blankBefore : ∀ l ∈ before, isBlank l = true
  blankAfter : ∀ l ∈ after, isBlank l = true

namespace Entry

def write (entry : Entry) : Text :=
  entry.before ++ entry.line.elim [] LineText.write ++ entry.after

theorem visible?_write (entry : Entry) :
    visible? entry.write = entry.line.map fun line => trim line.write := by
  unfold write
  cases entry.line with
  | none =>
    have trimmed := trim_blanks entry.blankBefore entry.blankAfter []
    unfold visible?
    dsimp only [Option.elim]
    rw [trimmed]
    rfl
  | some line => exact line.visible?_write entry.blankBefore entry.blankAfter

end Entry

/-- A tab as it is written: a text with all lines, or a list with a text for each line. -/
inductive Layout where
  | text (page : Page)
  | list (entries : List Entry)

namespace Layout

def write : Layout → Datum
  | .text page => .text page.write
  | .list entries => .list (entries.map fun entry => .text entry.write)

def lines : Layout → List LineText
  | .text page => page.lines
  | .list entries => entries.filterMap Entry.line

/-- The measures of the lines. -/
def table (layout : Layout) : List (List Text) := layout.lines.map LineText.row

/-- The lines of a tab are found in all layouts. -/
theorem lines_write (layout : Layout) :
    linesOfDatum layout.write = .ok (layout.lines.map fun line => trim line.write) := by
  cases layout with
  | text page => exact congrArg Except.ok page.lines_write
  | list entries =>
    have texts : (entries.map fun entry => Datum.text entry.write).mapM Datum.asText =
        .ok (entries.map Entry.write) := by
      induction entries with
      | nil => rfl
      | cons entry entries ih =>
        rw [List.map_cons, List.mapM_cons, ih]
        rfl
    have read : linesOfDatum (write (.list entries)) =
        .ok ((entries.map Entry.write).filterMap visible?) := by
      show (((entries.map fun entry => Datum.text entry.write).mapM Datum.asText) >>=
        fun texts => pure (texts.filterMap visible?)) = _
      rw [texts]
      rfl
    rw [read, List.filterMap_map]
    show Except.ok _ = Except.ok (List.map _ (entries.filterMap Entry.line))
    rw [List.map_filterMap]
    exact congrArg _ (List.filterMap_congr fun entry _ => entry.visible?_write)

/-- And they are ruled as they were written. -/
theorem ruled {layout : Layout} {widths : List Nat} (some : layout.table ≠ [])
    (aligned : ∀ row ∈ layout.table, row.map List.length = widths) :
    Ruled (layout.lines.map fun line => trim line.write) layout.table widths where
  some := by
    unfold table at some
    simpa using some
  read := by
    unfold table
    induction layout.lines with
    | nil => rfl
    | cons line lines ih =>
      rw [List.map_cons, List.map_cons, List.mapM_cons, line.measures_trim, ih]
      rfl
  aligned := aligned

end Layout

/-- The steps of a measure: one for each column. -/
def stepsOf (span : Int) (width : Nat) : List Quantity :=
  List.replicate width (.whole (span / width))

/-- What is written is read, in all layouts: the measures one after the other, and as many steps as
each is wide. -/
theorem grid_layout (layout : Layout) {widths : List Nat} {t b : Int} {uniform : Bool}
    (some : layout.table ≠ []) (aligned : ∀ row ∈ layout.table, row.map List.length = widths)
    (beats : 1 ≤ b) (divided : ∀ w ∈ widths, (w : Int) ∣ t * b)
    (even : uniform = true → ∀ w ∈ widths, ∀ w' ∈ widths, w = w') :
    grid layout.write (.whole layout.table.length) (.whole t) (.whole b) uniform =
      .ok ⟨layout.table.map List.flatten, widths.flatMap (stepsOf (t * b))⟩ := by
  have counted : checkLineCount (.whole layout.table.length)
      (layout.lines.map fun line => trim line.write) = .ok () := by
    rw [checkLineCount_ok_iff, List.length_map]
    exact (List.length_map _).symm
  have each : List.Forall₂ (Divides (.whole (t * b))) widths (widths.map (stepsOf (t * b))) := by
    rw [List.forall₂_map_right_iff, List.forall₂_same]
    intro w here
    exact divides_whole_iff.2 ⟨Int.emod_eq_zero_of_dvd (divided w here), rfl⟩
  refine grid_ok_iff.2 ⟨_, layout.lines_write, counted, gridOfLines_ok_iff.2
    ⟨_, widths, _, Layout.ruled some aligned, ?_, ⟨_, _, rfl, ?_, rfl, each⟩, ?_⟩⟩
  · intro uniform w here
    cases widths with
    | nil => cases here
    | cons first widths => exact even uniform w here first List.mem_cons_self
  · rw [Quantity.le_whole, decide_eq_false_iff_not]
    omega
  · rw [List.flatMap_def]

/-- Three lines of two measures, each written in its own way. -/
def mixedLayout : Layout := .text {
  before := "\n  "
  first := {
    front := .named ⟨"hat ", by decide, by decide, by decide, by decide⟩
    row := ["1-1-", "0-"]
    closed := true
    some := by decide
    filled := by decide
    cells := by decide
    barred := nofun }
  rest := [(⟨" \r\n\n ", by decide, by decide⟩, {
    front := .bare
    row := ["---2", "-1"]
    closed := false
    some := by decide
    filled := by decide
    cells := by decide
    barred := fun _ => .inr (by decide) }), (⟨"\n", by decide, by decide⟩, {
    front := .bar
    row := ["9---", "--"]
    closed := false
    some := by decide
    filled := by decide
    cells := by decide
    barred := nofun })]
  after := "\n"
  blankBefore := by decide
  blankAfter := by decide }

theorem mixedLayout_read :
    mixedLayout.write = .text "\n  hat |1-1-|0-| \r\n\n ---2|-1\n|9---|--\n" ∧
      mixedLayout.table =
        ([["1-1-", "0-"], ["---2", "-1"], ["9---", "--"]] : List (List Text)) ∧
      (∀ row ∈ mixedLayout.table, row.map List.length = [4, 2]) ∧
      grid mixedLayout.write (.whole 3) (.whole 192) (.whole 4) false =
        .ok ⟨["1-1-0-", "---2-1", "9-----"],
          [192, 192, 192, 192, 384, 384].map Quantity.whole⟩ := by
  have aligned : ∀ row ∈ mixedLayout.table, row.map List.length = [4, 2] := by
    decide
  have divided : ∀ w ∈ ([4, 2] : List Nat), (w : Int) ∣ 192 * 4 := by
    decide
  exact ⟨rfl, rfl, aligned,
    grid_layout mixedLayout (by decide) aligned (by decide) divided (by decide)⟩

/-- A label is looked at without the blanks around it: a digit with a blank behind it is not grid
text, but stands for a measure in front of the first bar. -/
theorem digitLabel_measured :
    trim "7 " ≠ [] ∧ Letter.char '|' ∉ ("7 " : Text) ∧
      (∀ l ∈ ("7 " : Text), isLineBreak l = false) ∧ isGridText "7 " = false ∧
      grid (.text "7 |--|") (.whole 1) (.whole 192) (.whole 4) false =
        .ok ⟨["7--"], [768, 384, 384].map Quantity.whole⟩ ∧
      grid (.text "7 |--|") (.whole 1) (.whole 192) (.whole 4) false ≠
        .ok ⟨["--"], [2].flatMap (stepsOf (192 * 4))⟩ := by
  have read : grid (.text "7 |--|") (.whole 1) (.whole 192) (.whole 4) false =
      .ok ⟨["7--"], [768, 384, 384].map Quantity.whole⟩ := rfl
  refine ⟨by decide, by decide, by decide, by decide, read, ?_⟩
  rw [read]
  intro same
  cases same

end Tab
end Plectrum
