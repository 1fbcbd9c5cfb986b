/-
  Plectrum.Proofs.BarLines
  ────────────────────────
  **Tabs are continued at bars.**

  The lines of a tab may go on with the lines of another one, with one bar between them.  What is
  read goes on in the same way: the measures, the steps that they are divided into, and the columns.
  Nothing that is checked looks across the bar, but that the measures of strings have one width.

  Main results:
    * `Tab.measures_barred` — the measures of a line are those between its bars;
    * `Tab.grid_continued` — tabs of the same beats that are read are read together;
    * `Grid.columns_continued` — columns by columns;
    * `Play.checkPitches_continued` — and together they are within the range of pitches.
-/
import Plectrum.Proofs.Layouts
import Plectrum.Voice.Tab

namespace Plectrum

open Text

namespace Tab

/-! ## §1. Lines. -/

/-- A line with a bar at both ends. -/
def barred (t : Text) : Text := .char '|' :: t ++ [.char '|']

/-- The pieces between the bars. -/
def bars (t : Text) : List Text := splitWhere (· == '|') t

/-- Two lines as one, with a bar between them. -/
def continued (t next : Text) : Text := t ++ .char '|' :: next

theorem bars_continued (t next : Text) : bars (continued t next) = bars t ++ bars next :=
  splitWhere_mid (by decide) t next

/-- The measures of a line are the pieces between its bars. -/
theorem measures_barred (t : Text) :
    measures (barred t) =
      if (bars t).all isGridText then .ok (bars t) else .error (.badTabLine (barred t)) := by
  have body : body? (barred t) = some (barred t) := rfl
  have front : splitWhere (· == '|') (barred t) = [] :: splitWhere (· == '|') (t ++ [.char '|']) :=
    rfl
  -- The bars at both ends leave an empty piece each, and these are the pieces that are dropped.
  have pieces : dropBlankEnd (dropEmptyFront (splitWhere (· == '|') (barred t))) = bars t := by
    rw [front, splitWhere_mid (by decide)]
    exact dropBlankEnd_concat (bars t)
  have some : (bars t).isEmpty = false := by
    rw [List.isEmpty_eq_false_iff]
    exact splitWhere_ne_nil _ t
  unfold measures
  rw [body]
  dsimp only
  rw [pieces, some]
  rfl

theorem measures_barred_ok_iff {t : Text} {row : List Text} :
    measures (barred t) = .ok row ↔ row = bars t ∧ ∀ m ∈ bars t, isGridText m = true := by
  rw [measures_barred]
  by_cases fits : (bars t).all isGridText = true
  · rw [if_pos fits, Except.ok.injEq]
    exact ⟨fun same => ⟨same.symm, List.all_eq_true.1 fits⟩, fun h => h.1.symm⟩
  · rw [if_neg fits]
    exact ⟨nofun, fun h => absurd (List.all_eq_true.2 h.2) fits⟩

/-- The tables of lines with bars at both ends. -/
theorem mapM_barred_ok_iff {texts : List Text} {table : List (List Text)} :
    (texts.map barred).mapM measures = .ok table ↔
      table = texts.map bars ∧ ∀ t ∈ texts, ∀ m ∈ bars t, isGridText m = true := by
  rw [mapM_ok_iff_forall₂, List.forall₂_map_left_iff]
  constructor
  · intro each
    induction each with
    | nil => exact ⟨rfl, nofun⟩
    | cons here _ ih =>
      obtain ⟨rfl, fits⟩ := measures_barred_ok_iff.1 here
      exact ⟨congrArg _ ih.1, List.forall_mem_cons.2 ⟨fits, ih.2⟩⟩
  · rintro ⟨rfl, fits⟩
    rw [List.forall₂_map_right_iff, List.forall₂_same]
    intro t here
    exact measures_barred_ok_iff.2 ⟨rfl, fits t here⟩

/-! ## §2. Grids. -/

variable {texts nexts : List Text}

/-- Two lists of lines as one, line by line. -/
def continuedLines (texts nexts : List Text) : List Text := List.zipWith continued texts nexts

theorem mem_continuedLines {line : Text} (here : line ∈ continuedLines texts nexts) :
    ∃ t ∈ texts, ∃ next ∈ nexts, line = continued t next := by
  induction texts generalizing nexts with
  | nil => cases here
  | cons t texts ih =>
    cases nexts with
    | nil => cases here
    | cons next nexts =>
      rcases List.mem_cons.1 here with rfl | later
      · exact ⟨t, List.mem_cons_self, next, List.mem_cons_self, rfl⟩
      · obtain ⟨t', inTexts, next', inNexts, same⟩ := ih later
        exact ⟨t', List.mem_cons_of_mem _ inTexts, next', List.mem_cons_of_mem _ inNexts, same⟩

/-- Lines that are ruled are ruled together. -/
theorem Ruled.continued {table table' : List (List Text)} {widths widths' : List Nat}
    (ruled : Ruled (texts.map barred) table widths)
    (ruled' : Ruled (nexts.map barred) table' widths') :
    Ruled ((continuedLines texts nexts).map barred) ((continuedLines texts nexts).map bars)
      (widths ++ widths') := by
  obtain ⟨rfl, fits⟩ := mapM_barred_ok_iff.1 ruled.read
  obtain ⟨rfl, fits'⟩ := mapM_barred_ok_iff.1 ruled'.read
  refine ⟨?_, mapM_barred_ok_iff.2 ⟨rfl, ?_⟩, ?_⟩
  · have some := ruled.some
    have some' := ruled'.some
    unfold continuedLines
    simp_all [List.zipWith_eq_nil_iff]
  · intro line here m inLine
    obtain ⟨t, inTexts, next, inNexts, rfl⟩ := mem_continuedLines here
    rw [bars_continued] at inLine
    exact (List.mem_append.1 inLine).elim (fits t inTexts m) (fits' next inNexts m)
  · intro row here
    obtain ⟨line, inLines, rfl⟩ := List.mem_map.1 here
    obtain ⟨t, inTexts, next, inNexts, rfl⟩ := mem_continuedLines inLines
    rw [bars_continued, List.map_append, ruled.aligned _ (List.mem_map_of_mem inTexts),
      ruled'.aligned _ (List.mem_map_of_mem inNexts)]

/-- Measures that are timed are timed together. -/
theorem Timed.continued {ticks beats : Datum} {widths widths' : List Nat}
    {parts parts' : List (List Quantity)} (timed : Timed ticks beats widths parts)
    (timed' : Timed ticks beats widths' parts') :
    Timed ticks beats (widths ++ widths') (parts ++ parts') := by
  obtain ⟨b, span, number, forward, product, each⟩ := timed
  obtain ⟨_, _, _, _, product', each'⟩ := timed'
  -- The same ticks and beats span the same on both sides of the bar.
  rw [product] at product'
  cases product'
  exact ⟨b, span, number, forward, product, List.rel_append each each'⟩

/-- The rows of two grids as those of one. -/
theorem rows_continued (texts nexts : List Text) :
    ((continuedLines texts nexts).map bars).map List.flatten =
      List.zipWith (· ++ ·) ((texts.map bars).map List.flatten)
        ((nexts.map bars).map List.flatten) := by
  unfold continuedLines
  rw [List.map_zipWith, List.map_zipWith, List.zipWith_map, List.zipWith_map]
  simp [bars_continued]

/-- Each measure of some lines is as wide as each of others. -/
def SameWidth (texts nexts : List Text) : Prop :=
  ∀ t ∈ texts, ∀ next ∈ nexts, ∀ m ∈ bars t, ∀ m' ∈ bars next, m.length = m'.length

theorem Uniform.continued {table table' : List (List Text)} {widths widths' : List Nat}
    (ruled : Ruled (texts.map barred) table widths)
    (ruled' : Ruled (nexts.map barred) table' widths') (same : SameWidth texts nexts)
    (even : Uniform widths) : Uniform (widths ++ widths') := by
  obtain ⟨rfl, -⟩ := mapM_barred_ok_iff.1 ruled.read
  obtain ⟨rfl, -⟩ := mapM_barred_ok_iff.1 ruled'.read
  -- Any line of each shows the widths of its measures.
  obtain ⟨t, texts', rfl⟩ := List.exists_cons_of_ne_nil (List.map_eq_nil_iff.not.1 ruled.some)
  obtain ⟨next, nexts', rfl⟩ := List.exists_cons_of_ne_nil (List.map_eq_nil_iff.not.1 ruled'.some)
  obtain rfl := ruled.aligned _ List.mem_cons_self
  obtain rfl := ruled'.aligned _ List.mem_cons_self
  obtain ⟨m, ms, measures⟩ := List.exists_cons_of_ne_nil (splitWhere_ne_nil (· == '|') t)
  have first : bars t = m :: ms := measures
  have head : ((bars t).map List.length ++ (bars next).map List.length).headD 0 = m.length := by
    rw [first]
    rfl
  intro w here
  rw [head]
  rcases List.mem_append.1 here with own | later
  · rw [even w own, first]
    rfl
  · obtain ⟨m', inNext, rfl⟩ := List.mem_map.1 later
    have inFirst : m ∈ bars t := first ▸ List.mem_cons_self
    exact (same t List.mem_cons_self next List.mem_cons_self m inFirst m' inNext).symm

end Tab

/-- Two grids as one, the second after the first. -/
def Grid.continued (g next : Grid) : Grid :=
  ⟨List.zipWith (· ++ ·) g.rows next.rows, g.steps ++ next.steps⟩

namespace Tab

/-- Tabs that are read with the same beats are read together. -/
theorem grid_continued {texts nexts : List Text} {tab next both ticks beats : Datum} {count : Nat}
    {uniform : Bool} {g g' : Grid} (lines : linesOfDatum tab = .ok (texts.map barred))
    (lines' : linesOfDatum next = .ok (nexts.map barred))
    (linesBoth : linesOfDatum both = .ok ((continuedLines texts nexts).map barred))
    (same : uniform = true → SameWidth texts nexts)
    (read : grid tab (.whole count) ticks beats uniform = .ok g)
    (read' : grid next (.whole count) ticks beats uniform = .ok g') :
    grid both (.whole count) ticks beats uniform = .ok (g.continued g') := by
  obtain ⟨_, lines₁, counted, read⟩ := grid_ok_iff.1 read
  obtain ⟨_, lines₂, counted', read'⟩ := grid_ok_iff.1 read'
  rw [lines] at lines₁
  rw [lines'] at lines₂
  cases lines₁
  cases lines₂
  obtain ⟨table, widths, parts, ruled, even, timed, rfl⟩ := gridOfLines_ok_iff.1 read
  obtain ⟨table', widths', parts', ruled', -, timed', rfl⟩ := gridOfLines_ok_iff.1 read'
  have countedBoth : checkLineCount (.whole count) ((continuedLines texts nexts).map barred) =
      .ok () := by
    rw [checkLineCount_ok_iff, List.length_map] at counted counted' ⊢
    unfold continuedLines
    simp [counted, counted']
  refine grid_ok_iff.2 ⟨_, linesBoth, countedBoth, gridOfLines_ok_iff.2 ⟨_, _, _,
    ruled.continued ruled', fun uniform => ?_, timed.continued timed', ?_⟩⟩
  · exact .continued ruled ruled' (same uniform) (even uniform)
  · obtain ⟨rfl, -⟩ := mapM_barred_ok_iff.1 ruled.read
    obtain ⟨rfl, -⟩ := mapM_barred_ok_iff.1 ruled'.read
    rw [rows_continued, List.flatten_append]
    rfl

end Tab

/-! ## §3. Columns. -/

namespace Grid

variable {table table' : List Text}

theorem columns_eq_zip (g : Grid) : g.columns = g.steps.zip (crossed g.steps.length g.rows) :=
  List.zip_of_prod g.columns_steps g.columns_crossed

/-- In front of the bar the columns are those of the first table. -/
theorem column_left {i : Nat} (length : table.length = table'.length)
    (reaches : ∀ row ∈ table, i < row.length) :
    (List.zipWith (· ++ ·) table table').filterMap (·[i]?) = table.filterMap (·[i]?) := by
  induction table generalizing table' with
  | nil => rfl
  | cons row table ih =>
    cases table' with
    | nil => cases length
    | cons row' table' =>
      obtain ⟨here, others⟩ := List.forall_mem_cons.1 reaches
      have rest := ih (Nat.succ.inj length) others
      simp [List.getElem?_append_left here, rest, here]

/-- Behind the bar they are those of the second table. -/
theorem column_right {width : Nat} (length : table.length = table'.length)
    (rectangular : ∀ row ∈ table, row.length = width) (i : Nat) :
    (List.zipWith (· ++ ·) table table').filterMap (·[width + i]?) = table'.filterMap (·[i]?) := by
  induction table generalizing table' with
  | nil =>
    rw [List.eq_nil_of_length_eq_zero length.symm]
    rfl
  | cons row table ih =>
    cases table' with
    | nil => cases length
    | cons row' table' =>
      obtain ⟨rfl, others⟩ := List.forall_mem_cons.1 rectangular
      have rest := ih (Nat.succ.inj length) others
      have here : (row ++ row')[row.length + i]? = row'[i]? := by simp [List.getElem?_append_right]
      simp [List.filterMap_cons, rest, here]

theorem crossed_continued {width : Nat} (length : table.length = table'.length)
    (rectangular : ∀ row ∈ table, row.length = width) (more : Nat) :
    crossed (width + more) (List.zipWith (· ++ ·) table table') =
      crossed width table ++ crossed more table' := by
  -- The places in front of the bar, and those behind it, which are counted from the bar.
  unfold crossed
  rw [List.range_add, List.map_append, List.map_map]
  congr 1
  · refine List.map_congr_left fun i within => column_left length fun row here => ?_
    rw [rectangular row here]
    exact List.mem_range.1 within
  · exact List.map_congr_left fun i _ => column_right length rectangular i

/-- The columns of a continued grid are those of both grids. -/
theorem columns_continued {g next : Grid} (length : g.rows.length = next.rows.length)
    (rectangular : ∀ row ∈ g.rows, row.length = g.steps.length) :
    (g.continued next).columns = g.columns ++ next.columns := by
  rw [columns_eq_zip, columns_eq_zip, columns_eq_zip]
  show (g.steps ++ next.steps).zip (crossed (g.steps ++ next.steps).length
    (List.zipWith (· ++ ·) g.rows next.rows)) = _
  rw [List.length_append, crossed_continued length rectangular]
  refine List.zip_append ?_
  unfold crossed
  simp

end Grid

/-! ## §4. Pitches. -/

namespace Play

/-- The highest of some numbers and others is the highest of some, or of the others. -/
theorem max?_getD_append (ms ns : List Nat) :
    (ms ++ ns).max?.getD 0 = max (ms.max?.getD 0) (ns.max?.getD 0) := by
  have first : ∀ m (ms : List Nat), (m :: ms).max?.getD 0 = max m (ms.max?.getD 0) := by
    intro m ms
    rw [List.max?_cons]
    cases ms.max? <;> simp
  induction ms with
  | nil => simp
  | cons m ms ih => rw [List.cons_append, first, first, ih, Nat.max_assoc]

/-- The highest digit of a continued line is the highest digit in front of the bar, or behind it. -/
theorem highestDigit_append {row next : Text} {m n : Nat} (here : highestDigit row = .ok m)
    (there : highestDigit next = .ok n) : highestDigit (row ++ next) = .ok (max m n) := by
  unfold highestDigit at here there ⊢
  obtain ⟨digits, read, same⟩ := bind_ok here
  obtain ⟨digits', read', same'⟩ := bind_ok there
  cases same
  cases same'
  rw [List.filter_append, List.mapM_append, read, read', ← max?_getD_append]
  rfl

theorem checkPitches_cons_ok_iff {style : TabStyle} {line : Nat} {root : Quantity}
    {roots : List Quantity} {row : Text} {rows : List Text} :
    checkPitches style line (root :: roots) (row :: rows) = .ok () ↔
      (∃ highest pitch velocity, highestDigit row = .ok highest ∧
        style.strike root (.whole highest) = .ok (pitch, velocity) ∧
        (Quantity.whole 127).lt pitch = false) ∧
        checkPitches style (line + 1) roots rows = .ok () := by
  rw [checkPitches]
  constructor
  · intro passed
    obtain ⟨highest, read, passed⟩ := bind_ok passed
    obtain ⟨⟨pitch, velocity⟩, top, passed⟩ := bind_ok passed
    obtain ⟨within, passed⟩ := check_ok passed
    exact ⟨⟨highest, pitch, velocity, read, top, by simpa using within⟩, passed⟩
  · rintro ⟨⟨highest, pitch, velocity, read, top, within⟩, passed⟩
    rw [read]
    show (style.strike root (.whole highest) >>= _) = _
    rw [top]
    show (if (Quantity.whole 127).lt pitch = true then _ else _) = _
    rw [within]
    exact passed

/-- What is within the range of pitches in front of the bar and behind it is so together. -/
theorem checkPitches_continued {style : TabStyle} {line : Nat} {roots : List Quantity}
    {rows nexts : List Text} (checked : checkPitches style line roots rows = .ok ())
    (checked' : checkPitches style line roots nexts = .ok ()) :
    checkPitches style line roots (List.zipWith (· ++ ·) rows nexts) = .ok () := by
  induction roots generalizing line rows nexts with
  | nil => rfl
  | cons root roots ih =>
    cases rows with
    | nil => rfl
    | cons row rows =>
      cases nexts with
      | nil => rfl
      | cons next nexts =>
        obtain ⟨⟨m, pitch, velocity, read, top, within⟩, passed⟩ :=
          checkPitches_cons_ok_iff.1 checked
        obtain ⟨⟨n, pitch', velocity', read', top', within'⟩, passed'⟩ :=
          checkPitches_cons_ok_iff.1 checked'
        have highest := highestDigit_append read read'
        refine checkPitches_cons_ok_iff.2 ⟨?_, ih passed passed'⟩
        -- The highest digit is that of one side of the bar, which was checked.
        by_cases le : m ≤ n
        · rw [Nat.max_eq_right le] at highest
          exact ⟨n, pitch', velocity', highest, top', within'⟩
        · rw [Nat.max_eq_left (Nat.le_of_not_le le)] at highest
          exact ⟨m, pitch, velocity, highest, top, within⟩

end Play
end Plectrum
