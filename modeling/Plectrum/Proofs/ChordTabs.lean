/-
  Plectrum.Proofs.ChordTabs
  ─────────────────────────
  **A tab that holds a chord down is a pattern over that chord.**

  If each line of a tab has one digit at most, the tab holds one chord down from beginning to end,
  and its columns say when which strings of it are struck.  So it is a pattern as well: the columns
  that strike something are its groups.  Tabs and patterns are played by two loops.  One carries a
  tick along and adds a step for each column, and the other computes the time of each group from its
  offset; one looks for the string of a line, and the other for the string of a number.  Where ticks
  are whole and nothing strays, the two loops do the same.

  A column that strikes nothing is a step of the first loop alone.  It leaves nothing behind but the
  last strike, and without a spread of time this holds no later strike back.  So the voices are
  compared without their last strikes.

  Main results:
    * `Play.cells_level` — a column does what the strokes of its group do;
    * `Play.columns_level` — the columns of a tab do what the groups of its pattern do;
    * `Session.tab_as_pattern` — at every point of a session the tab and the pattern leave the same
      music.
-/
import Mathlib.Tactic.FieldSimp
import Mathlib.Tactic.LinearCombination
import Plectrum.Proofs.LastStrokes
import Plectrum.Proofs.Continued
import Plectrum.Proofs.SteadyStrikes

namespace Plectrum

open Text

/-! ## §1. Tabs as patterns. -/

namespace Tab

/-- The values of the digits of a line. -/
def digits (row : Text) : List Nat := row.filterMap digitValue?

/-- A line that uses one digit at most, as often as it likes. -/
def OneDigit (row : Text) : Prop := ∀ d ∈ digits row, ∀ e ∈ digits row, d = e

instance (row : Text) : Decidable (OneDigit row) :=
  inferInstanceAs (Decidable (∀ d ∈ digits row, ∀ e ∈ digits row, d = e))

/-- The fret that a line of one digit holds down; none if the line is silent. -/
def heldFret (row : Text) : Option Nat := (digits row).head?

theorem OneDigit.heldFret {row : Text} (one : OneDigit row) {l : Letter} {d : Nat} (here : l ∈ row)
    (value : digitValue? l = some d) : heldFret row = some d := by
  have inDigits : d ∈ digits row := List.mem_filterMap.2 ⟨l, here, value⟩
  unfold Tab.heldFret
  cases all : digits row with
  | nil =>
    rw [all] at inDigits
    cases inDigits
  | cons first rest =>
    have inAll : first ∈ digits row := all ▸ List.mem_cons_self
    exact congrArg some (one first inAll d inDigits)

/-- The strokes of a column: one for each cell that is not silent, from line `line` down.  Lines are
counted from zero, and strings from one. -/
def strokesFrom (line : Nat) (column : Text) : List Stroke :=
  (column.zipIdx line).filterMap fun (l, i) =>
    if l == '-' then none else some ⟨i + 1, TabStyle.fretVelocity.toNat⟩

theorem strokesFrom_silent {line : Nat} {l : Letter} {column : Text} (silent : (l == '-') = true) :
    strokesFrom line (l :: column) = strokesFrom (line + 1) column := by
  unfold strokesFrom
  rw [List.zipIdx_cons]
  exact List.filterMap_cons_none (if_pos silent)

theorem strokesFrom_struck {line : Nat} {l : Letter} {column : Text} (struck : ¬(l == '-') = true) :
    strokesFrom line (l :: column) =
      ⟨line + 1, TabStyle.fretVelocity.toNat⟩ :: strokesFrom (line + 1) column := by
  unfold strokesFrom
  rw [List.zipIdx_cons]
  exact List.filterMap_cons_some (if_neg struck)

/-- The group of a column at a place among `width` columns that span some beats, unless it strikes
nothing. -/
def groupAt (beats width : Nat) : Text × Nat → Option Group
  | (column, i) =>
    match strokesFrom 0 column with
    | [] => none
    | strokes => some ⟨1 + (i : Rat) * beats / width, strokes⟩

theorem groupAt_silent {beats width i : Nat} {column : Text} (silent : strokesFrom 0 column = []) :
    groupAt beats width (column, i) = none := by
  unfold groupAt
  dsimp only
  rw [silent]

theorem groupAt_struck {beats width i : Nat} {column : Text} (struck : strokesFrom 0 column ≠ []) :
    groupAt beats width (column, i) =
      some ⟨1 + (i : Rat) * beats / width, strokesFrom 0 column⟩ := by
  obtain ⟨first, rest, strokes⟩ := List.exists_cons_of_ne_nil struck
  unfold groupAt
  dsimp only
  rw [strokes]

/-- A measure of a tab as a pattern: a group for each column that strikes something. -/
def asPattern (beats : Nat) (rows : List Text) : Pattern :=
  let width := (rows.headD []).length
  ⟨(Grid.crossed width rows).zipIdx.filterMap (groupAt beats width)⟩

/-- The strings of a column stand in the rows, line by line. -/
theorem column_held {rows : List Text} {width : Nat}
    (rectangular : ∀ row ∈ rows, row.length = width) {column : Text}
    (here : column ∈ Grid.crossed width rows) :
    column.length = rows.length ∧ ∀ (line : Nat) (l : Letter), column[line]? = some l →
      ∃ row, rows[line]? = some row ∧ l ∈ row := by
  obtain ⟨i, within, rfl⟩ := List.mem_map.1 here
  have reaches : ∀ row ∈ rows, i < row.length := by
    intro row inRows
    rw [rectangular row inRows]
    exact List.mem_range.1 within
  refine ⟨Grid.length_column reaches, fun line l cell => ?_⟩
  rw [Grid.getElem?_column reaches, Option.bind_eq_some_iff] at cell
  obtain ⟨row, rowed, cell⟩ := cell
  exact ⟨row, rowed, List.mem_of_getElem? cell⟩

end Tab

namespace Chord

/-- What spells a fret in a chord, or that there is none. -/
def Spells : Option Nat → Datum → Prop
  | none, item => LeavesAlone item
  | some d, item => fretNumber? item = .ok (some (d : Int))

/-- A chord that spells what the lines of a tab hold down.  Chords begin with the lowest string, and
tabs with the highest. -/
def SpellsRows (rows : List Text) (chord : Datum) : Prop :=
  ∃ entries, items chord = .ok entries ∧
    List.Forall₂ Spells (rows.reverse.map Tab.heldFret) entries

/-- The chord that the lines of a tab hold down, as a list. -/
def ofRows (rows : List Text) : Datum :=
  .list (rows.reverse.map fun row =>
    match Tab.heldFret row with
    | some d => .whole d
    | none => .text [.char '-'])

/-- It spells what they hold down. -/
theorem spellsRows_ofRows (rows : List Text) : SpellsRows rows (ofRows rows) := by
  refine ⟨_, rfl, ?_⟩
  rw [List.forall₂_map_left_iff, List.forall₂_map_right_iff, List.forall₂_same]
  intro row _
  cases Tab.heldFret row with
  | none => exact .inr rfl
  | some d => rfl

/-- What leaves a string alone spells no number. -/
theorem fretNumber?_alone {item : Datum} (alone : LeavesAlone item) :
    fretNumber? item = .ok none := by
  rcases alone with rfl | rfl <;> rfl

/-- A fret that is spelled is read. -/
theorem fret_spelled {chord item : Datum} {root : Quantity} {d : Nat}
    (spells : Spells (some d) item) : Yields (fret chord root item) fun f => f = some (d : Int) := by
  have held : ¬LeavesAlone item := by
    intro alone
    change fretNumber? item = _ at spells
    rw [fretNumber?_alone alone] at spells
    cases spells
  intro f read
  obtain ⟨n, -, rfl, number, -⟩ := fret_held held f read
  cases spells.symm.trans number
  rfl

/-- A chord that spells what the lines of a tab hold down is read as their frets. -/
theorem frets_held {roots : List Quantity} {rows : List Text} {chord : Datum}
    {fs : List (Option Int)} (count : rows.length = roots.length) (spelled : SpellsRows rows chord)
    (read : frets roots chord = .ok fs) {line d : Nat} {row : Text}
    (rowed : rows[line]? = some row) (held : Tab.heldFret row = some d) :
    fs[roots.length - line - 1]? = some (some (d : Int)) := by
  obtain ⟨entries, itemsHere, spells⟩ := spelled
  obtain ⟨entries', itemsHere', size, each⟩ := frets_items roots chord fs read
  cases itemsHere.symm.trans itemsHere'
  have inRows := (List.getElem?_eq_some_iff.1 rowed).1
  have inRoots : roots.length - line - 1 < roots.length := by omega
  have inEntries : roots.length - line - 1 < entries.length := by omega
  have inHeld : roots.length - line - 1 < (rows.reverse.map Tab.heldFret).length := by
    rw [List.length_map, List.length_reverse]
    omega
  -- The line is as far from the top as its string is from the end of the chord.
  have fromEnd : (rows.reverse.map Tab.heldFret)[roots.length - line - 1]? = some (some d) := by
    rw [List.getElem?_map, List.getElem?_reverse (by omega)]
    have index : rows.length - 1 - (roots.length - line - 1) = line := by omega
    rw [index, rowed, Option.map_some, held]
  have spell := spells.get inHeld inEntries
  have isHeld := List.getElem?_eq_some_iff.1 fromEnd
  rw [List.get_eq_getElem, isHeld.2] at spell
  obtain ⟨f, fretted, isFret⟩ := each _ _ _ (List.getElem?_eq_getElem inRoots)
    (List.getElem?_eq_getElem inEntries)
  rw [fretted, fret_spelled spell f isFret]

end Chord

/-! ## §2. Voices on one level. -/

/-- Two players in a measure that began with a voice.  They have the same music so far, and no last
strike holds anything back; the second one is still where the measure began. -/
structure Player.Level {γ : Type} (v : Voice) (p p' : Player γ) : Prop where
  same : p.voice.placeless = p'.voice.placeless
  config : p.voice.config = v.config
  tuning : p.voice.tuning = v.tuning
  begun : p'.voice.clock = v.clock ∧ p'.voice.skip = .whole 0 ∧ p'.voice.measure = v.measure
  inert : p.voice.lastStrike.Inert
  inert' : p'.voice.lastStrike.Inert

namespace Player.Level

variable {γ : Type} {v : Voice} {p p' : Player γ} {nominal nominal' : Quantity} {n : Int}

theorem config' (level : Level v p p') : p'.voice.config = v.config := by
  have same : p.voice.placeless.config = p'.voice.placeless.config := congrArg _ level.same
  exact same.symm.trans level.config

theorem tuning' (level : Level v p p') : p'.voice.tuning = v.tuning := by
  have same : p.voice.placeless.tuning = p'.voice.placeless.tuning := congrArg _ level.same
  exact same.symm.trans level.tuning

/-- The first player may land at a whole tick alone. -/
theorem landed (level : Level v p p') (stands : nominal.StandsAt n) :
    Level v { p with voice := p.voice.struckAt nominal (max 0 n) } p' :=
  ⟨level.same, level.config, level.tuning, level.begun, LastStrike.inert_of_standsAt stands,
    level.inert'⟩

/-- And so may the second one. -/
theorem landed' (level : Level v p p') (stands : nominal'.StandsAt n) :
    Level v p { p' with voice := p'.voice.struckAt nominal' (max 0 n) } :=
  ⟨level.same, level.config, level.tuning, level.begun, level.inert,
    LastStrike.inert_of_standsAt stands⟩

end Player.Level

namespace Play

variable {γ : Type} {v : Voice}

/-- Strikes keep two players level. -/
theorem blind_level : Blind (Player.Level v : Player γ → Player γ → Prop) where
  voice _ _ level := level.same
  recorded p p' level e := by
    have same := congrArg (fun w : Voice => { w with events := w.events.push e }) level.same
    exact ⟨same, level.config, level.tuning, level.begun, level.inert, level.inert'⟩
  sounded p p' level index sounds := by
    have same := congrArg (fun w : Voice =>
      { w with sounding := w.sounding.set index sounds }) level.same
    exact ⟨same, level.config, level.tuning, level.begun, level.inert, level.inert'⟩
  loudened p p' level d := by
    have same := congrArg (fun w : Voice => { w with dynamics := d }) level.same
    exact ⟨same, level.config, level.tuning, level.begun, level.inert, level.inert'⟩

/-- Both players see the settings and the strings that the measure began with. -/
theorem voice_level : Act.InStep (Player.Level v : Player γ → Player γ → Prop)
    (fun w w' => (w.config = v.config ∧ w.tuning = v.tuning) ∧ w'.tuning = v.tuning)
    voice voice := by
  rintro desk desk' level _ _ ⟨rfl⟩ ⟨rfl⟩
  exact ⟨⟨⟨level.config, level.tuning⟩, level.tuning'⟩, level⟩

/-! ## §3. A column and a group. -/

variable {tick : Int} {frets : List (Option Int)} {line : Nat} {l : Letter} {column : Text}

/-- A line counts strings from zero, and the number of its string counts them from one. -/
theorem stringIndex?_line {count : Nat} (inside : line < count) :
    stringIndex? count (line + 1) = some (count - line - 1) := by
  unfold stringIndex?
  rw [if_pos ⟨by omega, by omega⟩, Nat.sub_sub]

/-- On a fretted string, a digit is struck at its pitch. -/
theorem strike_frets {root pitch : Quantity} {d : Nat} (pitched : root.add (.whole d) = .ok pitch) :
    TabStyle.frets.strike root (.whole d) = .ok (pitch, TabStyle.fretVelocity) := by
  unfold TabStyle.strike
  rw [pitched]
  rfl

/-- A cell does what its stroke does. -/
theorem cell_level (style : v.tabStyle = .frets) (inside : line < v.stringCount)
    (struck : ¬(l == '-') = true) (held : ∀ d, digitValue? l = some d →
      frets[v.stringCount - line - 1]? = some (some (d : Int))) :
    Act.Abreast (Player.Level v : Player γ → Player γ → Prop) (cell tick .zero line l)
      (stroke tick .zero frets ⟨line + 1, TabStyle.fretVelocity.toNat⟩) := by
  unfold cell stroke
  rw [if_neg struck]
  refine .bind voice_level fun w w' seen => ?_
  obtain ⟨⟨config, tuning⟩, tuning'⟩ := seen
  have roots : w.roots = v.roots := congrArg Tuning.roots tuning
  have roots' : w'.roots = v.roots := congrArg Tuning.roots tuning'
  have count : w.stringCount = v.stringCount := congrArg List.length roots
  have count' : w'.stringCount = v.stringCount := congrArg List.length roots'
  have style' : w.tabStyle = .frets := (Voice.tabStyle_congr config).trans style
  have onString : v.stringCount - line - 1 < v.roots.length := by
    show v.roots.length - line - 1 < v.roots.length
    have inRoots : line < v.roots.length := inside
    omega
  dsimp only
  rw [count, count', roots, roots', stringIndex?_line inside, style']
  dsimp only
  rw [List.getElem?_eq_getElem onString]
  unfold Tab.cellDigit
  cases digit : digitValue? l with
  | none => exact fun _ _ _ _ _ ran => nomatch ran
  | some d =>
    rw [held d digit]
    dsimp only
    cases pitched : v.roots[v.stringCount - line - 1].add (.whole d) with
    | error f => exact fun _ _ _ _ _ _ ran => nomatch ran
    | ok pitch =>
      -- Both strike the same pitch from here on.
      show Act.InStep _ _ (liftM (TabStyle.frets.strike _ _) >>= _) _
      rw [strike_frets pitched]
      have strikes := (blind_strike (blind_level (γ := γ) (v := v)) tick
        (v.stringCount - line - 1) pitch TabStyle.fretVelocity .zero true).inStep
      exact fun desk desk' level a b ran ran' =>
        ⟨True.intro, (strikes desk desk' level a b ran ran').2⟩

/-- A column does what the strokes of its cells do. -/
theorem cells_level (style : v.tabStyle = .frets) (inside : line + column.length ≤ v.stringCount)
    (held : ∀ (i : Nat) (l : Letter) (d : Nat), column[i]? = some l → digitValue? l = some d →
      frets[v.stringCount - (line + i) - 1]? = some (some (d : Int))) :
    Act.Abreast (Player.Level v : Player γ → Player γ → Prop) (cells tick .zero line column)
      ((Tab.strokesFrom line column).forM (stroke tick .zero frets)) := by
  induction column generalizing line with
  | nil => exact .pure True.intro
  | cons l column ih =>
    rw [List.length_cons] at inside
    have below := @ih (line + 1) (by omega) fun i l d cell value => by
      have place : line + 1 + i = line + (i + 1) := by omega
      rw [place]
      exact held (i + 1) l d cell value
    show Act.Abreast _ (cell tick .zero line l >>= fun _ => cells tick .zero (line + 1) column) _
    by_cases silent : (l == '-') = true
    · -- A silent cell has no stroke.
      have nothing : (cell tick .zero line l : Play γ Unit) = pure () := by
        unfold cell
        rw [if_pos silent]
      rw [nothing, pure_bind, Tab.strokesFrom_silent silent]
      exact below
    · rw [Tab.strokesFrom_struck silent]
      exact .bind (cell_level style (by omega) silent (held 0 l · rfl ·)) fun _ _ _ => below

variable [ChanceSource γ] {desk : Desk (Player γ)} {nominal nominal' : Quantity} {n : Int}

/-- Where nothing strays, a column is struck at the tick that it is written at. -/
theorem start_column_steady (steady : desk.state.voice.config.IsSteady)
    (inert : desk.state.voice.lastStrike.Inert) (stands : nominal.StandsAt n) :
    (Play.column nominal column).start desk =
      (cells (max 0 n) .zero 0 column).start (landedAt desk nominal (max 0 n)) := by
  unfold Play.column
  rw [Act.start_bind, start_jitter_steady steady]
  dsimp only
  rw [Act.start_bind, start_humanize_steady steady inert stands]

/-- And so is a group. -/
theorem start_group_steady {g : Group} (steady : desk.state.voice.config.IsSteady)
    (inert : desk.state.voice.lastStrike.Inert) (stands : nominal.StandsAt n)
    (time : offsetTick desk.state.voice g.offset = .ok nominal) :
    (group frets g).start desk =
      (g.strokes.forM (stroke (max 0 n) .zero frets)).start (landedAt desk nominal (max 0 n)) := by
  unfold group
  show (liftM (offsetTick desk.state.voice g.offset) >>= _ : Play γ Unit).start desk = _
  rw [Act.start_bind, Act.start_lift, time]
  dsimp only
  rw [Act.start_bind, start_humanize_steady steady inert stands]
  have still : (landedAt desk nominal (max 0 n)).state.voice.config.IsSteady := steady
  dsimp only
  rw [Act.start_bind, start_jitter_steady still]

/-- A column that frets hold down: it has a line for each string at most, and each digit in it is
the fret of its string. -/
structure Holds (v : Voice) (frets : List (Option Int)) (column : Text) : Prop where
  inside : column.length ≤ v.stringCount
  held : ∀ (line : Nat) (l : Letter) (d : Nat), column[line]? = some l → digitValue? l = some d →
    frets[v.stringCount - line - 1]? = some (some (d : Int))

/-- The columns of rows are held down by the frets of a chord that spells them. -/
theorem Holds.of_rows {rows : List Text} {width : Nat} {chord : Datum}
    (count : rows.length = v.stringCount) (rectangular : ∀ row ∈ rows, row.length = width)
    (one : ∀ row ∈ rows, Tab.OneDigit row) (spelled : Chord.SpellsRows rows chord)
    (read : Chord.frets v.roots chord = .ok frets) :
    ∀ column ∈ Grid.crossed width rows, Holds v frets column := by
  intro column here
  obtain ⟨height, cells⟩ := Tab.column_held rectangular here
  refine ⟨(height.trans count).le, fun line l d cell value => ?_⟩
  obtain ⟨row, rowed, inRow⟩ := cells line l cell
  have held := (one row (List.mem_of_getElem? rowed)).heldFret inRow value
  exact Chord.frets_held count spelled read rowed held

omit [ChanceSource γ] in
/-- The cells of a column that is held down do what their strokes do. -/
theorem Holds.cells_level (style : v.tabStyle = .frets) (holds : Holds v frets column) :
    Act.Abreast (Player.Level v : Player γ → Player γ → Prop) (cells tick .zero 0 column)
      ((Tab.strokesFrom 0 column).forM (stroke tick .zero frets)) := by
  refine Play.cells_level style (by have := holds.inside; omega) fun line l d cell value => ?_
  rw [Nat.zero_add]
  exact holds.held line l d cell value

/-- A column is a group at the same tick. -/
theorem column_level (style : v.tabStyle = .frets) (steady : v.config.IsSteady)
    (holds : Holds v frets column) {offset : Rat} (stands : nominal.StandsAt n)
    (stands' : nominal'.StandsAt n) (time : offsetTick v offset = .ok nominal') :
    Act.Abreast (Player.Level v : Player γ → Player γ → Prop) (Play.column nominal column)
      (group frets ⟨offset, Tab.strokesFrom 0 column⟩) := by
  intro desk desk' level
  have timed : offsetTick desk'.state.voice offset = .ok nominal' := by
    rw [← time]
    unfold offsetTick
    rw [level.begun.1, level.config']
  rw [start_column_steady (level.config.symm ▸ steady) level.inert stands,
    start_group_steady (level.config'.symm ▸ steady) level.inert' stands' timed]
  exact holds.cells_level style (landedAt desk nominal (max 0 n))
    (landedAt desk' nominal' (max 0 n)) ((level.landed stands).landed' stands')

/-- A column that strikes nothing is no group. -/
theorem column_silent (style : v.tabStyle = .frets) (steady : v.config.IsSteady)
    (holds : Holds v frets column) (stands : nominal.StandsAt n)
    (silent : Tab.strokesFrom 0 column = []) :
    Act.Abreast (Player.Level v : Player γ → Player γ → Prop) (Play.column nominal column)
      (pure ()) := by
  intro desk desk' level
  rw [start_column_steady (level.config.symm ▸ steady) level.inert stands]
  have nothing : Act.Abreast (Player.Level v : Player γ → Player γ → Prop)
      (cells (max 0 n) .zero 0 column)
      ((Tab.strokesFrom 0 column).forM (stroke (max 0 n) .zero frets)) := holds.cells_level style
  rw [silent] at nothing
  exact nothing (landedAt desk nominal (max 0 n)) desk' (level.landed stands)

/-! ## §4. The columns of a measure and the groups of a pattern. -/

/-- A measure of some beats that `width` columns of `step` ticks fill exactly. -/
structure Divided (v : Voice) (clock step : Int) (width : Nat) : Prop where
  style : v.tabStyle = .frets
  steady : v.config.IsSteady
  clock : v.clock = .whole clock
  resolution : v.config.ticks.integer? = some v.config.beatTicks
  full : (width : Int) * step = v.config.measureTicks
  some : 0 < width

/-- The offset of a column is the time of the column. -/
theorem Divided.offsetTick {c s : Int} {width : Nat} (divided : Divided v c s width) (i : Nat) :
    ∃ nominal, Play.offsetTick v (1 + (i : Rat) * v.beats / width) = .ok nominal ∧
      nominal.StandsAt ((c + i * s : Int) : Rat) := by
  refine ⟨_, offsetTick_exact divided.resolution divided.clock _, .inl (congrArg _ ?_)⟩
  have positive : (width : Rat) ≠ 0 := Nat.cast_ne_zero.2 divided.some.ne'
  have full : (width : Rat) * s = v.beats * v.config.beatTicks := by
    have whole := divided.full
    unfold Config.measureTicks at whole
    exact_mod_cast whole
  -- The beats before the column are `i` of `width` equal parts, and each part has `s` ticks.
  push_cast
  field_simp
  linear_combination (-(i : Rat)) * full

/-- The columns of a tab that holds a chord down, and the groups of its pattern over that chord. -/
theorem columns_level {c s : Int} {width : Nat} (divided : Divided v c s width)
    {columns : List Text} (each : ∀ column ∈ columns, Holds v frets column) (i : Nat) :
    Act.InStep (Player.Level v : Player γ → Player γ → Prop)
      (fun last _ => last = .whole (c + (i + columns.length) * s))
      (Play.columns (.whole (c + i * s)) (columns.map (Prod.mk (.whole s))))
      (((columns.zipIdx i).filterMap (Tab.groupAt v.beats width)).forM (group frets)) := by
  induction columns generalizing i with
  | nil =>
    refine .pure ?_
    rw [List.length_nil, Nat.cast_zero, add_zero]
  | cons column columns ih =>
    obtain ⟨here, there⟩ := List.forall_mem_cons.1 each
    -- The next column begins a step later.
    have rest := ih there (i + 1)
    have next : c + ((i + 1 : Nat) : Int) * s = c + i * s + s := by
      push_cast
      ring
    have last : c + (((i + 1 : Nat) : Int) + columns.length) * s =
        c + (i + (column :: columns).length) * s := by
      rw [List.length_cons]
      push_cast
      ring
    rw [next, last] at rest
    obtain ⟨nominal, time, stands⟩ := divided.offsetTick i
    have begins : Quantity.StandsAt (.whole (c + i * s)) ((c + i * s : Int) : Rat) :=
      .inr ⟨_, rfl, rfl⟩
    rw [List.map_cons, columns_cons, List.zipIdx_cons]
    by_cases silent : Tab.strokesFrom 0 column = []
    · rw [List.filterMap_cons_none (Tab.groupAt_silent silent)]
      -- The groups wait while this column goes by.
      show Act.InStep _ _ _ ((pure PUnit.unit : Play γ PUnit) >>= fun _ =>
        ((columns.zipIdx (i + 1)).filterMap (Tab.groupAt v.beats width)).forM (group frets))
      have passes := column_silent (γ := γ) divided.style divided.steady here begins silent
      exact .bind passes fun _ _ _ => rest
    · rw [List.filterMap_cons_some (Tab.groupAt_struck silent)]
      have both := column_level (γ := γ) divided.style divided.steady here begins stands time
      exact .bind both fun _ _ _ => rest

end Play

/-! ## §5. One measure. -/

/-- A voice is asked for a tab of one measure that spans its own beats, with some rows of cells. -/
def TabText.OneMeasure (v : Voice) (parts : List Datum) (stated : Datum) (rows : List Text) :
    Prop :=
  ∃ asked q tabLines, ofParts parts stated = .ok asked ∧ asked.beatsOr v.beats = .number q ∧
    q.integer? = some (v.beats : Int) ∧ Tab.linesOfDatum asked.text = .ok tabLines ∧
    tabLines.mapM Tab.measures = .ok (rows.map fun row => [row])

/-- If all steps of a grid are the same, its columns are those of its rows. -/
theorem Grid.columns_even {g : Grid} {step : Quantity} (even : ∀ s ∈ g.steps, s = step) :
    g.columns = (Grid.crossed g.steps.length g.rows).map (Prod.mk step) := by
  unfold columns crossed
  rw [List.map_map, List.range_eq_range', ← List.zipIdx_map_snd, List.map_map]
  refine List.map_congr_left fun (s, i) here => ?_
  obtain ⟨-, -, same⟩ := List.mem_zipIdx here
  show (s, g.rows.filterMap (·[i]?)) = (step, g.rows.filterMap (·[i]?))
  rw [even s (same ▸ List.getElem_mem _)]

/-- In lines of one measure each, that measure is as wide as the first line. -/
theorem Tab.Ruled.single {tabLines rows : List Text} {widths : List Nat}
    (ruled : Ruled tabLines (rows.map fun row => [row]) widths) :
    widths = [(rows.headD []).length] := by
  cases rows with
  | nil =>
    have empty : tabLines.length = 0 := (mapM_ok_iff_forall₂.1 ruled.read).length_eq
    exact absurd (List.length_eq_zero_iff.1 empty) ruled.some
  | cons row rows => exact (ruled.aligned [row] List.mem_cons_self).symm

/-- Lines of one measure each are filled by one step, as often as they are wide. -/
theorem Tab.Fills.single {span : Int} {tabLines rows : List Text} {parts : List (List Int)}
    {g : Grid} (fills : Fills span tabLines (rows.map fun row => [row]) parts g)
    (positive : 0 < span) :
    let width := (rows.headD []).length
    g.rows = rows ∧ g.steps.length = width ∧ 0 < width ∧
      ∃ step : Int, (width : Int) * step = span ∧ ∀ s ∈ g.steps, s = .whole step := by
  intro width
  have rowsHere : g.rows = rows := by
    rw [fills.rows, List.map_map]
    exact (List.map_congr_left fun row _ => List.append_nil row).trans (List.map_id rows)
  have widths : parts.map List.length = [width] := fills.ruled.single
  obtain ⟨part, rfl, long⟩ := List.map_eq_singleton_iff.1 widths
  have steps : g.steps = part.map .whole := by
    rw [fills.steps]
    show (part ++ []).map Quantity.whole = _
    rw [List.append_nil]
  have full := fills.full part List.mem_cons_self
  have even := fills.even part List.mem_cons_self
  refine ⟨rowsHere, by rw [steps, List.length_map, long], ?_⟩
  cases part with
  | nil =>
    -- A measure without columns would have no ticks.
    rw [List.sum_nil] at full
    exact absurd (full ▸ positive) (Int.lt_irrefl 0)
  | cons step more =>
    have first := even step List.mem_cons_self
    refine ⟨long ▸ Nat.succ_pos _, step, long ▸ first, fun s here => ?_⟩
    rw [steps] at here
    obtain ⟨k, inPart, rfl⟩ := List.mem_map.1 here
    have columns : ((step :: more).length : Int) ≠ 0 := Int.natCast_ne_zero.2 (Nat.succ_ne_zero _)
    rw [Int.eq_of_mul_eq_mul_left columns ((even k inPart).trans first.symm)]

/-- The columns of a tab of one measure divide it evenly. -/
theorem TabText.OneMeasure.columns {v : Voice} {parts : List Datum} {stated : Datum}
    {rows : List Text} (asks : OneMeasure v parts stated rows)
    (resolution : v.config.ticks.integer? = some v.config.beatTicks)
    (positive : 0 < v.config.beatTicks) {g : Grid} (read : Play.readTab v parts stated = .ok g) :
    let width := (rows.headD []).length
    rows.length = v.stringCount ∧ (∀ row ∈ rows, row.length = width) ∧ 0 < width ∧
      ∃ step : Int, (width : Int) * step = v.config.measureTicks ∧
        g.columns = (Grid.crossed width rows).map (Prod.mk (.whole step)) := by
  intro width
  obtain ⟨asked, q, tabLines, askedHere, beats, whole, lines, measured⟩ := asks
  obtain ⟨_, askedHere', grid, -⟩ := Play.readTab_ok_iff.1 read
  cases askedHere.symm.trans askedHere'
  rw [beats] at grid
  obtain ⟨count, rectangular⟩ := Tab.grid_shape grid
  obtain ⟨forward, _, table, wholes, lines', fills⟩ := Tab.exists_fills resolution whole grid
  cases lines.symm.trans lines'
  cases measured.symm.trans fills.ruled.read
  obtain ⟨rowsHere, length, some_, step, full, same⟩ :=
    fills.single (Int.mul_pos positive forward)
  rw [rowsHere] at count rectangular
  rw [length] at rectangular
  refine ⟨count, rectangular, some_, step, full.trans (Int.mul_comm _ _), ?_⟩
  rw [Grid.columns_even same, rowsHere, length]

/-- Two voices with the same music: they have recorded the same, the same strings sound, and they
go on from the same place, as loud. -/
structure Voice.SameMusic (v w : Voice) : Prop where
  events : v.events = w.events
  sounding : v.sounding = w.sounding
  clock : v.clock = w.clock
  skip : v.skip = w.skip
  dynamics : v.dynamics = w.dynamics

/-- Voices that differ in their places alone have the same music where the places are the same. -/
theorem Voice.SameMusic.of_placeless {v w : Voice} (same : v.placeless = w.placeless)
    (clock : v.clock = w.clock) (skip : v.skip = w.skip) : v.SameMusic w := by
  have events : v.placeless.events = w.placeless.events := congrArg _ same
  have sounding : v.placeless.sounding = w.placeless.sounding := congrArg _ same
  have dynamics : v.placeless.dynamics = w.placeless.dynamics := congrArg _ same
  exact ⟨events, sounding, clock, skip, dynamics⟩

namespace Play

variable {γ : Type} [ChanceSource γ] {desk last : Desk (Player γ)}

/-- A measure that is played: its groups are played, and then the clock goes on by its ticks. -/
theorem playMeasure_arrived {pattern : Pattern} {frets : List (Option Int)}
    (ran : (playMeasure pattern frets).start desk = (.ok (), last)) :
    ∃ after clock, (pattern.groups.forM (group frets)).start desk = (.ok (), after) ∧
      after.state.voice.clock.add after.state.voice.measure = .ok clock ∧
      last.state = { after.state with voice := { after.state.voice with clock } } := by
  unfold playMeasure at ran
  obtain ⟨_, after, groups, moved⟩ := Act.bind_arrived ran
  obtain ⟨_, _, ⟨⟩, moved⟩ := Act.bind_arrived moved
  obtain ⟨clock, summed, sum, moved⟩ := Act.bind_arrived moved
  obtain ⟨reached, same⟩ := Act.lift_arrived sum
  rw [same] at moved
  exact ⟨after, clock, groups, reached, (congrArg (fun ends => ends.2.state) moved).symm⟩

/-- One chord that is played is one measure after no silence. -/
theorem playMeasures_arrived {pattern : Pattern} {frets : List (Option Int)}
    (ran : (playMeasures pattern [frets]).start desk = (.ok (), last)) :
    ∃ mid after,
      mid.state = { desk.state with voice := { desk.state.voice with skip := .whole 0 } } ∧
      (playMeasure pattern frets).start mid = (.ok (), after) ∧ last.state = after.state := by
  unfold playMeasures at ran
  obtain ⟨_, warned, warns, rest⟩ := Act.bind_arrived ran
  have kept := (ensures_warnBeyondMeasure (p := desk.state) pattern).of_ok
    (congrArg Prod.fst warns)
  have unchanged : warned.state = desk.state :=
    (congrArg (fun ends => ends.2.state) warns).symm.trans kept
  obtain ⟨_, mid, silenced, rest⟩ := Act.bind_arrived rest
  have begins : mid.state =
      { warned.state with voice := { warned.state.voice with skip := .whole 0 } } :=
    (congrArg (fun ends => ends.2.state) silenced).symm
  rw [unchanged] at begins
  obtain ⟨_, measured, measures, rest⟩ := Act.bind_arrived rest
  obtain ⟨_, after, first, none_⟩ := Act.bind_arrived measures
  have alone : measured = after := (congrArg Prod.snd none_).symm
  obtain ⟨_, _, seen, reports⟩ := Act.bind_arrived rest
  cases seen
  refine ⟨mid, after, begins, first, ?_⟩
  rw [Act.start_report] at reports
  split at reports
  · rw [← alone]
    exact (congrArg (fun ends => ends.2.state) reports).symm
  · cases reports

/-- A pattern over one chord that is played: the chord has been read by an open voice, the groups
are played from the clock on, and then the clock goes on by a measure. -/
theorem play_arrived {pattern : Pattern} {chord : Datum}
    (ran : (play (.pattern pattern) [chord]).start desk = (.ok (), last)) :
    ∃ frets mid after clock, Chord.frets desk.state.voice.roots chord = .ok frets ∧
      mid.state = { desk.state with voice := { desk.state.voice with skip := .whole 0 } } ∧
      (pattern.groups.forM (group frets)).start mid = (.ok (), after) ∧
      after.state.voice.clock.add after.state.voice.measure = .ok clock ∧
      last.state = { after.state with voice := { after.state.voice with clock } } := by
  have isOpen := open_of_passage (.pattern pattern [chord]) (congrArg Prod.fst ran)
  unfold play at ran
  obtain ⟨_, _, opened, reads⟩ := Act.bind_arrived ran
  have checked : (requireOpen : Play γ Unit).start desk = (.ok (), desk) := by
    show (if desk.state.voice.finished then _ else _ : Play γ Unit).start desk = _
    rw [isOpen]
    rfl
  cases opened.symm.trans checked
  dsimp only at reads
  obtain ⟨_, _, ⟨⟩, reads⟩ := Act.bind_arrived reads
  obtain ⟨parsed, reader, read, plays⟩ := Act.bind_arrived reads
  obtain ⟨parsedHere, same⟩ := Act.lift_arrived read
  rw [same] at plays
  obtain ⟨frets, fretted, rfl⟩ := readChords_one _ chord parsed parsedHere
  obtain ⟨mid, measured, begins, measure, ends⟩ := playMeasures_arrived plays
  obtain ⟨after, clock, groups, reached, moved⟩ := playMeasure_arrived measure
  exact ⟨frets, mid, after, clock, fretted, begins, groups, reached, ends.trans moved⟩

/-- A tab of one measure that holds a chord down, and its pattern over that chord: on a desk where
time goes evenly and the clock is whole, they leave the same music, if both go well. -/
theorem tab_level {parts : List Datum} {stated chord : Datum} {rows : List Text} {c : Int}
    {desk tabbed played : Desk (Player γ)} (even : desk.state.voice.Even)
    (whole : desk.state.voice.config.ticks.integer?.isSome = true)
    (start : desk.state.voice.clock = .whole c)
    (melodic : desk.state.voice.config.isPercussion = false)
    (steady : desk.state.voice.config.IsSteady)
    (asks : TabText.OneMeasure desk.state.voice parts stated rows)
    (one : ∀ row ∈ rows, Tab.OneDigit row) (spelled : Chord.SpellsRows rows chord)
    (ranTab : (tab parts stated).start desk = (.ok (), tabbed))
    (ranPlay : (play (.pattern (Tab.asPattern desk.state.voice.beats rows)) [chord]).start desk =
      (.ok (), played)) :
    tabbed.state.voice.SameMusic played.state.voice := by
  obtain ⟨g, clock, after, -, read, columnsRan, arrived⟩ := tab_arrived ranTab
  obtain ⟨frets, mid, after', clock', fretted, begins, groupsRan, sum, ended⟩ :=
    play_arrived ranPlay
  have resolution := Config.resolution_of_whole whole
  obtain ⟨positive, measure⟩ := even.measure whole
  obtain ⟨count, rectangular, some_, step, full, columns⟩ := asks.columns resolution positive read
  have style : desk.state.voice.tabStyle = .frets := by
    unfold Voice.tabStyle
    rw [melodic]
    rfl
  have divided : Divided desk.state.voice c step (rows.headD []).length :=
    ⟨style, steady, start, resolution, full, some_⟩
  have each := Holds.of_rows count rectangular one spelled fretted
  have level : Player.Level desk.state.voice desk.state mid.state := by
    rw [begins]
    exact ⟨rfl, rfl, rfl, ⟨rfl, rfl, rfl⟩, even.inert steady.1, even.inert steady.1⟩
  -- From the first column on, the columns and the groups go side by side.
  have both := columns_level (γ := γ) divided each 0 desk mid level
  rw [start, columns] at columnsRan
  rw [Nat.cast_zero, zero_mul, zero_add, add_zero] at both
  obtain ⟨ends, levels⟩ := both clock () (congrArg Prod.fst columnsRan)
    (congrArg Prod.fst groupsRan)
  rw [columnsRan] at levels
  have levels' : Player.Level desk.state.voice after.state after'.state := by
    have states := congrArg (fun ends => ends.2.state) groupsRan
    exact states ▸ levels
  -- The tab has gone on by all its steps, and the measure by its ticks.
  have width : ((Grid.crossed (rows.headD []).length rows).length : Int) * step =
      desk.state.voice.config.measureTicks := by
    rw [← full]
    unfold Grid.crossed
    rw [List.length_map, List.length_range]
  rw [width] at ends
  rw [levels'.begun.1, levels'.begun.2.2, start, measure] at sum
  have same : clock = clock' := ends.trans (Except.ok.inj sum)
  rw [arrived, ended]
  exact .of_placeless levels'.same same levels'.begun.2.1.symm

end Play

/-! ## §6. Sessions. -/

variable {γ : Type} [ChanceSource γ]

/-- At every point of every session, whatever the outcomes of its calls: a melodic voice without any
spread, whose resolution and clock are whole, is asked for a tab of one measure that holds a chord
down.  The tab and its pattern over that chord leave the same music, if both go well. -/
theorem Session.tab_as_pattern {band : Band γ} (created : band.Created) (calls : List Call)
    (journal : Journal) {part : Part} {v : Voice}
    (plays : (run calls ⟨band, journal⟩).state.voice? part = some v)
    (whole : v.config.ticks.integer?.isSome = true) {c : Int} (start : v.clock = .whole c)
    (melodic : v.config.isPercussion = false) (steady : v.config.IsSteady) {parts : List Datum}
    {stated chord : Datum} {rows : List Text} (asks : TabText.OneMeasure v parts stated rows)
    (one : ∀ row ∈ rows, Tab.OneDigit row) (spelled : Chord.SpellsRows rows chord) :
    let now := run calls ⟨band, journal⟩
    let tabbed := (Call.move part (.tab parts stated)).perform.start now
    let played :=
      (Call.move part (.play (.pattern (Tab.asPattern v.beats rows)) [chord])).perform.start now
    tabbed.1 = .ok () → played.1 = .ok () →
      ∃ w w', tabbed.2.state.voice? part = some w ∧ played.2.state.voice? part = some w' ∧
        w.SameMusic w' := by
  intro now tabbed played wellTab wellPlay
  let p : Player γ := ⟨v, now.state.chance⟩
  have tabs : tabbed = (((Play.tab parts stated).start ⟨p, now.journal⟩).1,
      ⟨now.state.played part ((Play.tab parts stated).start ⟨p, now.journal⟩).2.state,
        ((Play.tab parts stated).start ⟨p, now.journal⟩).2.journal⟩) := Perform.start_on plays _
  let pattern : Music := .pattern (Tab.asPattern v.beats rows)
  have plays' : played = (((Play.play pattern [chord]).start ⟨p, now.journal⟩).1,
      ⟨now.state.played part ((Play.play pattern [chord]).start ⟨p, now.journal⟩).2.state,
        ((Play.play pattern [chord]).start ⟨p, now.journal⟩).2.journal⟩) := Perform.start_on plays _
  rw [tabs] at wellTab ⊢
  rw [plays'] at wellPlay ⊢
  refine ⟨_, _, Band.voice_played_self plays _, Band.voice_played_self plays _, ?_⟩
  have even : p.voice.Even := throughout_even created calls journal part v plays
  have ranTab : (Play.tab parts stated).start ⟨p, now.journal⟩ = (.ok (), _) :=
    Prod.ext wellTab rfl
  have ranPlay : (Play.play pattern [chord]).start ⟨p, now.journal⟩ = (.ok (), _) :=
    Prod.ext wellPlay rfl
  exact Play.tab_level even whole start melodic steady asks one spelled ranTab ranPlay

/-- A new band of three strings. -/
def stillStrings : Except Fault (Desk (Band Swing)) :=
  Session.begin .up [("strings", .list [.whole 40, .whole 45, .whole 50])]

/-- A string is struck, and a silent measure follows. -/
def stillCalls : List Call := middleCalls ++ [.move .master (.rest (.whole 1))]

/-- A measure of six columns.  Two of them strike nothing, one strikes two strings at once, and the
middle string is silent. -/
def stillRows : List Text := ["3--3--", "------", "-2-2-2"]

/-- The same measure between bars. -/
def stillTab : List Datum := [.text "|3--3--|", .text "|------|", .text "|-2-2-2|"]

/-- The tab and its pattern leave the same music where a string sounds already, after a silence. -/
theorem stillRows_as_pattern :
    ∃ (desk : Desk (Band Swing)) (w w' : Voice), stillStrings = .ok desk ∧
      let now := Session.run stillCalls desk
      let chord : Datum := .list [.whole 2, .text "-", .whole 3]
      let tabbed := (Call.move .master (.tab stillTab .null)).perform.start now
      let played := (Call.move .master
        (.play (.pattern (Tab.asPattern 4 stillRows)) [chord])).perform.start now
      tabbed.1 = .ok () ∧ played.1 = .ok () ∧ tabbed.2.state.voice? .master = some w ∧
        played.2.state.voice? .master = some w' ∧ w.events.size = 9 ∧ w.SameMusic w' := by
  have seen : (stillStrings.toOption.map fun desk =>
      let now := Session.run stillCalls desk
      let v := now.state.master
      let tabbed := (Call.move .master (.tab stillTab .null)).perform.start now
      let played := (Call.move .master (.play (.pattern (Tab.asPattern 4 stillRows))
        [.list [.whole 2, .text "-", .whole 3]])).perform.start now
      (v.config.ticks, v.clock, v.beats, tabbed.2.state.master.events.size,
        [v.config.isPercussion, v.config.timeSpread.isZero, v.config.volumeSpread.isZero,
          tabbed.1.toBool, played.1.toBool])) =
      some (.whole 192, .whole 1536, 4, 9, [false, true, true, true, true]) := by
    decide +kernel
  obtain ⟨desk, begun, seen⟩ := exists_ok_of_seen seen
  simp only [Prod.mk.injEq, List.cons.injEq] at seen
  obtain ⟨ticks, clock, beats, size, melodic, timed, loud, tabbed, played, -⟩ := seen
  obtain ⟨⟨⟩, tabbed⟩ := exists_ok_of_toBool tabbed
  obtain ⟨⟨⟩, played⟩ := exists_ok_of_toBool played
  have plays : (Session.run stillCalls desk).state.voice? .master =
      some (Session.run stillCalls desk).state.master := rfl
  have whole : (Session.run stillCalls desk).state.master.config.ticks.integer?.isSome = true := by
    rw [ticks]
    rfl
  have asks : TabText.OneMeasure (Session.run stillCalls desk).state.master stillTab .null
      stillRows := ⟨_, _, _, rfl, rfl, rfl, rfl, rfl⟩
  have spelled : Chord.SpellsRows stillRows (.list [.whole 2, .text "-", .whole 3]) :=
    Chord.spellsRows_ofRows stillRows
  rw [← beats] at played
  obtain ⟨w, w', tabbedW, playedW, same⟩ := Session.tab_as_pattern
    (Session.begin_created _ _ desk begun) _ desk.journal plays whole clock melodic ⟨timed, loud⟩
    asks (by decide) spelled tabbed played
  cases tabbedW
  rw [beats] at played playedW
  exact ⟨desk, _, w', begun, tabbed, played, rfl, playedW, size, same⟩

/-- A new band of one string, after a hundredth of a beat. -/
def crumbLead : Except Fault (Desk (Band Swing)) :=
  Session.begin .up [("strings", .list [.whole 40]), ("lead", .number (.float (.ofQuotient 1 100)))]

/-- After a fraction of a tick, the sum of the steps of a tab is not the sum of its ticks. -/
theorem crumbLead_apart :
    ∃ desk w w', crumbLead = .ok desk ∧ desk.state.master.config.isPercussion = false ∧
      desk.state.master.config.IsSteady ∧
      TabText.OneMeasure desk.state.master [.text "|0-|"] .null ["0-"] ∧ Tab.OneDigit "0-" ∧
      Chord.SpellsRows ["0-"] (.list [.whole 0]) ∧
      let tabbed := (Call.move .master (.tab [.text "|0-|"] .null)).perform.start desk
      let played := (Call.move .master
        (.play (.pattern (Tab.asPattern desk.state.master.beats ["0-"]))
          [.list [.whole 0]])).perform.start desk
      tabbed.1 = .ok () ∧ played.1 = .ok () ∧ tabbed.2.state.voice? .master = some w ∧
        played.2.state.voice? .master = some w' ∧ w'.clock.lt w.clock = true ∧
        ¬w.SameMusic w' := by
  have seen : (crumbLead.toOption.map fun desk =>
      let v := desk.state.master
      let tabbed := (Call.move .master (.tab [.text "|0-|"] .null)).perform.start desk
      let played := (Call.move .master
        (.play (.pattern (Tab.asPattern v.beats ["0-"])) [.list [.whole 0]])).perform.start desk
      [v.config.isPercussion, v.config.timeSpread.isZero, v.config.volumeSpread.isZero,
        tabbed.1.toBool, played.1.toBool,
        played.2.state.master.clock.lt tabbed.2.state.master.clock,
        decide (tabbed.2.state.master.clock = played.2.state.master.clock)]) =
      some [false, true, true, true, true, true, false] := by
    decide +kernel
  obtain ⟨desk, begun, seen⟩ := exists_ok_of_seen seen
  simp only [List.cons.injEq] at seen
  obtain ⟨melodic, timed, loud, tabbed, played, before, apart, -⟩ := seen
  obtain ⟨⟨⟩, tabbed⟩ := exists_ok_of_toBool tabbed
  obtain ⟨⟨⟩, played⟩ := exists_ok_of_toBool played
  exact ⟨desk, _, _, begun, melodic, ⟨timed, loud⟩, ⟨_, _, _, rfl, rfl, rfl, rfl, rfl⟩, by decide,
    Chord.spellsRows_ofRows ["0-"], tabbed, played, rfl, rfl, before,
    fun same => of_decide_eq_false apart same.clock⟩

end Plectrum
