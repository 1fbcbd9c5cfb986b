/-
  Plectrum.Proofs.RejectedTabs
  ────────────────────────────
  **A bad tab is rejected as one, unless a measure ends in a line feed.**

  Lines are checked as grid text before their cells are read as digits, and grid text may end in a
  line feed, which is no digit.  No line of a single text holds one.  A line that is given by itself
  may, in front of a bar, and then reading its digits fails as a number does, if no line above it
  is refused for a pitch that is too high.  Everything else that is wrong with a tab is documented,
  and at full volume a tab that is read is played to the end; only the report that follows may not
  be written, for a clock of too many digits.

  Main results:
    * `Play.checkPitches_resolves` — how rows are refused for their pitches;
    * `TabCall.readTab_resolves` — how a tab fails to be read;
    * `Play.playGrid_resolves` — how a grid fails to be played, at full volume;
    * `Session.tab_resolves` — how a tab ends at full volume, at every point of every session.
-/
import Plectrum.Proofs.Continued
import Plectrum.Proofs.Finality
import Plectrum.Proofs.FullVolume
import Plectrum.Proofs.Playable
import Plectrum.Proofs.TabCalls
import Plectrum.Proofs.WholeClock

namespace Plectrum

/-! ## §1. Pitches. -/

namespace Tab

/-- What is no digit fails as a number does. -/
theorem cellDigit_error {l : Letter} {f : Fault} (failed : cellDigit l = .error f) :
    f.kind = .value := by
  unfold cellDigit at failed
  split at failed
  · cases failed
  · cases failed
    exact Fault.kind_notAnInteger _ _

theorem cellDigit_small (l : Letter) : Yields (cellDigit l) (· < 10) := by
  unfold cellDigit
  split
  · next digit value => exact .pure (Text.digitValue?_lt value)
  · exact .error _

end Tab

namespace Play

variable {style : TabStyle} {line : Nat} {root : Quantity} {roots : List Quantity} {row : Text}
  {rows : List Text}

theorem highestDigit_small (row : Text) : Yields (highestDigit row) (· < 10) := by
  unfold highestDigit
  refine .bind fun digits read => .pure ?_
  have small := Yields.mapM_forall (fun l _ => Tab.cellDigit_small l) digits read
  cases top : digits.max? with
  | none => decide
  | some digit => exact small digit (List.max?_mem top)

/-- The digits of a line can be read, unless there is a line feed among its cells. -/
theorem highestDigit_resolves (letters : ∀ l ∈ row, Tab.isCell l = true ∨ l = .char '\n') :
    Resolves Documented (.char '\n' ∈ row) (highestDigit row) := by
  have digits_iff : (∃ f, (row.filter (· != .char '-')).mapM Tab.cellDigit = .error f) ↔
      .char '\n' ∈ row := by
    rw [mapM_error_iff]
    constructor
    · rintro ⟨l, here, f, failed⟩
      obtain ⟨inRow, struck⟩ := List.mem_filter.1 here
      refine (letters l inRow).elim (fun cell => ?_) fun feed => feed ▸ inRow
      obtain ⟨digit, read, -⟩ := Tab.cellDigit_of_isCell cell (by simpa using struck)
      rw [read] at failed
      cases failed
    · intro feed
      exact ⟨_, List.mem_filter.2 ⟨feed, by decide⟩, _, rfl⟩
  unfold highestDigit
  cases read : (row.filter (· != .char '-')).mapM Tab.cellDigit with
  | ok digits =>
    refine ⟨fun _ => .ok _, fun feed => ?_⟩
    obtain ⟨f, failed⟩ := digits_iff.2 feed
    rw [read] at failed
    cases failed
  | error f =>
    refine ⟨fun none => absurd (digits_iff.1 ⟨f, read⟩) none, fun _ => ?_⟩
    obtain ⟨l, -, failed⟩ := exists_of_mapM_error read
    exact ⟨f, rfl, Tab.cellDigit_error failed⟩

/-- The check of one line. -/
def checkLine (style : TabStyle) (line : Nat) (root : Quantity) (row : Text) :
    Except Fault Unit := do
  let (pitch, _) ← style.strike root (.whole (← highestDigit row))
  if (Quantity.whole 127).lt pitch then throw (.tabPitchOutOfRange line pitch)

theorem checkPitches_cons (style : TabStyle) (line : Nat) (root : Quantity) (roots : List Quantity)
    (row : Text) (rows : List Text) :
    checkPitches style line (root :: roots) (row :: rows) =
      checkLine style line root row >>= fun _ => checkPitches style (line + 1) roots rows := by
  unfold checkLine
  rw [checkPitches]
  cases highestDigit row with
  | error f => rfl
  | ok digit =>
    show (style.strike root (.whole digit) >>= _) = (style.strike root (.whole digit) >>= _) >>= _
    cases style.strike root (.whole digit) with
    | error f => rfl
    | ok struck =>
      show (if (Quantity.whole 127).lt struck.1 then _ else _) =
        (if (Quantity.whole 127).lt struck.1 then _ else _ : Except Fault Unit) >>= _
      split <;> rfl

theorem checkPitches_nil (style : TabStyle) (line : Nat) (roots : List Quantity) :
    checkPitches style line roots [] = .ok () := by
  cases roots <;> rfl

/-- A line is too high in a way that is documented. -/
theorem checkLine_resolves (known : root.IsPitch) (counted : line ≤ indexLimit + 1)
    (letters : ∀ l ∈ row, Tab.isCell l = true ∨ l = .char '\n') :
    Resolves Documented (.char '\n' ∈ row) (checkLine style line root row) := by
  refine (highestDigit_resolves letters).bind_documented fun digit read => ?_
  obtain ⟨pitch, velocity, strikes, -, n, whole, low, high⟩ :=
    style.strike_ok known (highestDigit_small row digit read)
  rw [strikes]
  refine .ok_bind ?_
  dsimp only
  split
  · exact .error (Fault.kind_tabPitch (Quantity.isShort_of_counted counted)
      (Quantity.isWritable_of_small whole low high)) rfl
  · exact .ok _

/-- There is a line feed in one of the rows, and no row above it is too high. -/
def Breaks (style : TabStyle) (line : Nat) (roots : List Quantity) (rows : List Text) : Prop :=
  ∃ above row below, rows = above ++ row :: below ∧
    checkPitches style line roots above = .ok () ∧ .char '\n' ∈ row

theorem breaks_cons_iff : Breaks style line (root :: roots) (row :: rows) ↔
    .char '\n' ∈ row ∨ ∃ u, checkLine style line root row = .ok u ∧
      Breaks style (line + 1) roots rows := by
  constructor
  · rintro ⟨above, broken, below, same, passed, feed⟩
    cases above with
    | nil =>
      cases same
      exact .inl feed
    | cons first above =>
      cases same
      rw [checkPitches_cons] at passed
      obtain ⟨u, here, passed⟩ := bind_ok passed
      exact .inr ⟨u, here, above, broken, below, rfl, passed, feed⟩
  · rintro (feed | ⟨u, here, above, broken, below, rfl, passed, feed⟩)
    · exact ⟨[], row, rows, rfl, checkPitches_nil _ _ _, feed⟩
    · refine ⟨row :: above, broken, below, rfl, ?_, feed⟩
      rw [checkPitches_cons, here]
      exact passed

/-- Rows are refused in a way that is documented, unless one of them breaks. -/
theorem checkPitches_resolves (known : ∀ root ∈ roots, root.IsPitch)
    (letters : ∀ row ∈ rows, ∀ l ∈ row, Tab.isCell l = true ∨ l = .char '\n')
    (fits : rows.length ≤ roots.length) (counted : line + rows.length ≤ indexLimit + 1) :
    Resolves Documented (Breaks style line roots rows) (checkPitches style line roots rows) := by
  -- Rows and strings go together, from the top line on; what is unreadable below a row that is
  -- refused is never read.
  induction rows generalizing roots line with
  | nil =>
    rw [checkPitches_nil]
    refine (Documented.ok ()).resolves.congr (iff_of_false not_false ?_)
    rintro ⟨above, row, below, same, -⟩
    simp at same
  | cons row rows ih =>
    rw [List.length_cons] at fits counted
    obtain ⟨root, roots, rfl⟩ :=
      List.exists_cons_of_length_pos (Nat.lt_of_lt_of_le (Nat.succ_pos _) fits)
    rw [List.length_cons] at fits
    obtain ⟨here, others⟩ := List.forall_mem_cons.1 known
    obtain ⟨first, rest⟩ := List.forall_mem_cons.1 letters
    rw [checkPitches_cons]
    refine (Resolves.bind (checkLine_resolves here (by omega) first) fun _ _ =>
      ih others rest (by omega) (by omega)).congr breaks_cons_iff.symm

/-- Rows that are not refused are not refused by themselves either. -/
theorem checkPitches_front {above rest : List Text}
    (passed : checkPitches style line roots (above ++ rest) = .ok ()) :
    checkPitches style line roots above = .ok () := by
  induction above generalizing roots line with
  | nil => exact checkPitches_nil _ _ _
  | cons row above ih =>
    cases roots with
    | nil => rfl
    | cons root roots =>
      rw [List.cons_append, checkPitches_cons] at passed
      obtain ⟨u, here, passed⟩ := bind_ok passed
      rw [checkPitches_cons, here]
      exact ih passed

/-- In rows that are not refused there is no line feed. -/
theorem noFeed_of_passed (passed : checkPitches style line roots rows = .ok ())
    (resolves : Resolves Documented (Breaks style line roots rows)
      (checkPitches style line roots rows)) : ∀ row ∈ rows, Letter.char '\n' ∉ row := by
  intro row here feed
  obtain ⟨above, below, rfl⟩ := List.append_of_mem here
  obtain ⟨f, failed, -⟩ :=
    resolves.fails ⟨above, row, below, rfl, checkPitches_front passed, feed⟩
  rw [passed] at failed
  cases failed

end Play

/-! ## §2. Reading. -/

/-- A voice as tabs are read for it: it has strings that sound pitches, and no more than can be
counted, and its beats have whole ticks. -/
structure Voice.ReadsTabs (v : Voice) : Prop where
  known : ∀ root ∈ v.roots, root.IsPitch
  strung : 0 < v.stringCount
  counted : v.stringCount ≤ indexLimit
  resolution : ∃ t : Int, v.config.ticks.integer? = some t
  beats : 1 ≤ v.beats

namespace TabCall

/-- The grid that the lines of a tab are read as, before its pitches are checked. -/
def grid (asked : TabCall) (v : Voice) : Except Fault Grid := do
  let text ← TabText.ofParts asked.parts asked.statedDatum
  Tab.grid text.text (.whole v.stringCount) (.number v.config.ticks) (text.beatsOr v.beats)
    v.tabStyle.uniformTabs

/-- A measure ends in a line feed, and no line above it is too high. -/
def Breaks (asked : TabCall) (v : Voice) : Prop :=
  ∃ g, asked.grid v = .ok g ∧ Play.Breaks v.tabStyle 1 v.roots.reverse g.rows

variable {asked : TabCall} {v : Voice} {g : Grid}

theorem readTab_eq (asked : TabCall) (v : Voice) :
    Play.readTab v asked.parts asked.statedDatum = asked.grid v >>= fun g =>
      Play.checkPitches v.tabStyle 1 v.roots.reverse g.rows >>= fun _ => .ok g := by
  unfold Play.readTab grid
  rw [bind_assoc]
  rfl

/-- What is read as a grid was read from the lines that are shown, and beats that are known. -/
theorem grid_ok (ready : v.ReadsTabs) (read : asked.grid v = .ok g) :
    ∃ (tab : Datum) (q : Quantity) (b : Int), Tab.linesOfDatum tab = .ok asked.lines.shown ∧
      q.integer? = some b ∧ Tab.grid tab (.whole v.stringCount) (.number v.config.ticks) (.number q)
        v.tabStyle.uniformTabs = .ok g := by
  unfold grid at read
  rcases asked.ofParts_cases with none | ⟨text, here, lines, known⟩
  · rw [none] at read
    cases read
  · rw [here] at read
    obtain ⟨q, b, beats, whole, -⟩ := asked.beats_positive ready.beats known
    change Tab.grid text.text _ _ (text.beatsOr v.beats) _ = .ok g at read
    rw [beats] at read
    exact ⟨text.text, q, b, lines, whole, read⟩

theorem documented_grid (ready : v.ReadsTabs) (counted : asked.lines.Counted) :
    Documented (asked.grid v) := by
  obtain ⟨t, resolution⟩ := ready.resolution
  obtain ⟨few, short⟩ := counted.shown
  unfold grid
  rcases asked.ofParts_cases with none | ⟨text, here, lines, known⟩
  · rw [none]
    exact .error rfl rfl
  · rw [here]
    refine .ok_bind ?_
    obtain ⟨q, b, beats, whole, forward⟩ := asked.beats_positive ready.beats known
    rw [beats]
    exact Tab.documented_grid lines few short ready.strung ready.counted resolution whole forward _

/-- The cells of a grid are dashes, digits, and line feeds that end measures. -/
theorem grid_letters (read : asked.grid v = .ok g) :
    ∃ table : List (List Text), g.rows = table.map List.flatten ∧
      ∀ row ∈ table, ∀ m ∈ row, Tab.IsMeasure m := by
  obtain ⟨text, -, read⟩ := bind_ok read
  exact Tab.rows_of_measures read

theorem letters_of_grid (read : asked.grid v = .ok g) :
    ∀ row ∈ g.rows, ∀ l ∈ row, Tab.isCell l = true ∨ l = .char '\n' := by
  obtain ⟨table, rows, each⟩ := grid_letters read
  rw [rows]
  intro row here l inRow
  obtain ⟨pieces, within, rfl⟩ := List.mem_map.1 here
  obtain ⟨m, inPieces, inMeasure⟩ := List.mem_flatten.1 inRow
  exact (each pieces within m inPieces).letters l inMeasure

/-- The pitches of a grid are refused in a way that is documented, unless one of its rows breaks. -/
theorem checkPitches_resolves (ready : v.ReadsTabs) (read : asked.grid v = .ok g) :
    Resolves Documented (Play.Breaks v.tabStyle 1 v.roots.reverse g.rows)
      (Play.checkPitches v.tabStyle 1 v.roots.reverse g.rows) := by
  obtain ⟨tab, q, b, -, -, read'⟩ := grid_ok ready read
  have count : g.rows.length = v.roots.length := (Tab.grid_shape read').1
  have counted : v.roots.length ≤ indexLimit := ready.counted
  exact Play.checkPitches_resolves (fun root here => ready.known root (List.mem_reverse.1 here))
    (letters_of_grid read) (by rw [List.length_reverse, count]) (by omega)

/-- A tab fails to be read in a way that is documented, unless one of its measures breaks it. -/
theorem readTab_resolves (ready : v.ReadsTabs) (counted : asked.lines.Counted) :
    Resolves Documented (asked.Breaks v) (Play.readTab v asked.parts asked.statedDatum) := by
  have checked : ∀ g, asked.grid v = .ok g →
      Resolves Documented (Play.Breaks v.tabStyle 1 v.roots.reverse g.rows)
        (Play.checkPitches v.tabStyle 1 v.roots.reverse g.rows >>= fun _ => .ok g) :=
    fun g read => (checkPitches_resolves ready read).bind_documented fun _ _ => .ok g
  rw [asked.readTab_eq v]
  exact (Resolves.bind (documented_grid ready counted).resolves checked).congr (by simp [Breaks])

/-- All cells of a grid are dashes and digits, if all of its lines are in one text. -/
theorem cells_of_oneText (ready : v.ReadsTabs) (one : asked.lines.InOneText)
    (read : asked.grid v = .ok g) : ∀ row ∈ g.rows, ∀ l ∈ row, Tab.isCell l = true := by
  have shown : ∃ t, asked.lines.shown = Tab.linesOfText t := by
    obtain ⟨t, same | same⟩ := one
    · exact ⟨t, by rw [same]; rfl⟩
    · exact ⟨t, by rw [same]; rfl⟩
  obtain ⟨t, shown⟩ := shown
  obtain ⟨tab, q, b, lines, -, read'⟩ := grid_ok ready read
  intro row here l inRow
  obtain ⟨line, inLines, within⟩ := Tab.row_within lines read' row here
  refine (letters_of_grid read row here l inRow).resolve_right ?_
  rintro rfl
  rw [shown] at inLines
  exact Tab.linesOfText_noFeed t line inLines (within.subset inRow)

/-- What has been read has dashes and digits in all of its cells. -/
theorem cells_of_read (ready : v.ReadsTabs) (read : asked.grid v = .ok g)
    (passed : Play.checkPitches v.tabStyle 1 v.roots.reverse g.rows = .ok ()) :
    ∀ row ∈ g.rows, ∀ l ∈ row, Tab.isCell l = true := by
  have noFeed := Play.noFeed_of_passed passed (checkPitches_resolves ready read)
  intro row here l inRow
  refine (letters_of_grid read row here l inRow).resolve_right ?_
  rintro rfl
  exact noFeed row here inRow

/-- The columns of a grid can be counted. -/
theorem steps_counted (ready : v.ReadsTabs) (counted : asked.lines.Counted)
    (read : asked.grid v = .ok g) : g.steps.length ≤ indexLimit := by
  obtain ⟨tab, q, b, lines, -, read'⟩ := grid_ok ready read
  obtain ⟨count, shape⟩ := Tab.grid_shape read'
  obtain ⟨row, here⟩ := List.exists_mem_of_length_pos (count ▸ ready.strung)
  obtain ⟨line, inLines, within⟩ := Tab.row_within lines read' row here
  rw [← shape row here]
  exact within.length_le.trans (counted.shown.2 line inLines)

end TabCall

/-- The letters of the columns of a grid are those of its rows. -/
theorem Grid.columns_letters {g : Grid} {P : Letter → Prop}
    (each : ∀ row ∈ g.rows, ∀ l ∈ row, P l) :
    ∀ column ∈ g.columns, ∀ l ∈ column.2, P l := by
  intro column here l inColumn
  obtain ⟨⟨step, i⟩, -, rfl⟩ := List.mem_map.1 here
  obtain ⟨row, inRows, cell⟩ := List.mem_filterMap.1 inColumn
  exact each row inRows l (List.mem_of_getElem? cell)

/-! ## §3. Playing. -/

/-- A grid takes the clock of a voice to a tick that has too many digits to be written. -/
def Grid.Overflows (g : Grid) (v : Voice) : Prop :=
  ∃ total clock, g.total = .ok total ∧ v.clock.add total = .ok clock ∧ clock.isWritable = false

section Playing

variable {γ : Type} [ChanceSource γ] {v : Voice} {g : Grid} {c : Int} {steps : List Int}

theorem Grid.overflows_iff (start : v.clock = .whole c) (whole : g.steps = steps.map .whole) :
    g.Overflows v ↔ (Quantity.whole (c + steps.sum)).isWritable = false := by
  have total : g.total = .ok (.whole steps.sum) := by
    unfold Grid.total
    rw [whole, Tab.foldlM_add_whole, Int.zero_add]
  have sum : v.clock.add (.whole steps.sum) = .ok (.whole (c + steps.sum)) := by
    rw [start]
    rfl
  unfold Grid.Overflows
  rw [total]
  constructor
  · rintro ⟨_, clock, ⟨rfl⟩, here, long⟩
    rw [sum] at here
    cases here
    exact long
  · exact fun long => ⟨_, _, rfl, sum, long⟩

/-- The report of a tab can be written if the clock can. -/
theorem Play.gridReport_isWritable (named : v.Named) (counted : g.steps.length ≤ indexLimit)
    (clock : Quantity) :
    Wording.isWritable [.shown v.name, ": played ", g.steps.length, " tab columns, clock ", clock] =
      clock.isWritable := by
  have name : v.name.isWritable = true := named
  have short := Quantity.isShort_of_counted (Nat.le_succ_of_le counted)
  show (v.name.isWritable && (true && (Quantity.isShort g.steps.length &&
    (true && (clock.isWritable && true))))) = _
  rw [name, short]
  simp

/-- At full volume a grid of cells is played; only its report may not be written. -/
theorem Play.playGrid_resolves (known : ∀ root ∈ v.roots, root.IsPitch)
    (isOpen : v.finished = false) (named : v.Named) (steady : v.config.IsSteady)
    (full : v.AtFullVolume) (start : v.clock = .whole c)
    (cells : ∀ row ∈ g.rows, ∀ l ∈ row, Tab.isCell l = true) (whole : g.steps = steps.map .whole)
    (counted : g.steps.length ≤ indexLimit) (chance : Option γ) (journal : Journal) :
    Resolves Documented (g.Overflows v) ((playGrid g).start ⟨⟨v, chance⟩, journal⟩).1 := by
  have plays := unfailing_columns (γ := γ) known steady full (Grid.columns_letters cells)
    (g.columns_steps.trans whole) c ⟨v, chance⟩ ⟨rfl, rfl, rfl, isOpen⟩
  have ends := plays.ends journal
  rw [start_playGrid, Grid.overflows_iff start whole]
  dsimp only
  rw [start]
  revert ends
  cases (columns (.whole c) g.columns).start ⟨⟨v, chance⟩, journal⟩ with
  | mk outcome after =>
    cases outcome with
    | error f => exact False.elim
    | ok clock =>
      -- The columns are played to their end, so the report decides, which shows the clock.
      rintro ⟨rfl, undimmed⟩
      dsimp only
      have named' : after.state.voice.Named := by
        unfold Voice.Named Voice.name
        rw [undimmed.config]
        exact named
      rw [Act.start_report, gridReport_isWritable named' counted]
      cases (Quantity.whole (c + steps.sum)).isWritable with
      | true => exact ⟨fun _ => .ok (), nofun⟩
      | false => exact ⟨fun none => absurd rfl none, fun _ => ⟨_, rfl, rfl⟩⟩

/-- A tab is read and played, by a voice that is open. -/
theorem Play.outcome_tab (isOpen : v.finished = false) (parts : List Datum) (stated : Datum)
    (chance : Option γ) (journal : Journal) :
    ((tab parts stated).start ⟨⟨v, chance⟩, journal⟩).1 =
      readTab v parts stated >>= fun g => ((playGrid g).start ⟨⟨v, chance⟩, journal⟩).1 := by
  rw [start_tab]
  dsimp only
  rw [isOpen, if_neg Bool.false_ne_true]
  cases readTab v parts stated <;> rfl

end Playing

/-! ## §4. Sessions. -/

theorem GeneralMidi.rootsOf_strung (percussion : Bool) (d : Datum) :
    Yields (rootsOf percussion d) fun roots => 0 < roots.length := by
  unfold rootsOf
  refine .bind fun names _ => .bind fun pitches _ => .check fun some => .pure ?_
  rw [List.isEmpty_iff] at some
  exact List.length_pos_of_ne_nil some

namespace Session

variable {γ : Type} [ChanceSource γ] {band : Band γ}

/-- Every voice has a string at every point of every session. -/
theorem throughout_strings (created : band.Created) (calls : List Call) (journal : Journal) :
    (run calls ⟨band, journal⟩).state.Throughout fun v => 0 < v.stringCount := by
  have new : ∀ v : Voice, v.New → 0 < v.stringCount := by
    intro v new
    obtain ⟨options, -, tuned, -⟩ := new.fresh
    unfold Tuning.ofConfig at tuned
    obtain ⟨patch, -, tuned⟩ := bind_ok tuned
    obtain ⟨roots, resolved, same⟩ := bind_ok tuned
    have strung := GeneralMidi.rootsOf_strung _ _ roots resolved
    unfold Voice.stringCount Voice.roots
    rw [← Except.ok.inj same]
    exact strung
  refine .run_evolved new (fun _ strung => strung) (fun v w evolved strung => ?_)
    (created.throughout new) calls
  unfold Voice.stringCount Voice.roots at strung ⊢
  rw [evolved.tuning]
  exact strung

end Session

/-- A tab that is read takes the clock to a tick that has too many digits to be written. -/
def TabCall.Overflows (asked : TabCall) (v : Voice) : Prop :=
  ∃ g, Play.readTab v asked.parts asked.statedDatum = .ok g ∧ g.Overflows v

/-- At every point of a session of declared calls, whatever their outcomes: an open voice of whole
settings without spreads, at full volume, is asked for a tab of any texts, with positive beats or
none.  It plays the tab, or refuses it in a way that is documented, unless a measure breaks it or
its clock overflows; and then it fails as a number does.  The cells of the grid are dashes and
digits but for line feeds that end measures, and there are none if all lines are in one text. -/
theorem Session.tab_resolves {γ : Type} [ChanceSource γ] {band : Band γ} (created : band.Created)
    {calls : List Call} (declared : ∀ call ∈ calls, call.Declared) (journal : Journal) {part : Part}
    {v : Voice} (plays : (run calls ⟨band, journal⟩).state.voice? part = some v)
    (isOpen : v.finished = false) (whole : v.config.Whole) (steady : v.config.IsSteady)
    (full : v.AtFullVolume) (few : v.stringCount ≤ indexLimit) (asked : TabCall)
    (counted : asked.lines.Counted) :
    Resolves Documented (asked.Breaks v ∨ asked.Overflows v)
        ((Call.move part (.tab asked.parts asked.statedDatum)).perform.start
          (run calls ⟨band, journal⟩)).1 ∧
      ∀ g, asked.grid v = .ok g →
        (∃ table : List (List Text), g.rows = table.map List.flatten ∧
          ∀ row ∈ table, ∀ m ∈ row, Tab.IsMeasure m) ∧
        (asked.lines.InOneText → ∀ row ∈ g.rows, ∀ l ∈ row, Tab.isCell l = true) := by
  have tuned := throughout_tuned created calls journal part v plays
  have clocked := clocked created declared journal part v plays whole
  obtain ⟨t, resolution, positive⟩ := clocked.resolution
  obtain ⟨c, start⟩ := clocked.clock
  have named : v.Named := ((Band.Family.of_created created).run calls).named part v plays
  have ready : v.ReadsTabs := ⟨tuned.roots, throughout_strings created calls journal part v plays,
    few, ⟨t, resolution⟩, tuned.inBounds.signature.1⟩
  refine ⟨?_, fun g read => ⟨TabCall.grid_letters read, fun one =>
    TabCall.cells_of_oneText ready one read⟩⟩
  have performs : ∀ now : Desk (Band γ), now.state.voice? part = some v →
      ((Call.move part (.tab asked.parts asked.statedDatum)).perform.start now).1 =
        ((Play.tab asked.parts asked.statedDatum).start ⟨⟨v, now.state.chance⟩, now.journal⟩).1 :=
    fun now here => congrArg Prod.fst (Perform.start_on here _)
  rw [performs _ plays, Play.outcome_tab isOpen]
  -- Reading decides first; a grid that has been read has no line feeds left in it.
  refine Resolves.bind (asked.readTab_resolves ready counted) fun g read => ?_
  rw [asked.readTab_eq v] at read
  obtain ⟨g', grid, checked⟩ := bind_ok read
  obtain ⟨⟨⟩, passed, same⟩ := bind_ok checked
  cases same
  obtain ⟨tab, q, b, lines, wholeBeats, gridHere⟩ := TabCall.grid_ok ready grid
  obtain ⟨-, tabLines, table, parts, -, fills⟩ := Tab.exists_fills resolution wholeBeats gridHere
  exact Play.playGrid_resolves tuned.roots isOpen named steady full start
    (TabCall.cells_of_read ready grid passed) fills.steps (TabCall.steps_counted ready counted grid)
    _ _

/-! ## §5. A line feed in front of a bar. -/

/-- A list of one line, with a line feed in front of its last bar. -/
def feedCall : TabCall := ⟨.list ["|0\n|"], none, none, by simp⟩

/-- On a new instrument of one string the line passes for grid text, and yet the tab fails as a
number does. -/
theorem feed_undocumented :
    ∃ (desk : Desk (Band Script)) (v : Voice),
      Session.begin [] [("strings", .list [.whole 40])] = .ok desk ∧
      desk.state.voice? .master = some v ∧ v.finished = false ∧ v.config.IsSteady ∧ v.AtFullVolume ∧
      (∃ g, feedCall.grid v = .ok g ∧ g.rows = [("0\n" : Text)]) ∧
      ¬Documented ((Call.move .master (.tab feedCall.parts feedCall.statedDatum)).perform.start
        desk).1 := by
  have seen : ((Session.begin [] [("strings", .list [.whole 40])]).toOption.map
      fun desk : Desk (Band Script) =>
      let v := desk.state.master
      ((feedCall.grid v).toOption.map (·.rows),
        faultKind? ((Call.move .master (.tab feedCall.parts feedCall.statedDatum)).perform.start
          desk).1,
        [v.finished, decide v.config.IsSteady, decide v.AtFullVolume])) =
      some (some [("0\n" : Text)], some .value, [false, true, true]) := by
    decide +kernel
  obtain ⟨desk, accepted, seen⟩ := exists_ok_of_seen seen
  simp only [Prod.mk.injEq, List.cons.injEq] at seen
  obtain ⟨read, fails, isOpen, steady, full, -⟩ := seen
  obtain ⟨g, read, rows⟩ := exists_ok_of_seen read
  obtain ⟨f, failed, kind⟩ := exists_error_of_kind fails
  refine ⟨desk, desk.state.master, accepted, rfl, isOpen, of_decide_eq_true steady,
    of_decide_eq_true full, ⟨g, read, rows⟩, fun documented => ?_⟩
  have known := documented f failed
  rw [kind] at known
  cases known

/-- A tab that two strings play first. -/
def pluckedTab : Call := .move .master (.tab [.text "|3-|", .text "|-2|"] .null)

/-- Lines after a number of beats, the lower one with a line feed in front of its last bar. -/
def brokenCall : TabCall :=
  ⟨.each ["|-7-|---|", "|-5-|-2\n|"], some (.whole 4), none, by
    intro q stated
    have four : .whole 4 = q := by simpa using stated
    exact ⟨4, by rw [← four]; rfl, by decide⟩⟩

/-- No line is too high, so the line feed breaks the tab, though its cells are dashes and digits but
for it. -/
theorem feed_breaks :
    ∃ (desk : Desk (Band Script)) (v : Voice),
      Session.begin [] [("strings", .list [.whole 40, .whole 45])] = .ok desk ∧
      (Session.run [pluckedTab] desk).state.voice? .master = some v ∧ v.clock = .whole 768 ∧
      (∃ f, ((Call.move .master (.tab brokenCall.parts brokenCall.statedDatum)).perform.start
        (Session.run [pluckedTab] desk)).1 = .error f ∧ f.kind = .value) ∧
      ∃ g, brokenCall.grid v = .ok g ∧ ∃ table : List (List Text),
        g.rows = table.map List.flatten ∧ ∀ row ∈ table, ∀ m ∈ row, Tab.IsMeasure m := by
  have seen : ((Session.begin [] [("strings", .list [.whole 40, .whole 45])]).toOption.map
      fun desk : Desk (Band Script) =>
      let v := (Session.run [pluckedTab] desk).state.master
      ((brokenCall.grid v).toOption.map (·.rows), v.clock,
        [v.finished, decide v.config.Declared, decide v.config.IsSteady, decide v.AtFullVolume,
          decide (v.stringCount ≤ indexLimit),
          (Play.checkPitches v.tabStyle 1 v.roots.reverse [("-7----" : Text)]).toBool])) =
      some (some [("-7----" : Text), ("-5--2\n" : Text)], .whole 768,
        [false, true, true, true, true, true]) := by
    decide +kernel
  obtain ⟨desk, accepted, seen⟩ := exists_ok_of_seen seen
  simp only [Prod.mk.injEq, List.cons.injEq] at seen
  obtain ⟨read, clock, isOpen, declared, steady, full, few, passed, -⟩ := seen
  obtain ⟨g, read, rows⟩ := exists_ok_of_seen read
  obtain ⟨⟨⟩, passed⟩ := exists_ok_of_toBool passed
  have asked : ∀ call ∈ [pluckedTab], call.Declared := List.forall_mem_singleton.2 (.inl rfl)
  have plays : (Session.run [pluckedTab] desk).state.voice? .master =
      some (Session.run [pluckedTab] desk).state.master := rfl
  have counted : brokenCall.lines.Counted := ⟨by decide, by decide⟩
  have breaks : brokenCall.Breaks (Session.run [pluckedTab] desk).state.master :=
    ⟨g, read, [_], "-5--2\n", [], rows, passed, by decide⟩
  obtain ⟨resolves, cells⟩ := Session.tab_resolves (Session.begin_created _ _ desk accepted) asked
    desk.journal plays isOpen (of_decide_eq_true declared).toWhole (of_decide_eq_true steady)
    (of_decide_eq_true full) (of_decide_eq_true few) brokenCall counted
  exact ⟨desk, _, accepted, plays, clock, resolves.fails (.inl breaks), g, read, (cells g read).1⟩

end Plectrum
