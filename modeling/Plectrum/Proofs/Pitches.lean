/-
  Plectrum.Proofs.Pitches
  ───────────────────────
  **Three checks keep all pitches in range.**

  Pitches are checked in three places: the roots when a tuning is resolved, the frets when a
  chord is read, and the highest digit of each line when a tab is read.  What passes these
  checks is what is played: a fret that was read is added to the root that it was checked
  with, and every cell of a column belongs to a line that was checked for a digit at least as
  high.

  Main results:
    * `Tuning.ofConfig_pitches` — the roots of every accepted tuning are pitches;
    * `Chord.frets_fit` — so are the fretted strings of every chord that is read;
    * `Play.readTab_fits` — and the struck cells of every tab that is read.
-/
import Plectrum.Proofs.Grids
import Plectrum.Proofs.Overruns
import Plectrum.Voice.Tab

namespace Plectrum

/-- A whole number that MIDI knows as a pitch, or as a key. -/
def Quantity.IsPitch (q : Quantity) : Prop := ∃ n : Int, q.integer? = some n ∧ 0 ≤ n ∧ n ≤ 127

/-! ## §1. Roots. -/

/-- A walk yields items with a property if each step does. -/
theorem Yields.mapM_forall {α β : Type} {step : α → Except Fault β} {P : β → Prop} {as : List α}
    (h : ∀ a ∈ as, Yields (step a) P) : Yields (as.mapM step) fun bs => ∀ b ∈ bs, P b := by
  intro bs walked
  have each := Yields.mapM (R := fun _ => P) h bs walked
  clear walked
  induction each with
  | nil => exact List.forall_mem_nil _
  | cons here _ ih =>
    exact List.forall_mem_cons.2 ⟨here, ih fun a inside => h a (List.mem_cons_of_mem _ inside)⟩

namespace GeneralMidi

theorem isPitch_of_isKey {q : Quantity} {n : Int} (whole : q.integer? = some n)
    (known : isKey n = true) : q.IsPitch := by
  obtain ⟨low, high⟩ := Bool.and_eq_true_iff.1 known
  exact ⟨n, whole, of_decide_eq_true low, of_decide_eq_true high⟩

/-- The named drums end long before the last key. -/
theorem drumNamed_isPitch (name : Text) : Yields (drumNamed name) Quantity.IsPitch := by
  unfold drumNamed
  split
  · next n found =>
    obtain ⟨inside, -⟩ := List.findIdx?_eq_some_iff_getElem.1 found
    have size : drumNames.length = 47 := rfl
    have first : firstDrum = 35 := rfl
    exact .pure ⟨_, rfl, by omega, by omega⟩
  · exact .error _

theorem drum_isPitch (d : Datum) : Yields (drum d) Quantity.IsPitch := by
  unfold drum
  split
  · exact drumNamed_isPitch _
  · split
    · next whole =>
      split
      · next known => exact .pure (isPitch_of_isKey whole known)
      · exact .error _
    · exact .error _
  · exact .error _

theorem noteNamed_isPitch (name : Text) : Yields (noteNamed name) Quantity.IsPitch := by
  unfold noteNamed
  split
  · exact .error _
  · split
    · next known => exact .pure (isPitch_of_isKey rfl known)
    · exact .error _

theorem pitch_isPitch (d : Datum) : Yields (pitch d) Quantity.IsPitch := by
  unfold pitch
  split
  · exact noteNamed_isPitch _
  · split
    · next whole =>
      split
      · next known => exact .pure (isPitch_of_isKey whole known)
      · exact .error _
    · exact .error _
  · exact .bind fun name _ => noteNamed_isPitch name

theorem rootsOf_pitches (percussion : Bool) (d : Datum) :
    Yields (rootsOf percussion d) fun roots => ∀ root ∈ roots, root.IsPitch := by
  have each : ∀ d, Yields ((if percussion then drum else pitch) d) Quantity.IsPitch := by
    cases percussion with
    | true => exact drum_isPitch
    | false => exact pitch_isPitch
  unfold rootsOf
  refine .bind fun names _ => .bind fun pitches resolved => .check fun _ => .pure ?_
  exact Yields.mapM_forall (fun d _ => each d) pitches resolved

end GeneralMidi

/-- The roots of a tuning are pitches. -/
theorem Tuning.ofConfig_pitches (config : Config) :
    Yields (Tuning.ofConfig config) fun tuning => ∀ root ∈ tuning.roots, root.IsPitch := by
  unfold ofConfig
  refine .bind fun patch _ => .bind fun roots resolved => .pure ?_
  exact GeneralMidi.rootsOf_pitches _ _ roots resolved

/-! ## §2. Chords. -/

namespace Chord

/-- Frets that keep their strings in range. -/
def Fits (roots : List Quantity) (frets : List (Option Int)) : Prop :=
  ∀ (i : Nat) (root : Quantity) (n : Int), roots[i]? = some root → frets[i]? = some (some n) →
    Yields (root.add (.whole n)) Quantity.IsPitch

theorem fret_fits (chord : Datum) {root : Quantity} (known : root.IsPitch) (item : Datum) :
    Yields (fret chord root item) fun fret? =>
      ∀ n, fret? = some n → Yields (root.add (.whole n)) Quantity.IsPitch := by
  obtain ⟨r, whole, -, -⟩ := known
  unfold fret
  split
  · exact .pure fun _ none_ => nomatch none_
  · exact .pure fun _ none_ => nomatch none_
  · refine .bind fun number _ => ?_
    cases number with
    | none => exact .error _
    | some n =>
      have sum : root.add (.whole n) = .ok (.whole (r + n)) := Quantity.add_of_integer whole rfl
      refine .bind fun pitch pitched => ?_
      rw [sum] at pitched
      cases pitched
      split
      · next within =>
        rw [Quantity.le_whole, Quantity.le_whole, Bool.and_eq_true, decide_eq_true_eq,
          decide_eq_true_eq] at within
        refine .pure ?_
        rintro _ ⟨rfl⟩
        rw [sum]
        exact .pure ⟨r + n, rfl, within⟩
      · exact .error _

/-- The frets of a chord that is read keep their strings in range. -/
theorem frets_fit {roots : List Quantity} (known : ∀ root ∈ roots, root.IsPitch) (chord : Datum) :
    Yields (frets roots chord) (Fits roots) := by
  unfold frets
  refine .bind fun entries _ => .check fun _ => ?_
  intro frets read
  have each := Yields.mapM (fun string inZip => fret_fits chord
    (known string.1 (List.of_mem_zip inZip).1) string.2) frets read
  intro i root n rooted fretted
  obtain ⟨inFrets, here⟩ := List.getElem?_eq_some_iff.1 fretted
  have inZip := inFrets
  rw [← each.length_eq] at inZip
  have fits := each.get inZip inFrets
  rw [List.get_eq_getElem, List.get_eq_getElem, List.getElem_zip] at fits
  obtain ⟨inRoots, same⟩ := List.getElem?_eq_some_iff.1 rooted
  rw [← same]
  exact fits n here

end Chord

/-! ## §3. Lines of a tab. -/

/-- A cell that is silent, or keeps the string or drum with a root in range. -/
def TabStyle.CellFits (style : TabStyle) (root : Quantity) (l : Letter) : Prop :=
  l ≠ '-' → ∀ digit, Tab.cellDigit l = .ok digit →
    Yields (style.strike root (.whole digit)) fun struck => struck.1.IsPitch

namespace Play

/-- No digit of a line is higher than its highest. -/
theorem highestDigit_ge (row : Text) :
    Yields (highestDigit row) fun highest =>
      ∀ l ∈ row, l ≠ '-' → ∀ digit, Tab.cellDigit l = .ok digit → digit ≤ highest := by
  unfold highestDigit
  refine .bind fun digits read => .pure fun l inRow struck digit here => ?_
  have each := Yields.mapM (R := fun l digit => Tab.cellDigit l = .ok digit)
    (fun _ _ _ read => read) digits read
  have inFilter : l ∈ row.filter (· != .char '-') :=
    List.mem_filter.2 ⟨inRow, bne_iff_ne.2 struck⟩
  obtain ⟨i, inside, rfl⟩ := List.mem_iff_getElem.1 inFilter
  have inDigits := inside
  rw [each.length_eq] at inDigits
  have there := each.get inside inDigits
  rw [List.get_eq_getElem, List.get_eq_getElem, here] at there
  rw [Except.ok.inj there]
  exact List.le_max?_getD_of_mem (List.getElem_mem inDigits)

/-- A cell fits if the highest digit of its line does. -/
theorem cellFits_of_le {style : TabStyle} {root : Quantity} (known : root.IsPitch) {highest : Nat}
    {pitch : Quantity} {velocity : Int}
    (top : style.strike root (.whole highest) = .ok (pitch, velocity))
    (within : (Quantity.whole 127).lt pitch = false) {l : Letter}
    (below : l ≠ '-' → ∀ digit, Tab.cellDigit l = .ok digit → digit ≤ highest) :
    style.CellFits root l := by
  intro struck digit here
  have le := below struck digit here
  obtain ⟨r, whole, low, high⟩ := known
  cases style with
  | hits => exact .bind fun _ _ => .pure ⟨r, whole, low, high⟩
  | frets =>
    unfold TabStyle.strike at top ⊢
    rw [Quantity.add_of_integer whole (q := .whole highest) rfl] at top
    cases top
    rw [Quantity.add_of_integer whole (q := .whole digit) rfl]
    rw [Quantity.lt_whole, decide_eq_false_iff_not] at within
    exact .pure ⟨r + digit, rfl, by omega, by omega⟩

/-- The lines that pass the check of pitches fit their roots. -/
theorem checkPitches_fits {style : TabStyle} {roots : List Quantity}
    (known : ∀ root ∈ roots, root.IsPitch) {rows : List Text} {line : Nat}
    (passed : checkPitches style line roots rows = .ok ()) :
    ∀ (i : Nat) (root : Quantity) (row : Text), roots[i]? = some root → rows[i]? = some row →
      ∀ l ∈ row, style.CellFits root l := by
  induction roots generalizing rows line with
  | nil =>
    intro i root row rooted
    cases rooted
  | cons root roots ih =>
    cases rows with
    | nil =>
      intro i root row _ rowed
      cases rowed
    | cons row rows =>
      obtain ⟨first, others⟩ := List.forall_mem_cons.1 known
      unfold checkPitches at passed
      obtain ⟨highest, read, passed⟩ := bind_ok passed
      obtain ⟨⟨pitch, velocity⟩, top, passed⟩ := bind_ok passed
      obtain ⟨within, passed⟩ := check_ok passed
      rw [Bool.not_eq_true] at within
      intro i root' row' rooted rowed
      cases i with
      | zero =>
        cases rooted
        cases rowed
        exact fun l inRow =>
          cellFits_of_le first top within (highestDigit_ge row highest read l inRow)
      | succ i => exact ih others passed i root' row' rooted rowed

end Play

/-! ## §4. Columns of a tab. -/

/-- The cells of a column stand in the rows, line by line. -/
theorem Grid.columns_cells {g : Grid} (shape : ∀ row ∈ g.rows, row.length = g.steps.length) :
    ∀ column ∈ g.columns, ∀ (line : Nat) (l : Letter), column.2[line]? = some l →
      ∃ row, g.rows[line]? = some row ∧ l ∈ row := by
  intro column inGrid line l here
  obtain ⟨⟨step, i⟩, inSteps, rfl⟩ := List.mem_map.1 inGrid
  have reaches : ∀ row ∈ g.rows, i < row.length := by
    intro row inRows
    have bound := (List.mem_zipIdx inSteps).2.1
    rw [shape row inRows]
    omega
  change (g.rows.filterMap (·[i]?))[line]? = some l at here
  rw [getElem?_column reaches, Option.bind_eq_some_iff] at here
  obtain ⟨row, rowed, cell⟩ := here
  exact ⟨row, rowed, List.mem_of_getElem? cell⟩

/-- A cell that fits the string of its line in a voice. -/
def Voice.CellFits (v : Voice) (line : Nat) (l : Letter) : Prop :=
  ∀ root, v.roots[v.stringCount - line - 1]? = some root → v.tabStyle.CellFits root l

/-- The cells of a tab that is read fit their strings. -/
theorem Play.readTab_fits {v : Voice} (known : ∀ root ∈ v.roots, root.IsPitch)
    (parts : List Datum) (beats : Datum) :
    Yields (readTab v parts beats) fun g => ∀ column ∈ g.columns, ∀ (line : Nat) (l : Letter),
      column.2[line]? = some l → v.CellFits line l := by
  unfold readTab
  refine .bind fun asked _ => .bind fun g read => .bind fun u checked => .pure ?_
  cases u
  obtain ⟨count, shape⟩ := Tab.grid_shape read
  intro column inGrid line l here root rooted
  obtain ⟨row, rowed, inRow⟩ := Grid.columns_cells shape column inGrid line l here
  have inRoots := (List.getElem?_eq_some_iff.1 rowed).1
  rw [count] at inRoots
  change line < v.roots.length at inRoots
  have reversed : v.roots.reverse[line]? = some root := by
    rw [List.getElem?_reverse inRoots, ← rooted]
    congr 1
    show v.roots.length - 1 - line = v.roots.length - line - 1
    omega
  exact checkPitches_fits (fun root inside => known root (List.mem_reverse.1 inside)) checked
    line root row reversed rowed l inRow

end Plectrum
