/-
  Plectrum.Proofs.TabCalls
  ────────────────────────
  **Lines that are no grid are refused in a documented way.**

  A tab is called for with one text, with a list of texts, or with a text for each line, and with a
  number of beats before or beside them.  Blank lines aside, there have to be as many lines as
  strings, all of grid text, with bars in the same places, and with measures that can be cut into
  steps.  For each of these there is a fault of its own, which can always be written, as lines can
  be counted.

  What passes for grid text may end in a line feed.  So in a grid there may be line feeds among the
  cells, at the ends of measures; but there are none if all lines are in one text, which is cut into
  lines at each of them.

  Main results:
    * `Tab.isGridText_iff` — what passes for a measure;
    * `TabCall.ofParts_cases` — which lines and which beats a tab is read with;
    * `Tab.documented_grid` — lines fail to be a grid in a documented way;
    * `Tab.rows_of_measures` — the rows of a grid are measures.
-/
import Plectrum.Proofs.ClosedNames
import Plectrum.Proofs.Layouts

namespace Plectrum

open Text

/-! ## §1. Documented faults. -/

/-- The families of the mistakes that a tab may have: its lines are no grid text, they do not suit
the voice, or they do not suit each other. -/
def FaultKind.isOfTab : FaultKind → Bool
  | .parse | .configuration | .format => true
  | _ => false

/-- A result that is none, or a mistake that a tab may have. -/
def Documented {α : Type} (result : Except Fault α) : Prop :=
  ∀ f, result = .error f → f.kind.isOfTab = true

section Documented

variable {α β : Type} {result : Except Fault α} {next : α → Except Fault β}

namespace Documented

theorem ok (a : α) : Documented (.ok a : Except Fault α) := nofun

theorem error {f : Fault} {kind : FaultKind} (same : f.kind = kind) (known : kind.isOfTab = true) :
    Documented (.error f : Except Fault α) := by
  intro g failed
  cases failed
  rw [same]
  exact known

theorem bind (first : Documented result) (then_ : ∀ a, result = .ok a → Documented (next a)) :
    Documented (result >>= next) := by
  cases result with
  | ok a => exact then_ a rfl
  | error f => exact fun g failed => first g (by cases failed; rfl)

theorem ok_bind {a : α} (then_ : Documented (next a)) :
    Documented ((.ok a : Except Fault α) >>= next) := then_

/-- A walk is documented if each of its steps is. -/
theorem mapM {step : α → Except Fault β} {as : List α} (each : ∀ a ∈ as, Documented (step a)) :
    Documented (as.mapM step) := by
  intro f failed
  obtain ⟨a, here, failed⟩ := exists_of_mapM_error failed
  exact each a here f failed

theorem resolves (h : Documented result) : Resolves Documented False result := ⟨fun _ => h, nofun⟩

end Documented

/-- What fails to be resolved first decides. -/
theorem Resolves.bind {unread : Prop} {unread' : α → Prop}
    (first : Resolves Documented unread result)
    (then_ : ∀ a, result = .ok a → Resolves Documented (unread' a) (next a)) :
    Resolves Documented (unread ∨ ∃ a, result = .ok a ∧ unread' a) (result >>= next) := by
  cases result with
  | ok a =>
    -- The first step went well, so nothing in it is unreadable, and the second decides.
    have read : ¬unread := by
      intro here
      obtain ⟨f, failed, -⟩ := first.fails here
      cases failed
    obtain ⟨readable, fails⟩ := then_ a rfl
    refine ⟨fun none => readable fun here => none (.inr ⟨a, rfl, here⟩), ?_⟩
    rintro (here | ⟨_, ⟨rfl⟩, here⟩)
    · exact absurd here read
    · exact fails here
  | error f =>
    have passes : ∀ {g : Fault}, (.error f : Except Fault α) = .error g →
        (.error f : Except Fault β) = .error g := by
      rintro g ⟨rfl⟩
      rfl
    refine ⟨fun none g failed => ?_, ?_⟩
    · exact first.readable (fun here => none (.inl here)) g (by cases failed; rfl)
    · rintro (here | ⟨_, failed, -⟩)
      · obtain ⟨g, failed, kind⟩ := first.fails here
        exact ⟨g, passes failed, kind⟩
      · cases failed

theorem Resolves.congr {unread unread' : Prop} (h : Resolves Documented unread result)
    (same : unread ↔ unread') : Resolves Documented unread' result :=
  ⟨fun none => h.readable (mt same.1 none), fun here => h.fails (same.2 here)⟩

/-- What is documented at the second step does not change what decides at the first. -/
theorem Resolves.bind_documented {unread : Prop} (first : Resolves Documented unread result)
    (then_ : ∀ a, result = .ok a → Documented (next a)) :
    Resolves Documented unread (result >>= next) := by
  have second : ∀ a, result = .ok a → Resolves Documented False (next a) :=
    fun a read => (then_ a read).resolves
  exact (first.bind second).congr (by simp)

end Documented

/-! ## §2. Numbers in messages. -/

namespace Quantity

/-- What can be counted can be written. -/
theorem isShort_of_counted {n : Nat} (counted : n ≤ indexLimit + 1) : isShort n = true := by
  have room : indexLimit + 1 < tenTo digitLimit := by decide +kernel
  unfold isShort
  generalize tenTo digitLimit = limit at room
  exact decide_eq_true (by omega)

/-- A small whole number can be written. -/
theorem isWritable_of_small {q : Quantity} {n : Int} (whole : q.integer? = some n) (low : 0 ≤ n)
    (high : n ≤ 136) : q.isWritable = true := by
  have room : 136 ≤ indexLimit + 1 := by decide
  cases q with
  | whole m =>
    cases whole
    exact isShort_of_counted (by omega)
  | truth b => rfl
  | ratio r => cases whole
  | float x => cases whole

end Quantity

namespace Fault

theorem kind_measureSize {width : Nat} (short : Quantity.isShort width = true) (line : Text) :
    (measureSize width line).kind = .format := by
  have writable : (measureSize width line).wording.isWritable = true := by
    show (true && (Quantity.isShort width && (true && (true && true)))) = true
    rw [short]
    rfl
  unfold kind
  rw [if_pos writable]
  rfl

theorem kind_tabLineCount {expected found : Nat} (short : Quantity.isShort expected = true)
    (short' : Quantity.isShort found = true) :
    (tabLineCount (.whole expected) found).kind = .configuration := by
  have writable : (tabLineCount (.whole expected) found).wording.isWritable = true := by
    show (true && (Quantity.isShort expected && (true && (Quantity.isShort found && true)))) = true
    rw [short, short']
    rfl
  unfold kind
  rw [if_pos writable]
  rfl

theorem kind_tabPitch {line : Nat} {pitch : Quantity} (short : Quantity.isShort line = true)
    (writable : pitch.isWritable = true) :
    (tabPitchOutOfRange line pitch).kind = .configuration := by
  have written : (tabPitchOutOfRange line pitch).wording.isWritable = true := by
    show (true && (Quantity.isShort line && (true && (pitch.isWritable && (true && true))))) = true
    rw [short, writable]
    rfl
  unfold kind
  rw [if_pos written]
  rfl

/-- What is no digit fails as a number does, whether or not it can be quoted. -/
theorem kind_notAnInteger (base : Nat) (given : Datum) :
    (notAnInteger base given).kind = .value := by
  unfold kind
  split <;> rfl

end Fault

/-! ## §3. Lines. -/

namespace Text

/-- Of a text that is cut at some letters, those letters are lost. -/
theorem flatten_splitWhere (p : Letter → Bool) (t : Text) :
    (splitWhere p t).flatten = t.filter fun l => !p l := by
  induction t with
  | nil => rfl
  | cons l t ih =>
    rw [splitWhere]
    cases cuts : p l with
    | true => simp [cuts, ih]
    | false =>
      cases pieces : splitWhere p t with
      | nil => exact absurd pieces (splitWhere_ne_nil p t)
      | cons piece rest =>
        rw [pieces] at ih
        simp [consPiece, cuts, ← ih]

end Text

namespace Tab

/-- What passes for a measure: cells, at least one, and perhaps a line feed behind them. -/
def IsMeasure (m : Text) : Prop :=
  ∃ cells : Text, cells ≠ [] ∧ (∀ l ∈ cells, isCell l = true) ∧
    (m = cells ∨ m = cells ++ [.char '\n'])

theorem isGridText_iff (m : Text) : isGridText m = true ↔ IsMeasure m := by
  have cells_iff : ∀ cells : Text, (!cells.isEmpty && cells.all isCell) = true ↔
      cells ≠ [] ∧ ∀ l ∈ cells, isCell l = true := by
    intro cells
    simp
  unfold isGridText IsMeasure
  by_cases feeds : m.getLast? = some (.char '\n')
  · obtain ⟨front, rfl⟩ := List.getLast?_eq_some_iff.1 feeds
    rw [if_pos feeds, List.dropLast_concat, cells_iff]
    constructor
    · rintro ⟨some, cells⟩
      exact ⟨front, some, cells, .inr rfl⟩
    · rintro ⟨cells, some, each, same | same⟩
      · -- A line feed is no cell.
        have feed := each (.char '\n') (by rw [← same]; simp)
        exact absurd feed (by decide)
      · rw [List.append_left_inj] at same
        exact same ▸ ⟨some, each⟩
  · rw [if_neg feeds, cells_iff]
    constructor
    · rintro ⟨some, cells⟩
      exact ⟨m, some, cells, .inl rfl⟩
    · rintro ⟨cells, some, each, rfl | rfl⟩
      · exact ⟨some, each⟩
      · simp at feeds

/-- In a measure there are cells and line feeds. -/
theorem IsMeasure.letters {m : Text} (measure : IsMeasure m) :
    ∀ l ∈ m, isCell l = true ∨ l = .char '\n' := by
  obtain ⟨cells, -, each, rfl | rfl⟩ := measure
  · exact fun l here => .inl (each l here)
  · intro l here
    rcases List.mem_append.1 here with here | here
    · exact .inl (each l here)
    · exact .inr (List.mem_singleton.1 here)

/-- What stands between the bars of a line is a part of the line. -/
theorem body?_sublist {line body : Text} (here : body? line = some body) : body.Sublist line := by
  have whole : line.takeWhile (· != .char '|') ++ line.dropWhile (· != .char '|') = line :=
    List.takeWhile_append_dropWhile
  unfold body? at here
  split at here
  · cases here
  · next bar rest behind =>
    have bars : bar = .char '|' := by
      have stops := stops_dropWhile (fun l : Letter => l != .char '|') line bar
      rw [behind] at stops
      simpa using stops rfl
    rw [behind, bars] at whole
    rw [← whole]
    cases here
    split
    · exact (List.sublist_cons_self _ _).trans (List.sublist_append_right _ _)
    · exact (trim_within _).sublist.append (List.Sublist.refl _)

theorem dropEmptyFront_sublist (pieces : List Text) : (dropEmptyFront pieces).Sublist pieces := by
  unfold dropEmptyFront
  split
  · exact List.sublist_cons_self _ _
  · exact List.Sublist.refl _

theorem dropBlankEnd_sublist (pieces : List Text) : (dropBlankEnd pieces).Sublist pieces := by
  unfold dropBlankEnd
  split
  · split
    · exact List.dropLast_sublist _
    · exact List.Sublist.refl _
  · exact List.Sublist.refl _

/-- The measures of a line are measures, and together they are a part of the line. -/
theorem measures_ok {line : Text} {row : List Text} (read : measures line = .ok row) :
    (∀ m ∈ row, IsMeasure m) ∧ row.flatten.Sublist line := by
  unfold measures at read
  split at read
  · cases read
  · next body here =>
    dsimp only at read
    split at read
    · next passed =>
      cases read
      obtain ⟨-, each⟩ := Bool.and_eq_true_iff.1 passed
      refine ⟨fun m inRow => (isGridText_iff m).1 (List.all_eq_true.1 each m inRow), ?_⟩
      -- Pieces are left out at both ends, and none is added.
      have kept := ((dropBlankEnd_sublist _).trans
        (dropEmptyFront_sublist (splitWhere (· == '|') body))).flatten
      rw [flatten_splitWhere] at kept
      exact kept.trans (List.filter_sublist.trans (body?_sublist here))
    · cases read

/-- A line that is no grid text is a mistake that a tab may have. -/
theorem documented_measures (line : Text) : Documented (measures line) := by
  have refused : Documented (.error (.badTabLine line) : Except Fault (List Text)) :=
    .error rfl rfl
  unfold measures
  split
  · exact refused
  · dsimp only
    split
    · exact .ok _
    · exact refused

/-- The lines that are seen of some texts are no longer than they. -/
theorem visible_counted {texts : List Text} {most : Nat} (short : ∀ t ∈ texts, t.length ≤ most) :
    ∀ line ∈ texts.filterMap visible?, line.length ≤ most := by
  intro line here
  obtain ⟨t, within, seen⟩ := List.mem_filterMap.1 here
  unfold visible? at seen
  dsimp only at seen
  split at seen
  · cases seen
  · cases seen
    exact (trim_within t).length_le.trans (short t within)

/-- A text has no more lines than letters, or one. -/
theorem linesOfText_counted (t : Text) :
    (linesOfText t).length ≤ t.length + 1 ∧ ∀ line ∈ linesOfText t, line.length ≤ t.length := by
  rw [linesOfText_eq]
  constructor
  · have pieces := length_splitWhere isLineBreak t
    have seen := List.length_filterMap_le visible? (splitWhere isLineBreak t)
    have breaks := List.countP_le_length (p := isLineBreak) (l := t)
    omega
  · exact visible_counted fun piece here => (infix_of_mem_splitWhere here).length_le

/-- There is no line feed within the lines of a text. -/
theorem linesOfText_noFeed (t : Text) : ∀ line ∈ linesOfText t, Letter.char '\n' ∉ line := by
  intro line here feed
  rw [linesOfText_eq] at here
  obtain ⟨piece, within, seen⟩ := List.mem_filterMap.1 here
  unfold visible? at seen
  dsimp only at seen
  split at seen
  · cases seen
  · cases seen
    have inside : Letter.char '\n' ∈ piece := (trim_within piece).subset feed
    have breaks := not_of_mem_splitWhere isLineBreak t piece within _ inside
    exact absurd breaks (by decide)

end Tab

/-! ## §4. Calls. -/

/-- The lines of a tab as they are given: one text, a list of texts, or a text for each line. -/
inductive TabLines where
  | text (t : Text)
  | list (texts : List Text)
  | each (texts : List Text)

namespace TabLines

def parts : TabLines → List Datum
  | .text t => [.text t]
  | .list texts => [.list (texts.map .text)]
  | .each texts => texts.map .text

def texts : TabLines → List Text
  | .text t => [t]
  | .list texts | .each texts => texts

/-- The lines that are not blank.  A text that is given alone has all lines. -/
def shown : TabLines → List Text
  | .text t | .each [t] => Tab.linesOfText t
  | .list texts | .each texts => texts.filterMap Tab.visible?

/-- All lines are in one text. -/
def InOneText (lines : TabLines) : Prop := ∃ t, lines = .text t ∨ lines = .each [t]

/-- No list and no text is longer than there are numbers to count it. -/
structure Counted (lines : TabLines) : Prop where
  count : lines.texts.length ≤ indexLimit
  length : ∀ t ∈ lines.texts, t.length ≤ indexLimit

/-- What is shown can be counted as well. -/
theorem Counted.shown {lines : TabLines} (counted : lines.Counted) :
    lines.shown.length ≤ indexLimit + 1 ∧ ∀ line ∈ lines.shown, line.length ≤ indexLimit := by
  have one : ∀ t : Text, t.length ≤ indexLimit →
      (Tab.linesOfText t).length ≤ indexLimit + 1 ∧
        ∀ line ∈ Tab.linesOfText t, line.length ≤ indexLimit := by
    intro t short
    obtain ⟨few, each⟩ := Tab.linesOfText_counted t
    exact ⟨by omega, fun line here => (each line here).trans short⟩
  have many : ∀ texts : List Text, texts.length ≤ indexLimit →
      (∀ t ∈ texts, t.length ≤ indexLimit) →
      (texts.filterMap Tab.visible?).length ≤ indexLimit + 1 ∧
        ∀ line ∈ texts.filterMap Tab.visible?, line.length ≤ indexLimit := by
    intro texts few short
    have seen := List.length_filterMap_le Tab.visible? texts
    exact ⟨by omega, Tab.visible_counted short⟩
  obtain ⟨count, length⟩ := counted
  cases lines with
  | text t => exact one t (length t List.mem_cons_self)
  | list texts => exact many texts count length
  | each texts =>
    cases texts with
    | nil => exact many [] count length
    | cons t rest =>
      cases rest with
      | nil => exact one t (length t List.mem_cons_self)
      | cons u rest => exact many (t :: u :: rest) count length

theorem parts_texts (lines : TabLines) : ∀ d ∈ lines.parts, d.int? = none := by
  cases lines with
  | text t => simp [parts, Datum.int?]
  | list texts => simp [parts, Datum.int?]
  | each texts => simp [parts, Datum.int?]

end TabLines

namespace TabText

variable {parts : List Datum}

/-- What texts are together: one of them by itself, and more of them as a list. -/
def together : List Datum → Datum
  | [text] => text
  | texts => .list texts

/-- Texts are a tab, if there are any. -/
theorem ofParts_texts (texts : ∀ d ∈ parts, d.int? = none) (some : parts ≠ []) (beats : Datum) :
    ofParts parts beats = .ok ⟨beats, together parts⟩ := by
  have numberless : (parts.any fun d => d.int?.isSome) = false := by
    simpa using texts
  obtain ⟨first, rest, rfl⟩ := List.exists_cons_of_ne_nil some
  have noNumber := texts first List.mem_cons_self
  cases rest with
  | nil => simp [ofParts, together, noNumber]
  | cons second rest =>
    unfold ofParts together
    simp only [noNumber, Option.isSome_none, Bool.false_eq_true, if_false, numberless]
    rfl

/-- A number in front of texts is the number of beats. -/
theorem ofParts_front {q : Quantity} {b : Int} (whole : q.integer? = some b)
    (texts : ∀ d ∈ parts, d.int? = none) (some : parts ≠ []) (beats : Datum) :
    ofParts (.number q :: parts) beats = .ok ⟨.number q, together parts⟩ := by
  have number : (Datum.number q).int?.isSome = true := by
    show q.integer?.isSome = true
    rw [whole]
    rfl
  rw [← ofParts_texts texts some (.number q)]
  obtain ⟨first, rest, rfl⟩ := List.exists_cons_of_ne_nil some
  have noNumber := texts first List.mem_cons_self
  cases rest with
  | nil => simp [ofParts, number, noNumber]
  | cons second rest => simp [ofParts, number, noNumber]

/-- A number alone is no tab. -/
theorem ofParts_number {q : Quantity} {b : Int} (whole : q.integer? = some b) (beats : Datum) :
    ofParts [.number q] beats = .error .noTabText := by
  simp [ofParts, Datum.int?, whole]

end TabText

/-- Together the texts have the lines that are shown. -/
theorem TabLines.linesOfDatum (lines : TabLines) (some : lines.parts ≠ []) :
    Tab.linesOfDatum (TabText.together lines.parts) = .ok lines.shown := by
  have read : ∀ texts : List Text, (texts.map Datum.text).mapM Datum.asText = .ok texts := by
    intro texts
    induction texts with
    | nil => rfl
    | cons t texts ih =>
      rw [List.map_cons, List.mapM_cons, ih]
      rfl
  have many : ∀ texts : List Text, Tab.linesOfDatum (.list (texts.map .text)) =
      .ok (texts.filterMap Tab.visible?) := by
    intro texts
    show ((texts.map Datum.text).mapM Datum.asText >>= _) = _
    rw [read texts]
    rfl
  cases lines with
  | text t => rfl
  | list texts => exact many texts
  | each texts =>
    cases texts with
    | nil => exact absurd rfl some
    | cons t rest =>
      cases rest with
      | nil => rfl
      | cons u rest => exact many (t :: u :: rest)

/-- A call of a tab: its lines, with a number of beats in front of them or beside them.  Beats are
positive whole numbers, where they are given. -/
structure TabCall where
  lines : TabLines
  front : Option Quantity
  stated : Option Quantity
  positive : ∀ q, front = some q ∨ stated = some q → ∃ b : Int, q.integer? = some b ∧ 0 < b

namespace TabCall

/-- What is written for the tab. -/
def parts (asked : TabCall) : List Datum := asked.front.toList.map .number ++ asked.lines.parts

/-- The beats beside it. -/
def statedDatum (asked : TabCall) : Datum := asked.stated.elim .null .number

/-- The beats are known and positive, if those of the voice are. -/
theorem beats_positive (asked : TabCall) {beats : Nat} (forward : 1 ≤ beats) {text : TabText}
    (known : (∃ q, asked.front = some q ∧ text.beats = .number q) ∨
      text.beats = asked.statedDatum) :
    ∃ (q : Quantity) (b : Int), text.beatsOr beats = .number q ∧ q.integer? = some b ∧ 0 < b := by
  unfold TabText.beatsOr
  rcases known with ⟨q, front, same⟩ | same
  · obtain ⟨b, whole, positive⟩ := asked.positive q (.inl front)
    rw [same]
    exact ⟨q, b, rfl, whole, positive⟩
  · rw [same]
    unfold statedDatum
    cases stated : asked.stated with
    | none => exact ⟨.whole beats, beats, rfl, rfl, by omega⟩
    | some q =>
      obtain ⟨b, whole, positive⟩ := asked.positive q (.inr stated)
      exact ⟨q, b, rfl, whole, positive⟩

/-- Where there is no text, there is no tab; otherwise the lines are those that are shown. -/
theorem ofParts_cases (asked : TabCall) :
    TabText.ofParts asked.parts asked.statedDatum = .error .noTabText ∨
      ∃ text, TabText.ofParts asked.parts asked.statedDatum = .ok text ∧
        Tab.linesOfDatum text.text = .ok asked.lines.shown ∧
        ((∃ q, asked.front = some q ∧ text.beats = .number q) ∨
          text.beats = asked.statedDatum) := by
  have texts := asked.lines.parts_texts
  unfold parts
  by_cases some : asked.lines.parts = []
  · refine .inl ?_
    rw [some, List.append_nil]
    cases front : asked.front with
    | none => rfl
    | some q =>
      obtain ⟨b, whole, -⟩ := asked.positive q (.inl front)
      exact TabText.ofParts_number whole _
  · have lines := asked.lines.linesOfDatum some
    refine .inr ?_
    cases front : asked.front with
    | none => exact ⟨_, TabText.ofParts_texts texts some _, lines, .inr rfl⟩
    | some q =>
      obtain ⟨b, whole, -⟩ := asked.positive q (.inl front)
      exact ⟨_, TabText.ofParts_front whole texts some _, lines, .inl ⟨q, rfl, rfl⟩⟩

end TabCall

/-! ## §5. Grids. -/

namespace Tab

theorem documented_stepsOfWidths {firstLine : Text} {span : Quantity} {widths : List Nat}
    (short : ∀ w ∈ widths, Quantity.isShort w = true) :
    Documented (stepsOfWidths firstLine span widths) := by
  induction widths with
  | nil => exact .ok _
  | cons w widths ih =>
    obtain ⟨here, others⟩ := List.forall_mem_cons.1 short
    unfold stepsOfWidths
    split
    · exact .error (Fault.kind_measureSize here _) rfl
    · exact .bind (ih others) fun _ _ => .ok _

/-- Measures are no wider than their line is long. -/
theorem width_counted {line : Text} {row : List Text} (read : measures line = .ok row)
    (counted : line.length ≤ indexLimit) :
    ∀ w ∈ row.map List.length, Quantity.isShort w = true := by
  intro w here
  obtain ⟨m, inRow, rfl⟩ := List.mem_map.1 here
  obtain ⟨before, after, rfl⟩ := List.append_of_mem inRow
  have length := (measures_ok read).2.length_le
  rw [List.flatten_append, List.flatten_cons, List.length_append, List.length_append] at length
  exact Quantity.isShort_of_counted (by omega)

/-- Lines of which there are some fail to be a grid in a way that is documented. -/
theorem documented_gridOfLines {tabLines : List Text} (nonempty : tabLines ≠ [])
    (counted : ∀ line ∈ tabLines, line.length ≤ indexLimit) {ticks beats : Quantity} {t b : Int}
    (resolution : ticks.integer? = some t) (whole : beats.integer? = some b) (forward : 0 < b)
    (uniform : Bool) :
    Documented (gridOfLines tabLines (.number ticks) (.number beats) uniform) := by
  have ahead : beats.le (.whole 0) = false := by
    rw [Quantity.le_of_integer whole rfl, decide_eq_false_iff_not]
    omega
  unfold gridOfLines
  rw [Datum.asNumber_number]
  refine .ok_bind ?_
  rw [ahead, if_neg Bool.false_ne_true]
  -- What is left to check is the grid text of each line, the bars, and the sizes of the measures.
  refine .bind (.mapM fun line _ => documented_measures line) fun table read => ?_
  have each := mapM_ok_iff_forall₂.1 read
  cases each with
  | nil => exact absurd rfl nonempty
  | @cons firstLine firstRow lines rows first _ =>
    dsimp only
    split
    · exact .error rfl rfl
    · split
      · exact .error rfl rfl
      · rw [times_of_integer resolution whole]
        refine .ok_bind ?_
        refine .bind ?_ fun _ _ => .ok _
        exact documented_stepsOfWidths
          (width_counted first (counted firstLine List.mem_cons_self))

/-- A tab of counted lines, for a voice with strings, fails to be a grid in a way that is
documented. -/
theorem documented_grid {tab : Datum} {tabLines : List Text}
    (lines : linesOfDatum tab = .ok tabLines) (few : tabLines.length ≤ indexLimit + 1)
    (counted : ∀ line ∈ tabLines, line.length ≤ indexLimit) {strings : Nat} (strung : 0 < strings)
    (counted' : strings ≤ indexLimit) {ticks beats : Quantity} {t b : Int}
    (resolution : ticks.integer? = some t) (whole : beats.integer? = some b) (forward : 0 < b)
    (uniform : Bool) :
    Documented (grid tab (.whole strings) (.number ticks) (.number beats) uniform) := by
  unfold grid
  rw [lines]
  refine .ok_bind ?_
  refine .bind ?_ fun _ passed => ?_
  · unfold checkLineCount
    split
    · exact .ok _
    · exact .error (Fault.kind_tabLineCount (Quantity.isShort_of_counted (by omega))
        (Quantity.isShort_of_counted few)) rfl
  · have count := checkLineCount_ok_iff.1 passed
    have nonempty : tabLines ≠ [] := by
      rintro rfl
      exact absurd count strung.ne
    exact documented_gridOfLines nonempty counted resolution whole forward uniform

/-- Each row of a grid is a part of a line. -/
theorem row_within {tab count ticks beats : Datum} {tabLines : List Text}
    (lines : linesOfDatum tab = .ok tabLines) {uniform : Bool} {g : Grid}
    (read : grid tab count ticks beats uniform = .ok g) :
    ∀ row ∈ g.rows, ∃ line ∈ tabLines, row.Sublist line := by
  obtain ⟨tabLines', lines', -, read⟩ := grid_ok_iff.1 read
  rw [lines] at lines'
  cases lines'
  obtain ⟨table, widths, parts, ruled, -, -, rfl⟩ := gridOfLines_ok_iff.1 read
  intro row here
  obtain ⟨pieces, inTable, rfl⟩ := List.mem_map.1 here
  exact Yields.mapM_forall (P := fun row => ∃ line ∈ tabLines, row.flatten.Sublist line)
    (fun line inLines _ measured => ⟨line, inLines, (measures_ok measured).2⟩) table ruled.read
    pieces inTable

/-- The rows of a grid are measures, one after the other. -/
theorem rows_of_measures {tab count ticks beats : Datum} {uniform : Bool} {g : Grid}
    (read : grid tab count ticks beats uniform = .ok g) :
    ∃ table : List (List Text), g.rows = table.map List.flatten ∧
      ∀ row ∈ table, ∀ m ∈ row, IsMeasure m := by
  obtain ⟨tabLines, -, -, read⟩ := grid_ok_iff.1 read
  obtain ⟨table, widths, parts, ruled, -, -, rfl⟩ := gridOfLines_ok_iff.1 read
  exact ⟨table, rfl, Yields.mapM_forall (P := fun row => ∀ m ∈ row, IsMeasure m)
    (fun line _ row measured => (measures_ok measured).1) table ruled.read⟩

end Tab

end Plectrum
