/-
  Plectrum.Proofs.Selections
  ──────────────────────────
  **How strings are written, and what is struck.**

  A `SpanText` is a string number or a range of them as it stands in a selection, an `ActionText`
  the spans of an action with its velocity.  What they write is read as the strokes they mean, as
  long as each run can be counted; and whatever is read without a fault has been written so.

  Main results:
    * `Span.expand_eq_walk` — a span is walked from its first string to its last one;
    * `Selection.itemDigits?_eq_some_iff` — the numbers that are found in an item are its numbers;
    * `Selection.readItem_write`, `Selection.readItem_cases` — the items that are read are spans;
    * `Spec.readAction_write` — what a written action is read as;
    * `Spec.readAction_cases` — a token is a written action, or is refused.
-/
import Mathlib.Data.List.Basic
import Plectrum.Pattern.Spec
import Plectrum.Proofs.Numerals
import Plectrum.Proofs.Outcomes

namespace Plectrum

open Text

/-! ## §1. Runs of strings. -/

/-- The numbers from a first to a last one, up or down by one at a time. -/
def walk (first last : Nat) : List Nat :=
  if first ≤ last then (List.range (last - first + 1)).map (first + ·)
  else (List.range (first - last + 1)).map (first - ·)

theorem Span.expand_eq_walk (s : Span) : s.expand = walk s.first s.last := by
  unfold expand walk
  split
  · next up =>
    rw [List.range'_eq_map_range, show s.last + 1 - s.first = s.last - s.first + 1 by omega]
  · next down =>
    refine List.ext_getElem (by simp; omega) fun k inside inside' => ?_
    simp only [List.getElem_reverse, List.getElem_range', List.getElem_map, List.getElem_range,
      List.length_range', List.length_reverse] at inside ⊢
    omega

/-! ## §2. Spans as they are written. -/

/-- A string number, or two with a hyphen between them; strings are counted from one. -/
structure SpanText where
  first : Numeral
  last? : Option Numeral
  fromOne : 1 ≤ first.value
  toOne : ∀ last ∈ last?, 1 ≤ last.value

namespace SpanText

/-- A single string. -/
def single (n : Numeral) (fromOne : 1 ≤ n.value) : SpanText := ⟨n, none, fromOne, nofun⟩

def write (s : SpanText) : Text := s.first.digits ++ marked '-' (s.last?.map Numeral.digits)

/-- The first string and the last one. -/
def span (s : SpanText) : Span := ⟨s.first.value, (s.last?.getD s.first).value⟩

/-- Whether the strings from the first to the last can be counted. -/
def Counted (s : SpanText) : Prop := (walk s.span.first s.span.last).length ≤ indexLimit

instance (s : SpanText) : Decidable s.Counted := inferInstanceAs (Decidable (_ ≤ _))

/-- A span is walked from its first string to its last one, if these can be counted. -/
theorem strings_span (s : SpanText) : s.span.strings =
    if s.Counted then .ok (walk s.span.first s.span.last) else .error .rangeTooLong := by
  rw [Span.strings_eq, Span.expand_eq_walk]
  by_cases counted : s.Counted
  · have fits : ¬ indexLimit < (walk s.span.first s.span.last).length := Nat.not_lt.2 counted
    rw [if_pos counted, if_neg fits]
  · have long : indexLimit < (walk s.span.first s.span.last).length := Nat.not_le.1 counted
    rw [if_neg counted, if_pos long]

/-- The letters of a span are digits and hyphens. -/
theorem mem_write {s : SpanText} {l : Letter} (here : l ∈ s.write) :
    isDigit l = true ∨ l = .char '-' := by
  unfold write at here
  rcases List.mem_append.1 here with here | here
  · exact .inl (s.first.decimal l here)
  · cases last : s.last? with
    | none =>
      rw [last] at here
      cases here
    | some n =>
      rw [last] at here
      rcases List.mem_cons.1 here with rfl | here
      · exact .inr rfl
      · exact .inl (n.decimal l here)

theorem write_ne_nil (s : SpanText) : s.write ≠ [] :=
  List.append_ne_nil_of_left_ne_nil s.first.nonempty _

end SpanText

namespace Selection

/-- What may end an item: nothing, or one line feed. -/
def IsEnding (ending : Text) : Prop := ending = [] ∨ ending = [.char '\n']

theorem IsEnding.stops {ending : Text} (h : IsEnding ending) : Stops isDigit ending := by
  rcases h with rfl | rfl
  · exact stops_nil _
  · exact stops_cons (by decide) _

/-- An item: the digits of one number or of two, and what may end it. -/
structure IsItem (item first : Text) (last? : Option Text) : Prop where
  written : ∃ ending, IsEnding ending ∧ item = first ++ marked '-' last? ++ ending
  digits : ∀ run ∈ first :: last?.toList, IsDigits run

section Digits

variable {item first : Text} {last? : Option Text}

/-- The digits that are found in an item are runs, and there is nothing else in it. -/
theorem isItem_of_itemDigits? (found : itemDigits? item = some (first, last?)) :
    IsItem item first last? := by
  obtain ⟨run, rest, rfl, digits, stops⟩ := exists_run isDigit item
  unfold itemDigits? at found
  rw [takeWhile_run digits stops, dropWhile_run digits stops] at found
  dsimp only at found
  split at found
  · cases found
  next some =>
    have nonempty : run ≠ [] := fun none => some (List.isEmpty_iff.2 none)
    split at found
    · cases found
      exact ⟨⟨[], .inl rfl, by simp [marked]⟩, by simpa [IsDigits] using ⟨nonempty, digits⟩⟩
    · cases found
      exact ⟨⟨_, .inr rfl, by simp [marked]⟩, by simpa [IsDigits] using ⟨nonempty, digits⟩⟩
    · next tail =>
      obtain ⟨run', rest', rfl, digits', stops'⟩ := exists_run isDigit tail
      rw [takeWhile_run digits' stops', dropWhile_run digits' stops'] at found
      split at found
      · cases found
      next some' =>
        have nonempty' : run' ≠ [] := fun none => some' (List.isEmpty_iff.2 none)
        have both : ∀ r ∈ [run, run'], IsDigits r := by
          simpa [IsDigits] using ⟨⟨nonempty, digits⟩, nonempty', digits'⟩
        split at found
        · cases found
          exact ⟨⟨[], .inl rfl, by simp [marked]⟩, both⟩
        · cases found
          exact ⟨⟨_, .inr rfl, by simp [marked]⟩, both⟩
        · cases found
    · cases found

theorem IsItem.itemDigits? (h : IsItem item first last?) :
    itemDigits? item = some (first, last?) := by
  obtain ⟨⟨ending, ends, rfl⟩, runs⟩ := h
  obtain ⟨some, digits⟩ := runs first List.mem_cons_self
  have filled : first.isEmpty = false := List.isEmpty_eq_false_iff.2 some
  unfold Selection.itemDigits?
  rw [List.append_assoc]
  cases last? with
  | none =>
    dsimp only [marked, List.nil_append]
    rw [takeWhile_run digits ends.stops, dropWhile_run digits ends.stops, filled]
    rcases ends with rfl | rfl <;> rfl
  | some last =>
    obtain ⟨some', digits'⟩ := runs last (by simp)
    have filled' : last.isEmpty = false := List.isEmpty_eq_false_iff.2 some'
    have hyphen : Stops isDigit (.char '-' :: (last ++ ending)) := stops_cons (by decide) _
    dsimp only [marked, List.cons_append]
    rw [takeWhile_run digits hyphen, dropWhile_run digits hyphen, filled]
    simp only [Bool.false_eq_true, if_false]
    rw [takeWhile_run digits' ends.stops, dropWhile_run digits' ends.stops, filled']
    rcases ends with rfl | rfl <;> rfl

/-- The digits that are found in an item are those that it is written with. -/
theorem itemDigits?_eq_some_iff : itemDigits? item = some (first, last?) ↔
    IsItem item first last? :=
  ⟨isItem_of_itemDigits?, IsItem.itemDigits?⟩

end Digits

theorem itemDigits?_write (s : SpanText) {ending : Text} (ends : IsEnding ending) :
    itemDigits? (s.write ++ ending) = some (s.first.digits, s.last?.map Numeral.digits) :=
  IsItem.itemDigits? ⟨⟨ending, ends, rfl⟩, s.first.isDigits s.last?⟩

/-- What is read in an item depends on its numbers alone. -/
theorem readItem_of_digits (whole : Text) {item : Text} {first : Numeral} {last? : Option Numeral}
    (found : itemDigits? item = some (first.digits, last?.map Numeral.digits)) :
    readItem whole item =
      if first.value < 1 ∨ (last?.getD first).value < 1 then .error (.stringBelowOne whole)
      else .ok ⟨first.value, (last?.getD first).value⟩ := by
  unfold readItem
  rw [found]
  show (naturalOfDigits first.digits >>= _) = _
  rw [first.read]
  cases last? with
  | none => rfl
  | some last =>
    show (naturalOfDigits last.digits >>= _) = _
    rw [last.read]
    rfl

/-- A written item is read as its span. -/
theorem readItem_write (whole : Text) (s : SpanText) {ending : Text} (ends : IsEnding ending) :
    readItem whole (s.write ++ ending) = .ok s.span := by
  have high : 1 ≤ (s.last?.getD s.first).value := by
    cases last : s.last? with
    | none => exact s.fromOne
    | some last' => exact s.toOne last' last
  have low := s.fromOne
  rw [readItem_of_digits whole (itemDigits?_write s ends), if_neg (by omega)]
  rfl

theorem readItem_write_self (whole : Text) (s : SpanText) :
    readItem whole s.write = .ok s.span := by
  have read := readItem_write whole s (.inl rfl)
  rwa [List.append_nil] at read

/-- An item without long numbers is a written span, but for a line feed, or it is refused. -/
theorem readItem_cases (whole : Text) {item : Text} (short : ShortDigits item) :
    (∃ (s : SpanText) (ending : Text), IsEnding ending ∧ item = s.write ++ ending) ∨
      ∃ f, readItem whole item = .error f ∧ f.kind = .parse := by
  cases found : itemDigits? item with
  | none =>
    right
    unfold readItem
    rw [found]
    exact ⟨_, rfl, rfl⟩
  | some parts =>
    obtain ⟨firstDigits, lastDigits?⟩ := parts
    obtain ⟨⟨ending, ends, whole'⟩, runs⟩ := isItem_of_itemDigits? found
    have short' : ShortDigits (firstDigits ++ marked '-' lastDigits?) :=
      short.part ⟨[], ending, whole'.symm⟩
    obtain ⟨first, last?, rfl, rfl⟩ := Numeral.exists_of_marked (by decide) runs short'
    rw [readItem_of_digits whole found]
    by_cases low : first.value < 1 ∨ (last?.getD first).value < 1
    · rw [if_pos low]
      exact .inr ⟨_, rfl, rfl⟩
    · refine .inl ⟨⟨first, last?, by omega, ?_⟩, ending, ends, whole'⟩
      rintro last rfl
      rw [Option.getD_some] at low
      omega

/-! ## §3. Several spans. -/

section Items

variable (whole : Text) {spans : List SpanText}

/-- The run of one span. -/
theorem run_write (s : SpanText) : (do (← readItem whole s.write).strings) =
    if s.Counted then .ok (walk s.span.first s.span.last) else .error .rangeTooLong := by
  rw [readItem_write_self]
  exact s.strings_span

/-- The runs of spans, if each of them can be counted. -/
theorem runs_write (spans : List SpanText) :
    (spans.map SpanText.write).mapM (fun item => do (← readItem whole item).strings) =
      if ∀ s ∈ spans, s.Counted then .ok (spans.map fun s => walk s.span.first s.span.last)
      else .error .rangeTooLong := by
  rw [List.mapM_map]
  exact mapM_ite (run_write whole) spans

/-- Items without long numbers and line feeds are written spans, or they are refused: for the
first mistake, or for a span before it that cannot be counted. -/
theorem runs_cases {items : List Text} (short : ∀ item ∈ items, ShortDigits item)
    (oneLine : ∀ item ∈ items, Letter.char '\n' ∉ item) :
    (∃ spans : List SpanText, items = spans.map SpanText.write) ∨
      ∃ f, items.mapM (fun item => do (← readItem whole item).strings) = .error f ∧
        (f.kind = .parse ∨ f = .rangeTooLong ∧ ∃ s : SpanText, ¬ s.Counted ∧ s.write ∈ items) := by
  induction items with
  | nil => exact .inl ⟨[], rfl⟩
  | cons item items ih =>
    rw [List.mapM_cons]
    rcases readItem_cases whole (short item List.mem_cons_self) with
      ⟨s, ending, ends, rfl⟩ | ⟨f, failed, mistake⟩
    · obtain rfl : ending = [] := by
        rcases ends with rfl | rfl
        · rfl
        · exact absurd (List.mem_append_right _ List.mem_cons_self) (oneLine _ List.mem_cons_self)
      rw [List.append_nil]
      rcases ih (fun i here => short i (List.mem_cons_of_mem _ here))
        (fun i here => oneLine i (List.mem_cons_of_mem _ here)) with
        ⟨spans, rfl⟩ | ⟨f, failed, why⟩
      · exact .inl ⟨s :: spans, rfl⟩
      · right
        rw [run_write]
        by_cases counted : s.Counted
        · rw [if_pos counted, failed]
          refine ⟨f, rfl, why.imp id ?_⟩
          rintro ⟨size, t, long, here⟩
          exact ⟨size, t, long, List.mem_cons_of_mem _ here⟩
        · rw [if_neg counted]
          exact ⟨_, rfl, .inr ⟨rfl, s, counted, List.mem_cons_self⟩⟩
    · right
      refine ⟨f, ?_, .inl mistake⟩
      rw [failed]
      rfl

end Items

/-- A selection without blanks is cut at its commas. -/
theorem items_of_solid {t : Text} (solid : ∀ l ∈ t, isBlank l = false) :
    items t = splitWhere (· == ',') t := by
  unfold items
  cases pieces : splitWhere (· == ',') t with
  | nil => rfl
  | cons first rest =>
    have same : rest.map (·.dropWhile isBlank) = rest := by
      refine (List.map_congr_left fun piece here => ?_).trans (List.map_id rest)
      have within : piece <:+: t :=
        infix_of_mem_splitWhere (p := (· == ','))
          (by rw [pieces]; exact List.mem_cons_of_mem _ here)
      have stops : Stops isBlank piece :=
        fun l first => solid l (within.subset (List.mem_of_mem_head? first))
      exact stops.dropWhile
    show first :: rest.map (·.dropWhile isBlank) = first :: rest
    rw [same]

end Selection

/-! ## §4. Actions. -/

/-- The spans of an action, with commas between them, and its velocity. -/
structure ActionText where
  spans : List SpanText
  velocity : Numeral
  some : spans ≠ []

namespace ActionText

/-- The spans as they are written. -/
def selection (a : ActionText) : Text := joined [.char ','] (a.spans.map SpanText.write)

def write (a : ActionText) : Text := a.selection ++ .char ':' :: a.velocity.digits

/-- The strings that are struck, in order. -/
def strings (a : ActionText) : List Nat := a.spans.flatMap fun s => walk s.span.first s.span.last

/-- Every string is struck with the velocity. -/
def strokes (a : ActionText) : List Stroke := a.strings.map (⟨·, a.velocity.value⟩)

/-- Whether the run of each span can be counted. -/
def Counted (a : ActionText) : Prop := ∀ s ∈ a.spans, s.Counted

instance (a : ActionText) : Decidable a.Counted := inferInstanceAs (Decidable (∀ s ∈ a.spans, _))

end ActionText

/-- The letters of a selection. -/
def Spec.isSelection (l : Letter) : Bool := l == '-' || l == ',' || isDigit l

theorem Spec.isBlank_of_isSelection {l : Letter} (here : isSelection l = true) :
    isBlank l = false := by
  unfold isSelection at here
  rw [Bool.or_eq_true, Bool.or_eq_true, beq_iff_eq, beq_iff_eq] at here
  rcases here with (rfl | rfl) | digit
  · decide
  · decide
  · exact isBlank_of_isDigit digit

namespace ActionText

theorem isSelection_of_mem {a : ActionText} {l : Letter} (here : l ∈ a.selection) :
    Spec.isSelection l = true := by
  unfold selection at here
  rcases mem_joined here with comma | ⟨piece, within, here⟩
  · rw [List.mem_singleton.1 comma]
    decide
  · obtain ⟨s, -, rfl⟩ := List.mem_map.1 within
    rcases SpanText.mem_write here with digit | rfl
    · unfold Spec.isSelection
      rw [digit, Bool.or_true]
    · decide

theorem selection_ne_nil (a : ActionText) : a.selection ≠ [] := by
  unfold selection
  cases spans : a.spans with
  | nil => exact absurd spans a.some
  | cons s others =>
    cases others with
    | nil => exact s.write_ne_nil
    | cons t others =>
      refine List.append_ne_nil_of_left_ne_nil ?_ _
      exact List.append_ne_nil_of_left_ne_nil s.write_ne_nil _

theorem write_ne_nil (a : ActionText) : a.write ≠ [] :=
  List.append_ne_nil_of_left_ne_nil a.selection_ne_nil _

/-- There are no blanks in an action. -/
theorem solid (a : ActionText) : ∀ l ∈ a.write, isBlank l = false := by
  intro l here
  rcases List.mem_append.1 here with here | here
  · exact Spec.isBlank_of_isSelection (isSelection_of_mem here)
  · rcases List.mem_cons.1 here with rfl | here
    · decide
    · exact isBlank_of_isDigit (a.velocity.decimal l here)

/-- The items of a written selection are its spans. -/
theorem items_selection (a : ActionText) :
    Selection.items a.selection = a.spans.map SpanText.write := by
  rw [Selection.items_of_solid fun l here => Spec.isBlank_of_isSelection (isSelection_of_mem here)]
  refine splitWhere_joined (fun none => a.some (List.map_eq_nil_iff.1 none)) ?_
  intro piece here comma
  obtain ⟨s, -, rfl⟩ := List.mem_map.1 here
  rcases SpanText.mem_write comma with digit | hyphen
  · exact absurd digit (by decide)
  · exact absurd hyphen (by decide)

end ActionText

namespace Spec

theorem actionParts?_write (a : ActionText) :
    actionParts? a.write = some (a.selection, a.velocity.digits) := by
  have colon : Stops isSelection (.char ':' :: a.velocity.digits) := stops_cons (by decide) _
  have all : ∀ l ∈ a.selection, isSelection l = true := fun l => ActionText.isSelection_of_mem
  have front : a.write.takeWhile (fun (l : Letter) => l == '-' || l == ',' || isDigit l) =
      a.selection := takeWhile_run all colon
  have back : a.write.dropWhile (fun (l : Letter) => l == '-' || l == ',' || isDigit l) =
      .char ':' :: a.velocity.digits := dropWhile_run all colon
  have digits : a.velocity.digits.all isDigit = true := List.all_eq_true.2 a.velocity.decimal
  unfold actionParts?
  dsimp only
  rw [front, back]
  simp [a.selection_ne_nil, a.velocity.isEmpty_digits, digits]

/-- A token has a selection and a velocity, or it is no action. -/
theorem actionParts?_some {token selection velocity : Text}
    (found : actionParts? token = some (selection, velocity)) :
    token = selection ++ .char ':' :: velocity ∧ (∀ l ∈ selection, isSelection l = true) ∧
      velocity ≠ [] ∧ ∀ l ∈ velocity, isDigit l = true := by
  obtain ⟨run, rest, rfl, all, stops⟩ := exists_run isSelection token
  have front : (run ++ rest).takeWhile (fun (l : Letter) => l == '-' || l == ',' || isDigit l) =
      run := takeWhile_run all stops
  have back : (run ++ rest).dropWhile (fun (l : Letter) => l == '-' || l == ',' || isDigit l) =
      rest := dropWhile_run all stops
  unfold actionParts? at found
  dsimp only at found
  rw [front, back] at found
  split at found
  · cases found
  · split at found
    · split at found
      · next whole =>
        cases found
        rw [Bool.and_eq_true, Bool.not_eq_true', List.isEmpty_eq_false_iff] at whole
        exact ⟨rfl, all, whole.1, List.all_eq_true.1 whole.2⟩
      · cases found
    · cases found

/-- The velocity of an action is a number, so its strings decide. -/
theorem readAction_of_parts (spec : Text) {token selection : Text} {velocity : Numeral}
    (found : actionParts? token = some (selection, velocity.digits)) :
    readAction spec token =
      (Selection.strings selection).map fun strings => strings.map (⟨·, velocity.value⟩) := by
  unfold readAction
  rw [found]
  show (naturalOfDigits velocity.digits >>= _) = _
  rw [velocity.read]
  show (Selection.strings selection >>= _) = _
  cases Selection.strings selection <;> rfl

/-- A written action is read as its strokes, if its runs can be counted. -/
theorem readAction_write (spec : Text) (a : ActionText) : readAction spec a.write =
    if a.Counted then .ok a.strokes else .error .rangeTooLong := by
  rw [readAction_of_parts spec (actionParts?_write a)]
  unfold Selection.strings
  rw [a.items_selection, Selection.runs_write]
  by_cases counted : a.Counted
  · have runs : ∀ s ∈ a.spans, s.Counted := counted
    rw [if_pos counted, if_pos runs]
    show Except.ok (List.map _ (List.flatten _)) = Except.ok a.strokes
    unfold ActionText.strokes ActionText.strings
    rw [List.flatMap_def]
  · have runs : ¬ ∀ s ∈ a.spans, s.Counted := counted
    rw [if_neg counted, if_neg runs]
    rfl

/-- A token one of whose items is a span that cannot be counted. -/
def Uncounted (token : Text) : Prop :=
  ∃ s : SpanText, ¬ s.Counted ∧ s.write ∈ splitWhere (fun l => l == ',' || l == ':') token

/-- The items of a selection are items of the whole token. -/
theorem items_subset {selection : Text} (all : ∀ l ∈ selection, isSelection l = true)
    (velocity : Text) : ∀ item ∈ Selection.items selection,
      item ∈ splitWhere (fun l => l == ',' || l == ':') (selection ++ .char ':' :: velocity) := by
  intro item here
  rw [Selection.items_of_solid fun l here => isBlank_of_isSelection (all l here)] at here
  have same : splitWhere (fun l => l == ',' || l == ':') selection =
      splitWhere (· == ',') selection := by
    refine splitWhere_congr fun l here => ?_
    have other : (l == .char ':') = false := by
      refine beq_eq_false_iff_ne.2 fun colon => ?_
      have class' := all l here
      rw [colon] at class'
      exact absurd class' (by decide)
    rw [other, Bool.or_false]
  rw [splitWhere_mid (by decide), same]
  exact List.mem_append_left _ here

theorem uncounted_write {a : ActionText} (uncounted : ¬ a.Counted) : Uncounted a.write := by
  unfold ActionText.Counted at uncounted
  push Not at uncounted
  obtain ⟨s, here, long⟩ := uncounted
  refine ⟨s, long, items_subset (fun l => ActionText.isSelection_of_mem) _ _ ?_⟩
  rw [a.items_selection]
  exact List.mem_map_of_mem here

/-- A token without long numbers is a written action, or it is refused: for a mistake, or for a
span before the first mistake that cannot be counted. -/
theorem readAction_cases (spec : Text) {token : Text} (short : ShortDigits token) :
    (∃ a : ActionText, token = a.write) ∨
      ∃ f, readAction spec token = .error f ∧
        (f.kind = .parse ∨ f = .rangeTooLong ∧ Uncounted token) := by
  cases found : actionParts? token with
  | none =>
    right
    unfold readAction
    rw [found]
    exact ⟨_, rfl, .inl rfl⟩
  | some parts =>
    obtain ⟨selection, velocityDigits⟩ := parts
    obtain ⟨rfl, all, some, digits⟩ := actionParts?_some found
    have solid : ∀ l ∈ selection, isBlank l = false :=
      fun l here => isBlank_of_isSelection (all l here)
    obtain ⟨velocity, rfl⟩ := Numeral.exists_of_run short
      ⟨selection ++ [.char ':'], [], by simp⟩ digits some
    have within : ∀ item ∈ Selection.items selection, item <:+: selection := by
      rw [Selection.items_of_solid solid]
      exact fun item here => infix_of_mem_splitWhere here
    have short' : ShortDigits selection := short.part ⟨[], .char ':' :: velocity.digits, by simp⟩
    rcases Selection.runs_cases selection (fun item here => short'.part (within item here))
      (fun item here feed => absurd (solid _ ((within item here).subset feed)) (by decide)) with
      ⟨spans, written⟩ | ⟨f, failed, why⟩
    · left
      rw [Selection.items_of_solid solid] at written
      have nonempty : spans ≠ [] := by
        rintro rfl
        exact splitWhere_ne_nil _ _ written
      refine ⟨⟨spans, velocity, nonempty⟩, ?_⟩
      show _ = joined [.char ','] (spans.map SpanText.write) ++ _
      rw [← written, joined_splitWhere]
    · right
      refine ⟨f, ?_, why.imp id ?_⟩
      · rw [readAction_of_parts spec found]
        unfold Selection.strings
        rw [failed]
        rfl
      · rintro ⟨size, s, long, here⟩
        exact ⟨size, s, long, items_subset all _ _ here⟩

end Spec
end Plectrum
