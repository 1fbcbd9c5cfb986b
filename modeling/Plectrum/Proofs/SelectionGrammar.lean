/-
  Plectrum.Proofs.SelectionGrammar
  ────────────────────────────────
  **The grammar of a selection, and what it leaves out.**

  A selection is cut at its commas, and each item is one number or two with a hyphen between them,
  counted from one.  The strings of its items come one after the other, each run from the first
  number to the second.  The items are walked in order, so the first one that is not sound decides
  how the selection is refused: for what it asks for, or as a mistake in the notation.

  Main results:
    * `walk_isRun` — a walk goes from its first number to its last one by single steps;
    * `Selection.strings_reads` — which selections are read, and how others are refused;
    * `Selection.strings_grammar` — without long numbers, the grammar and what it means.
-/
import Mathlib.Data.List.Chain
import Mathlib.Data.List.Range
import Plectrum.Proofs.Outcomes
import Plectrum.Proofs.Selections

namespace Plectrum

open Text

/-! ## §1. Runs. -/

/-- A run from one number to another: up by one at a time, or down by one at a time. -/
structure IsRun (first last : Nat) (run : List Nat) : Prop where
  starts : run.head? = some first
  ends : run.getLast? = some last
  up : first ≤ last → run.IsChain fun m n => n = m + 1
  down : last ≤ first → run.IsChain fun m n => m = n + 1

theorem walk_isRun (first last : Nat) : IsRun first last (walk first last) := by
  unfold walk
  split
  · next up =>
    refine ⟨by simp [List.head?_range], ?_, fun _ => ?_, fun down => ?_⟩
    · rw [List.range_succ]
      simp
      omega
    · rw [List.isChain_map, List.isChain_range_succ]
      intro m _
      omega
    · obtain rfl := Nat.le_antisymm up down
      simp
  · next down =>
    refine ⟨by simp [List.head?_range], ?_, fun up => absurd up down, fun _ => ?_⟩
    · rw [List.range_succ]
      simp
      omega
    · rw [List.isChain_map, List.isChain_range_succ]
      intro m _
      omega

theorem length_walk (first last : Nat) :
    (walk first last).length = ((last : Int) - first).natAbs + 1 := by
  unfold walk
  split <;> simp <;> omega

theorem le_of_mem_walk {first last n : Nat} (here : n ∈ walk first last) : min first last ≤ n := by
  unfold walk at here
  split at here
  all_goals
    obtain ⟨k, inside, rfl⟩ := List.mem_map.1 here
    have counted := List.mem_range.1 inside
    omega

namespace SpanText

variable {s : SpanText}

/-- The strings of a span, from the first to the last one. -/
def run (s : SpanText) : List Nat := walk s.span.first s.span.last

theorem ends_fromOne (s : SpanText) : 1 ≤ s.span.first ∧ 1 ≤ s.span.last := by
  refine ⟨s.fromOne, ?_⟩
  unfold span
  cases last : s.last? with
  | none => exact s.fromOne
  | some n => exact s.toOne n last

theorem run_fromOne : ∀ n ∈ s.run, 1 ≤ n := by
  intro n here
  obtain ⟨first, last⟩ := s.ends_fromOne
  exact (le_min first last).trans (le_of_mem_walk here)

end SpanText

/-- A number with too many digits is not read. -/
theorem Text.faultKind?_naturalOfDigits {digits : Text} (long : digitLimit < digits.length) :
    faultKind? (naturalOfDigits digits) = some .value := by
  unfold naturalOfDigits
  rw [if_pos long]
  show some (Fault.kind (.tooManyDigits _)) = _
  unfold Fault.kind
  split <;> rfl

namespace Selection

variable {item first : Text} {last? : Option Text} {s : SpanText}

/-! ## §2. Items. -/

/-- An item has no long number in it if none of its numbers is long. -/
theorem IsItem.short (h : IsItem item first last?) (one : first.length ≤ digitLimit)
    (other : ∀ last ∈ last?, last.length ≤ digitLimit) : ShortDigits item := by
  obtain ⟨⟨ending, ends, rfl⟩, -⟩ := h
  have core : ShortDigits (first ++ marked '-' last?) :=
    (shortDigits_marked_iff (by decide)).2
      ⟨shortDigits_of_length one, fun last here => shortDigits_of_length (other last here)⟩
  rcases ends with rfl | rfl
  · rwa [List.append_nil]
  · exact (shortDigits_mid_iff (by decide)).2 ⟨core, shortDigits_of_length (by decide)⟩

/-- An item with a number of too many digits is not read. -/
theorem readItem_long (whole : Text) (shape : IsItem item first last?) (long : ¬ ShortDigits item) :
    faultKind? (readItem whole item) = some .value := by
  unfold readItem
  rw [itemDigits?_eq_some_iff.2 shape]
  dsimp only
  -- Both numbers are read before either is compared with one, so it does not matter which is long.
  by_cases one : first.length ≤ digitLimit
  · have read : naturalOfDigits first = .ok (digitsValue first) := if_neg (Nat.not_lt.2 one)
    rw [read]
    cases last? with
    | none => exact absurd (shape.short one nofun) long
    | some last =>
      have other : digitLimit < last.length := by
        by_contra short
        refine long (shape.short one fun last' here => ?_)
        cases here
        exact Nat.not_lt.1 short
      show faultKind? (naturalOfDigits last >>= _) = _
      exact faultKind?_bind _ (faultKind?_naturalOfDigits other)
  · exact faultKind?_bind _ (faultKind?_naturalOfDigits (Nat.not_le.1 one))

/-! ## §3. What an item asks for. -/

/-- An item that is a span, possibly with a line feed at its end. -/
def IsSpan (item : Text) (s : SpanText) : Prop :=
  ∃ ending, IsEnding ending ∧ item = s.write ++ ending

/-- An item that is a span with a run that can be counted. -/
def Sound (item : Text) : Prop := ∃ s, IsSpan item s ∧ s.Counted

/-- A span with a run that is too long to be counted. -/
def Exceeds (item : Text) : Prop := ∃ s, IsSpan item s ∧ ¬ s.Counted

/-- What an item asks for that is too much, and how it is refused. -/
inductive Overtaxes (item : Text) : FaultKind → Prop where
  | digits {first : Text} {last? : Option Text} (shape : IsItem item first last?)
      (long : ¬ ShortDigits item) : Overtaxes item .value
  | count (exceeds : Exceeds item) : Overtaxes item .overflow

/-- The strings of one item. -/
def runOf (whole item : Text) : Except Fault (List Nat) := do (← readItem whole item).strings

/-- A span is walked if its run can be counted. -/
theorem runOf_of_span (whole : Text) (written : IsSpan item s) : runOf whole item =
    if s.Counted then .ok s.run else .error .rangeTooLong := by
  obtain ⟨ending, ends, rfl⟩ := written
  unfold runOf
  rw [readItem_write whole s ends]
  exact s.strings_span

theorem runOf_overtaxed (whole : Text) {kind : FaultKind} (asks : Overtaxes item kind) :
    faultKind? (runOf whole item) = some kind := by
  cases asks with
  | digits shape long => exact faultKind?_bind _ (readItem_long whole shape long)
  | count exceeds =>
    obtain ⟨s, written, long⟩ := exceeds
    rw [runOf_of_span whole written, if_neg long]
    rfl

/-- A span is sound, or it is too long. -/
theorem IsSpan.cases (written : IsSpan item s) : Sound item ∨ Exceeds item := by
  by_cases counted : s.Counted
  · exact .inl ⟨s, written, counted⟩
  · exact .inr ⟨s, written, counted⟩

/-- An item without long numbers is a span, or it is refused as a mistake. -/
theorem exists_span_or_mistake (whole : Text) (short : ShortDigits item) :
    (∃ s, IsSpan item s) ∨ faultKind? (runOf whole item) = some .parse := by
  rcases readItem_cases whole short with written | ⟨f, failed, mistake⟩
  · exact .inl written
  · have refused : faultKind? (readItem whole item) = some .parse := by
      rw [failed]
      exact congrArg some mistake
    exact .inr (faultKind?_bind _ refused)

theorem runOf_reads (whole item : Text) :
    Reads (Sound item) (Overtaxes item) (runOf whole item) := by
  refine ⟨?_, fun kind => runOf_overtaxed whole, ?_⟩
  · rintro ⟨s, written, counted⟩
    exact ⟨s.run, (runOf_of_span whole written).trans (if_pos counted)⟩
  · -- A long number counts only in an item that has the shape of one.
    by_cases short : ShortDigits item
    · rcases exists_span_or_mistake whole short with ⟨s, written⟩ | refused
      · exact written.cases.imp id fun exceeds => .inl ⟨.overflow, .count exceeds⟩
      · exact .inr (.inr refused)
    · right
      cases found : itemDigits? item with
      | some parts => exact .inl ⟨.value, .digits (itemDigits?_eq_some_iff.1 found) short⟩
      | none =>
        right
        unfold runOf readItem
        rw [found]
        rfl

theorem runOf_ok_iff (whole : Text) {run : List Nat} :
    runOf whole item = .ok run ↔ ∃ s, IsSpan item s ∧ s.Counted ∧ run = s.run := by
  constructor
  · intro read
    obtain ⟨s, written, counted⟩ := (runOf_reads whole item).ok_iff.1 ⟨run, read⟩
    rw [runOf_of_span whole written, if_pos counted] at read
    exact ⟨s, written, counted, (Except.ok.inj read).symm⟩
  · rintro ⟨s, written, counted, rfl⟩
    exact (runOf_of_span whole written).trans (if_pos counted)

/-- An item without long numbers is refused as a mistake exactly if it is no span. -/
theorem runOf_mistaken_iff (whole : Text) (short : ShortDigits item) :
    faultKind? (runOf whole item) = some .parse ↔ ∀ s, ¬ IsSpan item s := by
  constructor
  · intro refused s written
    rw [runOf_of_span whole written] at refused
    split at refused
    · cases refused
    · cases refused
  · intro none
    exact (exists_span_or_mistake whole short).resolve_left fun ⟨s, written⟩ => none s written

/-- And otherwise only for the length of its run. -/
theorem overtaxes_iff_of_short (short : ShortDigits item) {kind : FaultKind} :
    Overtaxes item kind ↔ kind = .overflow ∧ Exceeds item := by
  constructor
  · intro asks
    cases asks with
    | digits _ long => exact absurd short long
    | count exceeds => exact ⟨rfl, exceeds⟩
  · rintro ⟨rfl, exceeds⟩
    exact .count exceeds

/-! ## §4. Selections. -/

theorem strings_eq (t : Text) :
    strings t = do return (← (items t).mapM (runOf t)).flatten := rfl

/-- A selection is read if its items are sound, and refused for the first one that is not. -/
theorem strings_reads (t : Text) :
    Reads (∀ item ∈ items t, Sound item) (fun kind => Halts Sound (Overtaxes · kind) (items t))
      (strings t) := by
  rw [strings_eq]
  exact (Reads.mapM fun item _ => runOf_reads t item).map _

/-- A selection fails in the way of its first item that fails. -/
theorem strings_kind_iff {t : Text} {kind : FaultKind} :
    faultKind? (strings t) = some kind ↔
      Halts Sound (fun item => faultKind? (runOf t item) = some kind) (items t) := by
  have same : faultKind? (strings t) = faultKind? ((items t).mapM (runOf t)) := by
    rw [strings_eq]
    cases (items t).mapM (runOf t) <;> rfl
  rw [same, faultKind?_mapM_iff]
  exact halts_congr (fun item _ => (runOf_reads t item).ok_iff) fun _ _ => Iff.rfl

/-- Items that are walked are spans, in the same order. -/
theorem mapM_runOf_ok_iff {whole : Text} {items : List Text} {runs : List (List Nat)} :
    items.mapM (runOf whole) = .ok runs ↔ ∃ spans, List.Forall₂ IsSpan items spans ∧
      (∀ s ∈ spans, s.Counted) ∧ runs = spans.map SpanText.run := by
  rw [mapM_ok_iff_forall₂]
  constructor
  · intro each
    induction each with
    | nil => exact ⟨[], .nil, nofun, rfl⟩
    | cons here _ ih =>
      obtain ⟨s, written, counted, rfl⟩ := (runOf_ok_iff whole).1 here
      obtain ⟨spans, others, rest, rfl⟩ := ih
      exact ⟨s :: spans, .cons written others, List.forall_mem_cons.2 ⟨counted, rest⟩, rfl⟩
  · rintro ⟨spans, written, counted, rfl⟩
    induction written with
    | nil => exact .nil
    | cons here _ ih =>
      obtain ⟨own, rest⟩ := List.forall_mem_cons.1 counted
      exact .cons ((runOf_of_span whole here).trans (if_pos own)) (ih rest)

/-- What is read is the runs of spans, one after the other. -/
theorem strings_ok_iff {t : Text} {result : List Nat} : strings t = .ok result ↔
    ∃ spans, List.Forall₂ IsSpan (items t) spans ∧ (∀ s ∈ spans, s.Counted) ∧
      result = spans.flatMap SpanText.run := by
  constructor
  · intro read
    obtain ⟨runs, walked, same⟩ := bind_ok read
    cases same
    obtain ⟨spans, written, counted, rfl⟩ := mapM_runOf_ok_iff.1 walked
    exact ⟨spans, written, counted, List.flatMap_def.symm⟩
  · rintro ⟨spans, written, counted, rfl⟩
    rw [strings_eq, mapM_runOf_ok_iff.2 ⟨spans, written, counted, rfl⟩, List.flatMap_def]
    rfl

/-- The items of a selection are parts of it. -/
theorem infix_of_mem_items {t : Text} (here : item ∈ items t) : item <:+: t := by
  unfold items at here
  cases pieces : splitWhere (· == ',') t with
  | nil => exact absurd pieces (splitWhere_ne_nil _ t)
  | cons piece rest =>
    have part : ∀ p ∈ piece :: rest, p <:+: t :=
      fun p here => infix_of_mem_splitWhere (pieces ▸ here)
    rw [pieces] at here
    rcases List.mem_cons.1 here with rfl | later
    · exact part _ List.mem_cons_self
    · obtain ⟨p, among, rfl⟩ := List.mem_map.1 later
      exact (List.dropWhile_suffix _).isInfix.trans (part p (List.mem_cons_of_mem _ among))

/-- A selection without long numbers is read exactly if its items are spans whose runs can be
counted: what is read is then one run after the other.  The first item that is not so decides how
it is refused: as a mistake if it is no span, and otherwise for the length of its run. -/
theorem strings_grammar {t : Text} (short : ShortDigits t) :
    (∀ result, strings t = .ok result ↔
      ∃ spans, List.Forall₂ IsSpan (items t) spans ∧ (∀ s ∈ spans, s.Counted) ∧
        result = spans.flatMap SpanText.run) ∧
    (∀ spans : List SpanText,
      (spans.flatMap SpanText.run).length =
        (spans.map fun s => ((s.span.last : Int) - s.span.first).natAbs + 1).sum ∧
      (∀ n ∈ spans.flatMap SpanText.run, 1 ≤ n) ∧
      ∀ s ∈ spans, IsRun s.span.first s.span.last s.run) ∧
    (faultKind? (strings t) = some .parse ↔
      Halts Sound (fun item => ∀ s, ¬ IsSpan item s) (items t)) ∧
    ∀ kind ≠ FaultKind.parse, faultKind? (strings t) = some kind ↔
      kind = .overflow ∧ Halts Sound Exceeds (items t) := by
  have short' : ∀ item ∈ items t, ShortDigits item :=
    fun item here => short.part (infix_of_mem_items here)
  refine ⟨fun result => strings_ok_iff, fun spans => ⟨?_, ?_, fun s _ => walk_isRun _ _⟩, ?_,
    fun kind other => ?_⟩
  · rw [List.length_flatMap]
    exact congrArg List.sum (List.map_congr_left fun s _ => length_walk _ _)
  · intro n here
    obtain ⟨s, -, inside⟩ := List.mem_flatMap.1 here
    exact s.run_fromOne n inside
  · rw [strings_kind_iff]
    exact halts_congr (fun _ _ => Iff.rfl) fun item here => runOf_mistaken_iff t (short' item here)
  · rw [(strings_reads t).kind_iff other, ← halts_and_iff]
    exact halts_congr (fun _ _ => Iff.rfl) fun item here => overtaxes_iff_of_short (short' item here)

/-! ## §5. Two selections. -/

/-- Ranges in both directions, one of a single string, and a line feed. -/
def mixedSelection : Text := "12-14, 17\n,15-15,14-12"

def mixedSpans : List SpanText :=
  [⟨.ofDigits "12" (by decide), some (.ofDigits "14" (by decide)), by decide, by decide⟩,
    .single (.ofDigits "17" (by decide)) (by decide),
    ⟨.ofDigits "15" (by decide), some (.ofDigits "15" (by decide)), by decide, by decide⟩,
    ⟨.ofDigits "14" (by decide), some (.ofDigits "12" (by decide)), by decide, by decide⟩]

theorem mixedSelection_strings :
    strings mixedSelection = .ok [12, 13, 14, 17, 15, 14, 13, 12] := by
  have length : mixedSelection.length ≤ digitLimit := by decide
  have cut : items mixedSelection = ["12-14", "17\n", "15-15", "14-12"] := by decide
  have written : List.Forall₂ IsSpan (items mixedSelection) mixedSpans := by
    rw [cut]
    exact .cons ⟨[], .inl rfl, by decide⟩ (.cons ⟨"\n", .inr rfl, by decide⟩
      (.cons ⟨[], .inl rfl, by decide⟩ (.cons ⟨[], .inl rfl, by decide⟩ .nil)))
  have counted : ∀ s ∈ mixedSpans, s.Counted := by decide +kernel
  have runs : [12, 13, 14, 17, 15, 14, 13, 12] = mixedSpans.flatMap SpanText.run := by
    decide +kernel
  have grammar := (strings_grammar (shortDigits_of_length length)).1
  exact (grammar _).2 ⟨mixedSpans, written, counted, runs⟩

/-- A range that is too long to be counted, and an item that is no span. -/
def endlessSelection : Text := "1-9223372036854775808,x"

/-- It is not refused as a mistake: the range is walked before the second item is read. -/
theorem endlessSelection_tooLong :
    ShortDigits endlessSelection ∧
      (∃ item ∈ items endlessSelection, ∀ s, ¬ IsSpan item s) ∧
      strings endlessSelection = .error .rangeTooLong ∧ Fault.rangeTooLong.kind ≠ .parse := by
  have length : endlessSelection.length ≤ digitLimit := by decide
  refine ⟨shortDigits_of_length length, ⟨"x", by decide, ?_⟩, rfl, by decide⟩
  rintro s ⟨ending, ends, same⟩
  have none : itemDigits? "x" = Option.none := by decide
  have found := itemDigits?_write s ends
  rw [← same, none] at found
  cases found

end Selection
end Plectrum
