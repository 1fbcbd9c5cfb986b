/-
  Plectrum.Proofs.Numerals
  ────────────────────────
  **Runs of letters: digits, blanks, words and pieces.**

  A spec is read from the left: the letters of a class are taken as long as they come, and what
  follows is read on.  So a text that is written as runs, one after the other, is taken apart into
  the same runs if each of them is followed by a letter of another class.  Digits are no blanks,
  and neither are the signs of the notation digits.

  Main results:
    * `Text.takeWhile_run`, `Text.dropWhile_run` — a run is taken as it was written;
    * `Text.splitWhere_joined`, `Text.joined_splitWhere` — cutting undoes joining;
    * `Text.words_append`, `Text.trim_surrounded` — what blanks between and around words do;
    * `Text.digitsValue_append` — the number of digits that are written after others.
-/
import Mathlib.Data.List.TakeWhile
import Mathlib.Tactic.Ring
import Plectrum.Text.Numeral

namespace Plectrum

namespace Text

/-! ## §1. Runs. -/

section Runs

variable {p : Letter → Bool} {run rest t : Text}

/-- What ends a run of a class: nothing, or a letter of another class. -/
def Stops (p : Letter → Bool) (rest : Text) : Prop := ∀ l ∈ rest.head?, p l = false

theorem stops_nil (p : Letter → Bool) : Stops p [] := nofun

theorem stops_cons {l : Letter} (other : p l = false) (rest : Text) : Stops p (l :: rest) := by
  intro d here
  cases here
  exact other

theorem stops_append {t : Text} (some : t ≠ []) (other : ∀ l ∈ t, p l = false) (rest : Text) :
    Stops p (t ++ rest) := by
  cases t with
  | nil => exact absurd rfl some
  | cons l t => exact stops_cons (other l List.mem_cons_self) _

theorem Stops.takeWhile (stops : Stops p rest) : rest.takeWhile p = [] := by
  cases rest with
  | nil => rfl
  | cons l rest => exact List.takeWhile_cons_of_neg (Bool.eq_false_iff.1 (stops l rfl))

theorem Stops.dropWhile (stops : Stops p rest) : rest.dropWhile p = rest := by
  cases rest with
  | nil => rfl
  | cons l rest => exact List.dropWhile_cons_of_neg (Bool.eq_false_iff.1 (stops l rfl))

theorem stops_dropWhile (p : Letter → Bool) (t : Text) : Stops p (t.dropWhile p) := by
  induction t with
  | nil => exact stops_nil p
  | cons l t ih =>
    cases here : p l with
    | true => rwa [List.dropWhile_cons_of_pos here]
    | false =>
      rw [List.dropWhile_cons_of_neg (Bool.eq_false_iff.1 here)]
      exact stops_cons here t

/-- A run is taken up to where it stops. -/
theorem takeWhile_run (all : ∀ l ∈ run, p l = true) (stops : Stops p rest) :
    (run ++ rest).takeWhile p = run := by
  rw [List.takeWhile_append_of_pos all, stops.takeWhile, List.append_nil]

/-- And what follows it is left. -/
theorem dropWhile_run (all : ∀ l ∈ run, p l = true) (stops : Stops p rest) :
    (run ++ rest).dropWhile p = rest := by
  rw [List.dropWhile_append_of_pos all, stops.dropWhile]

theorem all_of_mem_takeWhile : ∀ l ∈ t.takeWhile p, p l = true :=
  fun _ here => List.mem_takeWhile_imp here

/-- Every text is a run of a class, possibly an empty one, and what stops it. -/
theorem exists_run (p : Letter → Bool) (t : Text) :
    ∃ run rest, t = run ++ rest ∧ (∀ l ∈ run, p l = true) ∧ Stops p rest :=
  ⟨t.takeWhile p, t.dropWhile p, List.takeWhile_append_dropWhile.symm, all_of_mem_takeWhile,
    stops_dropWhile p t⟩

end Runs

/-! ## §2. Digits and blanks. -/

/-- A digit is in one of the blocks of ten. -/
theorem exists_block_of_isDigit {l : Letter} (digit : isDigit l = true) :
    ∃ first ∈ digitZeros, ∃ k < 10, l.code = first + k := by
  unfold isDigit digitValue? at digit
  rw [Option.isSome_map] at digit
  obtain ⟨first, found⟩ := Option.isSome_iff_exists.1 digit
  have inside := List.find?_some found
  rw [Bool.and_eq_true, decide_eq_true_eq, decide_eq_true_eq] at inside
  exact ⟨first, List.mem_of_find?_eq_some found, l.code - first, by omega, by omega⟩

/-- The codes of blanks. -/
def isBlankCode (n : Nat) : Bool :=
  (9 ≤ n && n ≤ 13) || (28 ≤ n && n ≤ 32) || n == 0x85 || n == 0xA0 || n == 0x1680
    || (0x2000 ≤ n && n ≤ 0x200A) || n == 0x2028 || n == 0x2029 || n == 0x202F
    || n == 0x205F || n == 0x3000

theorem isBlank_of_isDigit {l : Letter} (digit : isDigit l = true) : isBlank l = false := by
  have apart : ∀ first ∈ digitZeros, ∀ k < 10, isBlankCode (first + k) = false := by decide
  obtain ⟨first, block, k, inside, code⟩ := exists_block_of_isDigit digit
  show isBlankCode l.code = false
  rw [code]
  exact apart first block k inside

theorem isDigit_of_isBlank {l : Letter} (blank : isBlank l = true) : isDigit l = false := by
  by_contra digit
  rw [isBlank_of_isDigit (Bool.eq_true_of_not_eq_false digit)] at blank
  cases blank

theorem isBlank_of_isLineBreak {l : Letter} (ends : isLineBreak l = true) : isBlank l = true := by
  unfold isLineBreak at ends
  unfold isBlank
  simp only [Bool.or_eq_true, Bool.and_eq_true, decide_eq_true_eq, beq_iff_eq] at ends ⊢
  omega

/-! ## §3. Numbers. -/

theorem digitsValue_foldl (ds : Text) (n : Nat) :
    ds.foldl (fun n l => 10 * n + (digitValue? l).getD 0) n =
      n * 10 ^ ds.length + digitsValue ds := by
  unfold digitsValue
  induction ds generalizing n with
  | nil => simp
  | cons l ds ih =>
    rw [List.foldl_cons, List.foldl_cons, ih, ih (10 * 0 + _), List.length_cons, pow_succ]
    ring

/-- The number of digits that are written after others. -/
theorem digitsValue_append (a b : Text) :
    digitsValue (a ++ b) = digitsValue a * 10 ^ b.length + digitsValue b := by
  rw [digitsValue, List.foldl_append]
  exact digitsValue_foldl b _

/-- Digits that may follow others, after a mark. -/
def marked (mark : Letter) : Option Text → Text
  | none => []
  | some digits => mark :: digits

theorem stops_marked {p : Letter → Bool} {mark : Letter} (other : p mark = false)
    (digits? : Option Text) : Stops p (marked mark digits?) := by
  cases digits? with
  | none => exact stops_nil p
  | some digits => exact stops_cons other digits

/-- No run of digits is longer than what a number may be read from. -/
def ShortDigits (t : Text) : Prop :=
  ∀ run, run <:+: t → (∀ l ∈ run, isDigit l = true) → run.length ≤ digitLimit

theorem ShortDigits.part {s t : Text} (h : ShortDigits t) (part : s <:+: t) : ShortDigits s :=
  fun run within digits => h run (within.trans part) digits

/-- A text that is not longer than a number may be has no long number in it. -/
theorem shortDigits_of_length {t : Text} (short : t.length ≤ digitLimit) : ShortDigits t :=
  fun _ within _ => within.length_le.trans short

/-- Digits of a number, at least one. -/
def IsDigits (run : Text) : Prop := run ≠ [] ∧ ∀ l ∈ run, isDigit l = true

/-- A part of a text without a letter stands before it or after it. -/
theorem infix_of_infix_mid {l : Letter} {run a b : Text} (within : run <:+: a ++ l :: b)
    (free : l ∉ run) : run <:+: a ∨ run <:+: b := by
  -- At the front of the text, the part cannot go on past the letter.
  have front : ∀ {a : Text}, run <+: a ++ l :: b → run <+: a := by
    intro a front
    rcases List.prefix_or_prefix_of_prefix front (List.prefix_append a (l :: b)) with
      short | ⟨rest, rfl⟩
    · exact short
    · cases rest with
      | nil => exact ⟨[], by simp⟩
      | cons d rest =>
        obtain ⟨rfl, -⟩ := List.cons_prefix_cons.1 ((List.prefix_append_right_inj a).1 front)
        exact absurd (List.mem_append_right _ List.mem_cons_self) free
  induction a with
  | nil =>
    rcases List.infix_cons_iff.1 within with first | later
    · exact .inl (front first).isInfix
    · exact .inr later
  | cons d a ih =>
    rcases List.infix_cons_iff.1 within with first | later
    · exact .inl (front first).isInfix
    · exact (ih later).imp (fun h => h.trans (List.suffix_cons d a).isInfix) id

/-- A letter that is no digit ends the numbers before it. -/
theorem shortDigits_mid_iff {l : Letter} (other : isDigit l = false) {a b : Text} :
    ShortDigits (a ++ l :: b) ↔ ShortDigits a ∧ ShortDigits b := by
  constructor
  · intro short
    exact ⟨short.part (List.prefix_append a _).isInfix,
      short.part (((List.suffix_cons l b).trans (List.suffix_append a _)).isInfix)⟩
  · rintro ⟨before, after⟩ run within digits
    have free : l ∉ run := fun here => by
      rw [digits l here] at other
      cases other
    exact (infix_of_infix_mid within free).elim (before run · digits) (after run · digits)

/-- One number is short if it has no more digits than a number may be read from. -/
theorem shortDigits_run_iff {run : Text} (digits : ∀ l ∈ run, isDigit l = true) :
    ShortDigits run ↔ run.length ≤ digitLimit :=
  ⟨fun short => short run List.infix_rfl digits, shortDigits_of_length⟩

theorem shortDigits_marked_iff {mark : Letter} (other : isDigit mark = false) {a : Text}
    {digits? : Option Text} : ShortDigits (a ++ marked mark digits?) ↔
      ShortDigits a ∧ ∀ digits ∈ digits?, ShortDigits digits := by
  cases digits? with
  | none => simp [marked]
  | some digits => simp [marked, shortDigits_mid_iff other]

end Text

open Text

/-- Digits of a number: at least one, and no more than a number may be read from. -/
structure Numeral where
  digits : Text
  nonempty : digits ≠ []
  decimal : ∀ l ∈ digits, isDigit l = true
  short : digits.length ≤ digitLimit

namespace Numeral

/-- The number that is written. -/
def value (n : Numeral) : Nat := digitsValue n.digits

variable {n : Numeral} {rest : Text}

/-- The number with these digits. -/
def ofDigits (t : Text)
    (fits : t ≠ [] ∧ (∀ l ∈ t, isDigit l = true) ∧ t.length ≤ digitLimit) : Numeral :=
  ⟨t, fits.1, fits.2.1, fits.2.2⟩

def zero : Numeral := .ofDigits "0" (by decide)

theorem read (n : Numeral) : naturalOfDigits n.digits = .ok n.value :=
  if_neg (Nat.not_lt.2 n.short)

theorem isEmpty_digits (n : Numeral) : n.digits.isEmpty = false :=
  List.isEmpty_eq_false_iff.2 n.nonempty

/-- A number begins with a digit. -/
theorem exists_head (n : Numeral) : ∃ l rest, n.digits = l :: rest ∧ isDigit l = true := by
  cases digits : n.digits with
  | nil => exact absurd digits n.nonempty
  | cons l rest => exact ⟨l, rest, rfl, n.decimal l (digits ▸ List.mem_cons_self)⟩

theorem takeWhile (n : Numeral) (stops : Stops isDigit rest) :
    (n.digits ++ rest).takeWhile isDigit = n.digits := takeWhile_run n.decimal stops

theorem dropWhile (n : Numeral) (stops : Stops isDigit rest) :
    (n.digits ++ rest).dropWhile isDigit = rest := dropWhile_run n.decimal stops

/-- A run of digits in a text without long ones is a number. -/
theorem exists_of_run {run t : Text} (short : ShortDigits t) (within : run <:+: t)
    (digits : ∀ l ∈ run, isDigit l = true) (nonempty : run ≠ []) :
    ∃ n : Numeral, n.digits = run :=
  ⟨⟨run, nonempty, digits, short run within digits⟩, rfl⟩

/-- Two runs of digits with a mark between them are numbers, if they are not too long. -/
theorem exists_of_marked {mark : Letter} (other : isDigit mark = false) {run : Text}
    {run? : Option Text} (digits : ∀ r ∈ run :: run?.toList, IsDigits r)
    (short : ShortDigits (run ++ marked mark run?)) :
    ∃ (n : Numeral) (n? : Option Numeral), n.digits = run ∧ n?.map Numeral.digits = run? := by
  obtain ⟨own, others⟩ := (shortDigits_marked_iff other).1 short
  obtain ⟨filled, all⟩ := digits run List.mem_cons_self
  obtain ⟨n, same⟩ := exists_of_run own List.infix_rfl all filled
  cases run? with
  | none => exact ⟨n, none, same, rfl⟩
  | some run' =>
    obtain ⟨filled', all'⟩ := digits run' (by simp)
    obtain ⟨n', same'⟩ := exists_of_run (others run' rfl) List.infix_rfl all' filled'
    exact ⟨n, some n', same, congrArg some same'⟩

/-- The digits of one number or of two. -/
theorem isDigits (n : Numeral) (n? : Option Numeral) :
    ∀ run ∈ n.digits :: (n?.map Numeral.digits).toList, IsDigits run := by
  intro run here
  rcases List.mem_cons.1 here with rfl | other
  · exact ⟨n.nonempty, n.decimal⟩
  · obtain ⟨n', -, rfl⟩ := Option.map_eq_some_iff.1 (Option.mem_toList.1 other)
    exact ⟨n'.nonempty, n'.decimal⟩

end Numeral

namespace Text

/-! ## §4. Pieces. -/

/-- Where a text is joined with a letter, it is cut there again. -/
theorem splitWhere_joined {c : Letter} {pieces : List Text} (some : pieces ≠ [])
    (free : ∀ piece ∈ pieces, c ∉ piece) : splitWhere (· == c) (joined [c] pieces) = pieces := by
  have other : ∀ piece ∈ pieces, ∀ l ∈ piece, (l == c) = false := by
    intro piece here l within
    exact beq_eq_false_iff_ne.2 fun same => free piece here (same ▸ within)
  induction pieces with
  | nil => exact absurd rfl some
  | cons piece pieces ih =>
    have own := other piece List.mem_cons_self
    cases pieces with
    | nil => exact splitWhere_of_none own
    | cons next pieces =>
      show splitWhere (· == c) (piece ++ [c] ++ joined [c] (next :: pieces)) = _
      rw [List.append_assoc, List.singleton_append, splitWhere_append own (beq_self_eq_true c),
        ih (List.cons_ne_nil _ _) (fun p here => free p (List.mem_cons_of_mem _ here))
          fun p here => other p (List.mem_cons_of_mem _ here)]

/-- Where a text is cut at a letter, it is joined with it again. -/
theorem joined_splitWhere (c : Letter) (t : Text) : joined [c] (splitWhere (· == c) t) = t := by
  induction t with
  | nil => rfl
  | cons l t ih =>
    have nonempty := splitWhere_ne_nil (· == c) t
    rw [splitWhere]
    by_cases here : l = c
    · subst here
      rw [if_pos (beq_self_eq_true l)]
      cases pieces : splitWhere (· == l) t with
      | nil => exact absurd pieces nonempty
      | cons piece pieces' =>
        show [] ++ [l] ++ joined [l] (piece :: pieces') = l :: t
        rw [← pieces, ih]
        rfl
    · rw [if_neg (by simpa using here)]
      cases pieces : splitWhere (· == c) t with
      | nil => exact absurd pieces nonempty
      | cons piece pieces' =>
        rw [pieces] at ih
        rw [← ih, consPiece]
        cases pieces' <;> rfl

/-- Joining brings in no letters but those of what is joined, and of what joins it. -/
theorem mem_joined {between : Text} {pieces : List Text} {l : Letter}
    (here : l ∈ joined between pieces) : l ∈ between ∨ ∃ piece ∈ pieces, l ∈ piece := by
  induction pieces with
  | nil => cases here
  | cons piece pieces ih =>
    cases pieces with
    | nil => exact .inr ⟨piece, List.mem_cons_self, here⟩
    | cons next pieces =>
      change l ∈ piece ++ between ++ joined between (next :: pieces) at here
      rw [List.mem_append, List.mem_append] at here
      rcases here with (own | outside) | later
      · exact .inr ⟨piece, List.mem_cons_self, own⟩
      · exact .inl outside
      · refine (ih later).imp id ?_
        rintro ⟨other, within, own⟩
        exact ⟨other, List.mem_cons_of_mem _ within, own⟩

/-- The first piece stands at the front of the text, and the others later in it. -/
theorem splitWhere_parts {p : Letter → Bool} {t first : Text} {rest : List Text}
    (cut : splitWhere p t = first :: rest) : first <+: t ∧ ∀ piece ∈ rest, piece <:+: t := by
  induction t generalizing first rest with
  | nil =>
    cases cut
    exact ⟨List.prefix_rfl, nofun⟩
  | cons l t ih =>
    cases pieces : splitWhere p t with
    | nil => exact absurd pieces (splitWhere_ne_nil p t)
    | cons next others =>
      obtain ⟨front, within⟩ := ih pieces
      have onwards := (List.suffix_cons l t).isInfix
      have later : ∀ piece ∈ others, piece <:+: l :: t :=
        fun piece here => (within piece here).trans onwards
      rw [splitWhere, pieces] at cut
      split at cut
      · cases cut
        exact ⟨List.nil_prefix, List.forall_mem_cons.2 ⟨front.isInfix.trans onwards, later⟩⟩
      · cases cut
        exact ⟨(List.prefix_cons_inj l).2 front, later⟩

/-- Every piece is a part of the text. -/
theorem infix_of_mem_splitWhere {p : Letter → Bool} {t piece : Text}
    (here : piece ∈ splitWhere p t) : piece <:+: t := by
  cases pieces : splitWhere p t with
  | nil => exact absurd pieces (splitWhere_ne_nil p t)
  | cons first rest =>
    obtain ⟨front, within⟩ := splitWhere_parts pieces
    rw [pieces] at here
    rcases List.mem_cons.1 here with rfl | later
    · exact front.isInfix
    · exact within piece later

/-- A text is cut alike where two classes agree on its letters. -/
theorem splitWhere_congr {p q : Letter → Bool} {t : Text} (same : ∀ l ∈ t, p l = q l) :
    splitWhere p t = splitWhere q t := by
  induction t with
  | nil => rfl
  | cons l t ih =>
    rw [splitWhere, splitWhere, same l List.mem_cons_self,
      ih fun d here => same d (List.mem_cons_of_mem _ here)]

/-! ## §5. Words. -/

/-- A blank ends a word, if one stands before it. -/
theorem splitWhere_mid {p : Letter → Bool} {l : Letter} (ends : p l = true) (t rest : Text) :
    splitWhere p (t ++ l :: rest) = splitWhere p t ++ splitWhere p rest := by
  induction t with
  | nil => simp [splitWhere, ends]
  | cons d t ih =>
    rw [List.cons_append, splitWhere, splitWhere, ih]
    split
    · rfl
    · cases pieces : splitWhere p t with
      | nil => exact absurd pieces (splitWhere_ne_nil p t)
      | cons piece pieces' => rfl

/-- The words before a blank, and those after it. -/
theorem words_append {l : Letter} (blank : isBlank l = true) (t rest : Text) :
    words (t ++ l :: rest) = words t ++ words rest := by
  unfold words
  rw [splitWhere_mid blank, List.filter_append]

/-- A text without blanks is one word. -/
theorem words_of_none {word : Text} (nonempty : word ≠ []) (solid : ∀ l ∈ word, isBlank l = false) :
    words word = [word] := by
  unfold words
  rw [splitWhere_of_none solid]
  simp [nonempty]

/-- Blanks before a text are no words. -/
theorem words_blanks {blanks : Text} (all : ∀ l ∈ blanks, isBlank l = true) (t : Text) :
    words (blanks ++ t) = words t := by
  induction blanks with
  | nil => rfl
  | cons l blanks ih =>
    have after := words_append (all l List.mem_cons_self) [] (blanks ++ t)
    rw [List.nil_append] at after
    rw [List.cons_append, after, ih fun d here => all d (List.mem_cons_of_mem _ here)]
    rfl

theorem words_dropWhile (t : Text) : words (t.dropWhile isBlank) = words t := by
  obtain ⟨blanks, rest, rfl, all, stops⟩ := exists_run isBlank t
  rw [dropWhile_run all stops, words_blanks all]

/-- Nor are blanks after it. -/
theorem words_append_blanks {blanks : Text} (all : ∀ l ∈ blanks, isBlank l = true) (t : Text) :
    words (t ++ blanks) = words t := by
  cases blanks with
  | nil => rw [List.append_nil]
  | cons l blanks =>
    have rest := words_blanks (fun d here => all d (List.mem_cons_of_mem l here)) []
    rw [List.append_nil] at rest
    rw [words_append (all l List.mem_cons_self), rest]
    exact List.append_nil _

/-- Every word is a part of the text. -/
theorem infix_of_mem_words {t word : Text} (here : word ∈ words t) : word <:+: t :=
  infix_of_mem_splitWhere (List.mem_filter.1 here).1

/-- A text that begins with no blank has a word. -/
theorem words_ne_nil {t : Text} (some : t ≠ []) (begins : Stops isBlank t) : words t ≠ [] := by
  obtain ⟨word, rest, rfl, solid, stops⟩ := exists_run (fun l => !isBlank l) t
  have solid' : ∀ l ∈ word, isBlank l = false := by simpa using solid
  have nonempty : word ≠ [] := by
    rintro rfl
    cases rest with
    | nil => exact some rfl
    | cons l rest =>
      have blank : isBlank l = true := by simpa using stops l rfl
      rw [begins l rfl] at blank
      cases blank
  cases rest with
  | nil =>
    rw [List.append_nil, words_of_none nonempty solid']
    exact List.cons_ne_nil _ _
  | cons l rest =>
    have blank : isBlank l = true := by simpa using stops l rfl
    rw [words_append blank, words_of_none nonempty solid']
    exact List.cons_ne_nil _ _

/-! ## §6. Trimming. -/

/-- Trimming takes away what surrounds a text that begins and ends with no blank. -/
theorem trim_surrounded {before core after : Text} (front : ∀ l ∈ before, isBlank l = true)
    (back : ∀ l ∈ after, isBlank l = true) (some : core ≠ []) (begins : Stops isBlank core)
    (ends : Stops isBlank core.reverse) : trim (before ++ core ++ after) = core := by
  have begins' : Stops isBlank (core ++ after) := by
    cases core with
    | nil => exact absurd rfl some
    | cons l core => exact begins
  have back' : ∀ l ∈ after.reverse, isBlank l = true :=
    fun l here => back l (List.mem_reverse.1 here)
  unfold trim trimWhere
  rw [List.append_assoc, dropWhile_run front begins', List.reverse_append,
    dropWhile_run back' ends, List.reverse_reverse]

/-- What trimming takes away is of the class that is trimmed. -/
theorem exists_trimmedWhere (p : Letter → Bool) (t : Text) :
    ∃ before after, t = before ++ trimWhere p t ++ after ∧ (∀ l ∈ before, p l = true) ∧
      ∀ l ∈ after, p l = true := by
  refine ⟨t.takeWhile p, ((t.dropWhile p).reverse.takeWhile p).reverse, ?_,
    all_of_mem_takeWhile, fun l here => all_of_mem_takeWhile l (List.mem_reverse.1 here)⟩
  have rest : trimWhere p t ++ ((t.dropWhile p).reverse.takeWhile p).reverse =
      t.dropWhile p := by
    unfold trimWhere
    rw [← List.reverse_append, List.takeWhile_append_dropWhile, List.reverse_reverse]
  rw [List.append_assoc, rest, List.takeWhile_append_dropWhile]

/-- What trimming takes away is blank. -/
theorem exists_trimmed (t : Text) :
    ∃ before after, t = before ++ trim t ++ after ∧ (∀ l ∈ before, isBlank l = true) ∧
      ∀ l ∈ after, isBlank l = true :=
  exists_trimmedWhere isBlank t

/-- A trimmed text ends with no blank. -/
theorem stops_reverse_trim (t : Text) : Stops isBlank (trim t).reverse := by
  unfold trim trimWhere
  rw [List.reverse_reverse]
  exact stops_dropWhile _ _

/-- Trimming takes blanks away from the end of a line, and the words of the line stay. -/
theorem exists_trim_line {before front line after : Text} (blank : ∀ l ∈ before, isBlank l = true)
    (blank' : ∀ l ∈ after, isBlank l = true) (some : front ≠ []) (begins : Stops isBlank front)
    (filled : words line ≠ []) :
    ∃ line', trim (before ++ (front ++ line) ++ after) = front ++ line' ∧
      words line' = words line ∧ line' <+: line := by
  obtain ⟨run, rest, same, blanks, stops⟩ := exists_run isBlank line.reverse
  have whole : line = rest.reverse ++ run.reverse := by
    rw [← List.reverse_append, ← same, List.reverse_reverse]
  have blanks' : ∀ l ∈ run.reverse, isBlank l = true :=
    fun l here => blanks l (List.mem_reverse.1 here)
  have kept : words rest.reverse = words line := by
    rw [whole, words_append_blanks blanks']
  have nonempty : rest ≠ [] := by
    rintro rfl
    exact filled (kept.symm.trans rfl)
  refine ⟨rest.reverse, ?_, kept, ⟨run.reverse, whole.symm⟩⟩
  have begins' : Stops isBlank (front ++ rest.reverse) := by
    cases front with
    | nil => exact absurd rfl some
    | cons l front => exact begins
  have ends : Stops isBlank (front ++ rest.reverse).reverse := by
    rw [List.reverse_append, List.reverse_reverse]
    cases rest with
    | nil => exact absurd rfl nonempty
    | cons l rest => exact stops
  have back : ∀ l ∈ run.reverse ++ after, isBlank l = true :=
    fun l here => (List.mem_append.1 here).elim (blanks' l) (blank' l)
  have core := trim_surrounded blank back (List.append_ne_nil_of_left_ne_nil some _) begins' ends
  rw [← core, whole]
  simp only [List.append_assoc]

theorem trim_within (t : Text) : trim t <:+: t := by
  obtain ⟨before, after, whole, -⟩ := exists_trimmed t
  exact ⟨before, after, whole.symm⟩

theorem words_trim (t : Text) : words (trim t) = words t := by
  obtain ⟨before, after, whole, front, back⟩ := exists_trimmed t
  conv => rhs; rw [whole, words_append_blanks back, words_blanks front]

/-- A text that begins and ends with no blank is trimmed already. -/
theorem trim_of_stops {t : Text} (begins : Stops isBlank t) (ends : Stops isBlank t.reverse) :
    trim t = t := by
  unfold trim trimWhere
  rw [begins.dropWhile, ends.dropWhile, List.reverse_reverse]

/-- And so is a text without blanks. -/
theorem trim_of_none {t : Text} (solid : ∀ l ∈ t, isBlank l = false) : trim t = t :=
  trim_of_stops (fun l here => solid l (List.mem_of_mem_head? here))
    fun l here => solid l (List.mem_reverse.1 (List.mem_of_mem_head? here))

/-- A trimmed text begins with no blank. -/
theorem stops_trim (t : Text) : Stops isBlank (trim t) := by
  have front : trim t <+: t.dropWhile isBlank := by
    unfold trim trimWhere
    rw [← List.reverse_suffix, List.reverse_reverse]
    exact List.dropWhile_suffix _
  obtain ⟨rest, whole⟩ := front
  intro l here
  refine stops_dropWhile isBlank t l ?_
  rw [← whole, List.head?_append, Option.mem_def.1 here]
  rfl

/-- Blanks around a text are trimmed away with those that it has. -/
theorem trim_blanks {before after : Text} (front : ∀ l ∈ before, isBlank l = true)
    (back : ∀ l ∈ after, isBlank l = true) (t : Text) : trim (before ++ t ++ after) = trim t := by
  obtain ⟨inner, outer, whole, front', back'⟩ := exists_trimmed t
  by_cases blank : trim t = []
  · -- Nothing is left of a blank text, so nothing is left with more blanks.
    have all : ∀ l ∈ before ++ t ++ after, isBlank l = true := by
      rw [whole, blank]
      simp only [List.mem_append]
      grind
    rw [blank]
    unfold trim trimWhere
    rw [List.dropWhile_eq_nil_iff.2 all]
    rfl
  · have front'' : ∀ l ∈ before ++ inner, isBlank l = true := by
      intro l here
      exact (List.mem_append.1 here).elim (front l) (front' l)
    have back'' : ∀ l ∈ outer ++ after, isBlank l = true := by
      intro l here
      exact (List.mem_append.1 here).elim (back' l) (back l)
    rw [← trim_surrounded front'' back'' blank (stops_trim t) (stops_reverse_trim t)]
    conv => lhs; rw [whole]
    simp only [List.append_assoc]

theorem trim_dropWhile (t : Text) : trim (t.dropWhile isBlank) = trim t := by
  unfold trim trimWhere
  rw [(stops_dropWhile isBlank t).dropWhile]

/-- Nothing is trimmed behind the first visible letter, if the text ends with no blank. -/
theorem trim_append_solid {t solid : Text} (visible : trim t ≠ []) (some : solid ≠ [])
    (all : ∀ l ∈ solid, isBlank l = false) : trim (t ++ solid) = t.dropWhile isBlank ++ solid := by
  have rest : t.dropWhile isBlank ≠ [] := by
    intro none
    rw [← trim_dropWhile, none] at visible
    exact visible rfl
  have begins : Stops isBlank (t.dropWhile isBlank ++ solid) := by
    obtain ⟨l, more, same⟩ := List.exists_cons_of_ne_nil rest
    have stops := stops_dropWhile isBlank t
    rw [same] at stops ⊢
    exact stops
  have ends : Stops isBlank (t.dropWhile isBlank ++ solid).reverse := by
    rw [List.reverse_append]
    exact stops_append (by simpa using some) (by simpa using all) _
  have core : trim (t.takeWhile isBlank ++ (t.dropWhile isBlank ++ solid) ++ []) =
      t.dropWhile isBlank ++ solid :=
    trim_surrounded all_of_mem_takeWhile nofun (List.append_ne_nil_of_left_ne_nil rest _) begins
      ends
  rw [← core, List.append_nil, ← List.append_assoc, List.takeWhile_append_dropWhile]

end Text
end Plectrum
