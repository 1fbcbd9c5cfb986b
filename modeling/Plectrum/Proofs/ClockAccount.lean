/-
  Plectrum.Proofs.ClockAccount
  ────────────────────────────
  **The clock is an account of what was played.**

  Time goes on by a measure for each chord of a pattern and for each measure of silence, and
  by its beats for each measure of a tab; nothing else moves the clock.  The columns of a tab
  add up to its beats exactly, since a measure is divided into columns only where that leaves
  no rest.  The silent ticks at the end are an account too: music of any kind starts it anew.
  A call that is refused enters neither account.

  Main results:
    * `Play.readTab_total` — the columns of a tab that is read last as long as its measures;
    * `Move.ensures_accounts` — one move enters both accounts when it goes well, and neither
      when it is refused;
    * `Session.clock_account` — so both accounts are right at every point of every session.
-/
import Mathlib.Algebra.BigOperators.Group.List.Basic
import Mathlib.Data.List.DropRight
import Mathlib.Tactic.Ring
import Plectrum.Proofs.Parts
import Plectrum.Proofs.WholeClock

namespace Plectrum

/-! ## §1. What moves are worth. -/

/-- The measures of a tab: those of its first line. -/
def Tab.measureCount (tab : Datum) : Nat :=
  match linesOfDatum tab with
  | .ok (line :: _) => ((measures line).toOption.getD []).length
  | _ => 0

/-- The beats that the measures of a tab span; `default` stands for beats that are not stated. -/
def Tab.beatsOfParts (parts : List Datum) (stated : Datum) (default : Nat) : Int :=
  match TabText.ofParts parts stated with
  | .ok asked => measureCount asked.text * (asked.beatsOr default).int?.getD 0
  | .error _ => 0

namespace Move

/-- The chords that a move plays a pattern over. -/
def chordCount : Move → Nat
  | .play (.pattern _) chords => chords.length
  | _ => 0

/-- The measures of silence that a move asks for. -/
def silentMeasures : Move → Nat
  | .play .silence _ => 1
  | .rest measures => (measures.int?.getD 0).toNat
  | _ => 0

/-- The beats of the measures of a tab. -/
def tabBeats (default : Nat) : Move → Int
  | .tab parts stated => Tab.beatsOfParts parts stated default
  | _ => 0

/-- A pattern over chords, or a tab. -/
def isMusic : Move → Bool
  | .play (.pattern _) _ | .tab .. => true
  | _ => false

/-- The measures that moves fill with a pattern or with silence. -/
def measuresOf (moves : List Move) : Nat :=
  (moves.map fun m => m.chordCount + m.silentMeasures).sum

/-- The beats that moves fill with tabs. -/
def tabBeatsOf (default : Nat) (moves : List Move) : Int := (moves.map (tabBeats default)).sum

/-- The measures of silence since the last music. -/
def silenceAtEnd (moves : List Move) : Nat :=
  ((moves.rtakeWhile fun m => !m.isMusic).map silentMeasures).sum

variable (moves : List Move) (m : Move)

theorem measuresOf_append (more : List Move) :
    measuresOf (moves ++ more) = measuresOf moves + measuresOf more := by
  unfold measuresOf
  rw [List.map_append, List.sum_append]

theorem measuresOf_singleton : measuresOf [m] = m.chordCount + m.silentMeasures :=
  List.sum_singleton

theorem tabBeatsOf_append (default : Nat) (more : List Move) :
    tabBeatsOf default (moves ++ more) = tabBeatsOf default moves + tabBeatsOf default more := by
  unfold tabBeatsOf
  rw [List.map_append, List.sum_append]

theorem tabBeatsOf_singleton (default : Nat) : tabBeatsOf default [m] = m.tabBeats default :=
  List.sum_singleton

variable {moves} in
/-- Tabs that go forward do so together. -/
theorem tabBeatsOf_nonneg {default : Nat} (forward : ∀ m ∈ moves, 0 ≤ m.tabBeats default) :
    0 ≤ tabBeatsOf default moves := by
  refine List.sum_nonneg fun beats here => ?_
  obtain ⟨m, inMoves, rfl⟩ := List.mem_map.1 here
  exact forward m inMoves

theorem silenceAtEnd_music (music : m.isMusic = true) : silenceAtEnd (moves ++ [m]) = 0 := by
  unfold silenceAtEnd
  rw [List.rtakeWhile_concat_neg _ _ _ (by rw [music]; decide)]
  rfl

theorem silenceAtEnd_other (other : m.isMusic = false) :
    silenceAtEnd (moves ++ [m]) = silenceAtEnd moves + m.silentMeasures := by
  unfold silenceAtEnd
  rw [List.rtakeWhile_concat_pos _ _ _ (by rw [other]; decide), List.map_append, List.sum_append,
    List.map_singleton, List.sum_singleton]

theorem silenceAtEnd_le : silenceAtEnd moves ≤ measuresOf moves := by
  -- From the end, as the silence is counted: music sets it back to nothing.
  induction moves using List.reverseRecOn with
  | nil => exact Nat.le_refl 0
  | append_singleton moves m ih =>
    rw [measuresOf_append, measuresOf_singleton]
    cases music : m.isMusic with
    | true =>
      rw [silenceAtEnd_music moves m music]
      exact Nat.zero_le _
    | false =>
      rw [silenceAtEnd_other moves m music]
      omega

end Move

namespace Config

/-- The ticks of a beat, where they are a whole number. -/
def beatTicks (c : Config) : Int := c.ticks.integer?.getD 0

/-- The beats of the lead-in, where they are a whole number; none without a lead-in. -/
def leadBeats (c : Config) : Int := (c.lead.bind Quantity.integer?).getD 0

/-- The ticks of a measure. -/
def measureTicks (c : Config) : Int := c.signature.beats * c.beatTicks

/-- The clock after some moves. -/
def clockAfter (c : Config) (moves : List Move) : Int :=
  c.leadBeats * c.beatTicks + c.measureTicks * Move.measuresOf moves
    + Move.tabBeatsOf c.signature.beats moves * c.beatTicks

/-- The silent ticks at the end after some moves. -/
def silenceAfter (c : Config) (moves : List Move) : Int :=
  c.measureTicks * Move.silenceAtEnd moves

section Forward

variable {c : Config} {moves more : List Move}

theorem measureTicks_nonneg (positive : 0 ≤ c.beatTicks) : 0 ≤ c.measureTicks :=
  Int.mul_nonneg (Int.natCast_nonneg _) positive

/-- More moves do not take the clock back. -/
theorem clockAfter_le (positive : 0 ≤ c.beatTicks)
    (forward : ∀ m ∈ more, 0 ≤ m.tabBeats c.signature.beats) :
    c.clockAfter moves ≤ c.clockAfter (moves ++ more) := by
  have measures : 0 ≤ c.measureTicks * (Move.measuresOf more : Int) :=
    Int.mul_nonneg (measureTicks_nonneg positive) (Int.natCast_nonneg _)
  have beats : 0 ≤ Move.tabBeatsOf c.signature.beats more * c.beatTicks :=
    Int.mul_nonneg (Move.tabBeatsOf_nonneg forward) positive
  unfold clockAfter
  rw [Move.measuresOf_append, Move.tabBeatsOf_append, Int.natCast_add, Int.mul_add, Int.add_mul]
  omega

/-- What is silent at the end comes after the lead-in. -/
theorem lead_le (positive : 0 ≤ c.beatTicks)
    (forward : ∀ m ∈ moves, 0 ≤ m.tabBeats c.signature.beats) :
    c.leadBeats * c.beatTicks ≤ c.clockAfter moves - c.silenceAfter moves := by
  have measures : c.measureTicks * (Move.silenceAtEnd moves : Int) ≤
      c.measureTicks * (Move.measuresOf moves : Int) :=
    Int.mul_le_mul_of_nonneg_left (Int.ofNat_le.2 (Move.silenceAtEnd_le moves))
      (measureTicks_nonneg positive)
  have beats : 0 ≤ Move.tabBeatsOf c.signature.beats moves * c.beatTicks :=
    Int.mul_nonneg (Move.tabBeatsOf_nonneg forward) positive
  unfold clockAfter silenceAfter
  omega

end Forward
end Config

/-! ## §2. The length of a tab. -/

namespace Tab

/-- The measures of a tab are those of its first line. -/
theorem Fills.measureCount_eq {tab : Datum} {tabLines : List Text} {table : List (List Text)}
    {span : Int} {parts : List (List Int)} {g : Grid} (lines : linesOfDatum tab = .ok tabLines)
    (fills : Fills span tabLines table parts g) : measureCount tab = parts.length := by
  have rows := mapM_ok_iff_forall₂.1 fills.ruled.read
  unfold measureCount
  rw [lines]
  cases rows with
  | nil => exact absurd rfl fills.ruled.some
  | @cons firstLine firstRow _ _ first _ =>
    have aligned := fills.ruled.aligned firstRow List.mem_cons_self
    dsimp only
    rw [first]
    show firstRow.length = parts.length
    rw [← List.length_map List.length, aligned, List.length_map]

/-- The columns of a tab of whole beats add up to the beats of its measures. -/
theorem grid_total {tab count : Datum} {ticks beats : Quantity} {t b : Int} {uniform : Bool}
    (resolution : ticks.integer? = some t) (whole : beats.integer? = some b) {g : Grid}
    (read : grid tab count (.number ticks) (.number beats) uniform = .ok g) :
    0 ≤ b ∧ ∃ ks : List Int, g.steps = ks.map .whole ∧ ks.sum = measureCount tab * b * t := by
  obtain ⟨forward, tabLines, table, parts, lines, fills⟩ := exists_fills resolution whole read
  refine ⟨forward.le, parts.flatten, fills.steps, ?_⟩
  rw [fills.sum, fills.measureCount_eq lines, Int.mul_assoc, Int.mul_comm t b]

end Tab

/-- The columns of a tab that is read add up to its beats. -/
theorem Play.readTab_total {v : Voice} {t : Int} (resolution : v.config.ticks.integer? = some t)
    {parts : List Datum} {stated : Datum} (whole : stated = .null ∨ stated.int?.isSome = true) :
    Yields (readTab v parts stated) fun g =>
      0 ≤ Tab.beatsOfParts parts stated v.beats ∧ ∃ ks : List Int, g.steps = ks.map .whole ∧
        ks.sum = Tab.beatsOfParts parts stated v.beats * t := by
  unfold readTab
  refine .bind fun asked askedHere => ?_
  obtain ⟨q, b, same, wholeBeats⟩ := TabText.ofParts_whole v.beats whole asked askedHere
  have spans : Tab.beatsOfParts parts stated v.beats = Tab.measureCount asked.text * b := by
    unfold Tab.beatsOfParts
    rw [askedHere]
    dsimp only
    rw [same]
    show (Tab.measureCount asked.text : Int) * q.integer?.getD 0 = _
    rw [wholeBeats]
    rfl
  rw [same, spans]
  refine .bind fun g read => .bind fun _ _ => .pure ?_
  obtain ⟨forward, columns⟩ := Tab.grid_total resolution wholeBeats read
  exact ⟨Int.mul_nonneg (Int.natCast_nonneg _) forward, columns⟩

/-! ## §3. The length of what is played. -/

section Lengths

variable {γ : Type} [ChanceSource γ] {v w : Voice} {c t : Int}

/-- Columns of whole ticks end where their sum says. -/
theorem ColumnTicks.last_eq {ks : List Int} {nominals : List Quantity} {last : Quantity}
    (h : ColumnTicks (.whole c) (ks.map .whole) nominals last) : last = .whole (c + ks.sum) := by
  induction ks generalizing c nominals with
  | nil =>
    cases h
    rw [List.sum_nil, Int.add_zero]
  | cons k ks ih =>
    cases h with
    | cons sum rest =>
      cases sum
      rw [ih rest, List.sum_cons, Int.add_assoc]

/-- Measures of a pattern move the clock on by their number. -/
theorem Measures.clock_eq {groups : List Group} {count : Nat} (h : Measures γ groups count v w)
    (clock : v.clock = .whole c) (measure : v.measure = .whole t) :
    w.clock = .whole (c + t * count) ∧ w.skip = v.skip := by
  induction h generalizing c with
  | nil v => exact ⟨by rw [clock, Int.natCast_zero, Int.mul_zero, Int.add_zero], rfl⟩
  | @cons count v w x first rest ih =>
    -- The strikes of a measure leave the clock where it is; its end moves it.
    obtain ⟨nominals, y, next, -, onsets, sum, rfl⟩ := first
    rw [onsets.still.1, onsets.grown.measure, clock, measure] at sum
    cases sum
    obtain ⟨after, skip⟩ := ih rfl (onsets.grown.measure.trans measure)
    refine ⟨?_, skip.trans onsets.still.2⟩
    rw [after]
    push_cast
    congr 1
    ring

end Lengths

/-! ## §4. Both accounts of a voice. -/

/-- A voice of whole ticks whose clock and whose silence at the end are what its moves are
worth; none of these went back in time. -/
structure Voice.Accounts (done : List Move) (v : Voice) : Prop where
  resolution : v.config.ticks.integer? = some v.config.beatTicks
  positive : 0 ≤ v.config.beatTicks
  forward : ∀ m ∈ done, 0 ≤ m.tabBeats v.config.signature.beats
  measure : v.measure = .whole v.config.measureTicks
  clock : v.clock = .whole (v.config.clockAfter done)
  skip : v.skip = .whole (v.config.silenceAfter done)

namespace Voice.Accounts

variable {v w : Voice} {done : List Move}

theorem close (h : v.Accounts done) : v.close.Accounts done :=
  ⟨h.resolution, h.positive, h.forward, h.measure, h.clock, h.skip⟩

/-- What has the settings, the clock and the silence of a voice has its accounts. -/
theorem same (h : v.Accounts done) (config : w.config = v.config) (measure : w.measure = v.measure)
    (clock : w.clock = v.clock) (skip : w.skip = v.skip) : w.Accounts done := by
  refine ⟨?_, ?_, ?_, ?_, ?_, ?_⟩
  · rw [config]
    exact h.resolution
  · rw [config]
    exact h.positive
  · rw [config]
    exact h.forward
  · rw [measure, config]
    exact h.measure
  · rw [clock, config]
    exact h.clock
  · rw [skip, config]
    exact h.skip

/-- A move enters the accounts: its measures and its beats are added to the clock, and its
silence to the silence at the end, unless it is music. -/
theorem enter (h : v.Accounts done) {m : Move} (config : w.config = v.config)
    (measure : w.measure = v.measure) (forward : 0 ≤ m.tabBeats v.config.signature.beats)
    (clock : w.clock = .whole (v.config.clockAfter done
      + v.config.measureTicks * (m.chordCount + m.silentMeasures : Nat)
      + m.tabBeats v.config.signature.beats * v.config.beatTicks))
    (skip : w.skip = .whole (if m.isMusic then 0
      else v.config.silenceAfter done + v.config.measureTicks * m.silentMeasures)) :
    w.Accounts (done ++ [m]) := by
  refine ⟨?_, ?_, ?_, ?_, ?_, ?_⟩
  · rw [config]
    exact h.resolution
  · rw [config]
    exact h.positive
  · rw [config]
    exact List.forall_mem_append.2 ⟨h.forward, List.forall_mem_singleton.2 forward⟩
  · rw [measure, config]
    exact h.measure
  · rw [clock, config]
    congr 1
    unfold Config.clockAfter
    rw [Move.measuresOf_append, Move.measuresOf_singleton, Move.tabBeatsOf_append,
      Move.tabBeatsOf_singleton]
    push_cast
    ring
  · rw [skip, config]
    congr 1
    unfold Config.silenceAfter
    cases music : m.isMusic with
    | true =>
      rw [Move.silenceAtEnd_music done m music]
      exact (Int.mul_zero _).symm
    | false =>
      rw [Move.silenceAtEnd_other done m music, Int.natCast_add, Int.mul_add]
      rfl

/-- A move that is worth nothing enters nothing. -/
theorem enter_nothing (h : v.Accounts done) (m : Move) (chords : m.chordCount = 0)
    (silent : m.silentMeasures = 0) (beats : m.tabBeats v.config.signature.beats = 0)
    (other : m.isMusic = false) : v.Accounts (done ++ [m]) := by
  refine h.enter rfl rfl beats.ge ?_ ?_
  · rw [h.clock, chords, silent, beats, Int.zero_mul, Nat.add_zero, Int.natCast_zero,
      Int.mul_zero, Int.add_zero, Int.add_zero]
  · rw [h.skip, silent, other, Int.natCast_zero, Int.mul_zero, Int.add_zero]
    rfl

end Voice.Accounts

/-- Where the ticks of a beat are whole, `beatTicks` are those. -/
theorem Config.resolution_of_whole {c : Config} (whole : c.ticks.integer?.isSome = true) :
    c.ticks.integer? = some c.beatTicks := by
  obtain ⟨t, resolution⟩ := Option.isSome_iff_exists.1 whole
  unfold Config.beatTicks
  rw [resolution]
  rfl

theorem Config.Whole.resolution {c : Config} (whole : c.Whole) :
    c.ticks.integer? = some c.beatTicks :=
  resolution_of_whole whole.ticks

/-- The lead-in of whole beats ends after these beats. -/
theorem Voice.leadIn_eq {c : Config} (whole : c.Whole) :
    Yields (leadIn c) fun clock => clock = .whole (c.leadBeats * c.beatTicks) := by
  unfold leadIn Config.leadBeats
  cases leads : c.lead with
  | none => exact .pure (congrArg Quantity.whole (Int.zero_mul _).symm)
  | some beats =>
    obtain ⟨b, count⟩ := Option.isSome_iff_exists.1 (whole.lead beats leads)
    have counted : ((some beats).bind Quantity.integer?).getD 0 = b := by
      show beats.integer?.getD 0 = b
      rw [count]
      rfl
    rw [counted]
    dsimp only
    split
    · next zero =>
      -- No beats at all are as good as no lead-in.
      have none_ : b = 0 := by
        have same : beats.same (.whole 0) = true := zero
        unfold Quantity.same at same
        rw [Quantity.place_of_integer count] at same
        exact_mod_cast Quantity.Place.value.inj (eq_of_beq same)
      rw [none_]
      exact .pure (congrArg Quantity.whole (Int.zero_mul _).symm)
    · rw [Quantity.mul_of_integer count whole.resolution]
      exact .pure (congrArg Quantity.whole (Int.zero_add _))

/-- A new voice has played nothing. -/
theorem Voice.New.accounts {v : Voice} (h : v.New) (whole : v.config.Whole) : v.Accounts [] := by
  obtain ⟨options, accepted, -, fresh⟩ := h.fresh
  have inBounds := Config.ofOptions_inBounds options _ accepted
  have positive := Quantity.pos_of_integer whole.resolution inBounds.ticks
  have lead := leadIn_eq whole v.clock fresh.clock
  have measure := fresh.measure
  unfold Config.ticksPerMeasure at measure
  rw [Quantity.mul_of_integer rfl whole.resolution] at measure
  refine ⟨whole.resolution, positive.le, List.forall_mem_nil _, ?_, ?_, ?_⟩
  · exact (Except.ok.inj measure).symm
  · rw [lead]
    show _ = Quantity.whole (_ + _ * ((0 : Nat) : Int) + 0 * _)
    rw [Int.natCast_zero, Int.mul_zero, Int.zero_mul, Int.add_zero, Int.add_zero]
  · rw [fresh.skip]
    exact congrArg Quantity.whole (Int.mul_zero _).symm

/-! ## §5. Moves. -/

section Moves

variable {γ : Type} [ChanceSource γ] {p : Player γ} {c k t : Int} {done : List Move}

namespace Play

/-- Silence moves the clock and the silence on by a measure, or is refused. -/
theorem ensures_silence_exact (clock : p.voice.clock = .whole c) (skip : p.voice.skip = .whole k)
    (measure : p.voice.measure = .whole t) (chords : List Datum) :
    (play .silence chords).Ensures p
      (fun _ q => q.voice = { p.voice with clock := .whole (c + t), skip := .whole (k + t) })
      fun _ q => (p.voice.finished = true ∨ chords ≠ []) ∧ q = p := by
  unfold play
  rw [ensures_requireOpen_bind]
  split
  · next finished => exact ⟨.inl finished, rfl⟩
  · refine .check (fun given => ⟨.inr ?_, rfl⟩) fun _ => ?_
    · intro none_
      rw [none_] at given
      cases given
    · unfold playSilence
      rw [ensures_voice_bind, Act.ensures_lift_bind, clock, skip, measure]
      refine ⟨?_, fun f failed => nomatch failed⟩
      rintro _ ⟨rfl⟩
      rw [ensures_changeVoice_bind, Act.ensures_lift_bind]
      refine ⟨?_, fun f failed => nomatch failed⟩
      rintro _ ⟨rfl⟩
      rw [ensures_changeVoice]

/-- An open voice keeps silent for as many measures as it is asked. -/
theorem ensures_rests_exact (isOpen : p.voice.finished = false)
    (clock : p.voice.clock = .whole c) (skip : p.voice.skip = .whole k)
    (measure : p.voice.measure = .whole t) (count : Nat) :
    (rests count).Ensures p
      (fun _ q => q.voice =
        { p.voice with clock := .whole (c + t * count), skip := .whole (k + t * count) })
      fun _ _ => False := by
  -- The clock and the silence that have been reached go through the induction.
  induction count generalizing p c k with
  | zero =>
    show (pure () : Play γ Unit).Ensures p _ _
    rw [Act.ensures_pure, Int.natCast_zero, Int.mul_zero, Int.add_zero, Int.add_zero, ← clock,
      ← skip]
  | succ count ih =>
    unfold rests
    refine ((ensures_silence_exact clock skip measure []).mono (fun _ _ moved => moved) ?_).bind ?_
    · rintro _ _ ⟨finished | given, -⟩
      · rw [isOpen] at finished
        cases finished
      · exact given rfl
    · intro _ q moved
      have later := ih (p := q) (c := c + t) (k := k + t) (by rw [moved]; exact isOpen)
        (by rw [moved]) (by rw [moved]) (by rw [moved]; exact measure)
      refine later.mono ?_ fun _ _ never => never
      intro _ r after
      have sum : ∀ n : Int, n + t + t * count = n + t * (count + 1 : Nat) := by
        intro n
        push_cast
        ring
      rw [after, moved, sum, sum]

/-- There is a list of frets for each chord. -/
theorem readChords_length (roots : List Quantity) (chords : List Datum) :
    Yields (readChords roots chords) fun parsed => parsed.length = chords.length := by
  unfold readChords
  refine .check fun _ parsed read => ?_
  have each := Yields.mapM (R := fun _ _ => True) (fun _ _ _ _ => True.intro) parsed read
  exact each.length_eq.symm

/-- A passage enters the accounts if what is played of it does. -/
theorem ensures_passage_accounts (here : p.voice.Accounts done) (passage : Passage) {m : Move}
    (worth : Yields (passage.read p.voice) fun sheet =>
      ∀ w, sheet.Played γ p.voice w → w.Accounts (done ++ [m])) :
    passage.act.Ensures p (fun _ q => q.voice.Accounts (done ++ [m]))
      fun f q => f.kind.isMusical = true → q.voice.Accounts done := by
  cases isOpen : p.voice.finished with
  | true =>
    rw [ensures_passage_finished isOpen]
    intro _
    exact here
  | false =>
    refine (ensures_passage isOpen passage).mono ?_ ?_
    · intro _ q played
      obtain ⟨sheet, read, played⟩ := played
      exact worth sheet read q.voice played
    · rintro f q (⟨-, rfl⟩ | ⟨_, -, technical, -⟩) musical
      · exact here
      · rw [technical.not_musical] at musical
        cases musical

/-- Silence enters the accounts as a measure of silence. -/
theorem ensures_silence_accounts (here : p.voice.Accounts done) (chords : List Datum) :
    (play .silence chords).Ensures p
      (fun _ q => q.voice.Accounts (done ++ [.play .silence chords]))
      fun f q => f.kind.isMusical = true → q.voice.Accounts done := by
  refine (ensures_silence_exact here.clock here.skip here.measure chords).mono ?_ ?_
  · intro _ q moved
    rw [moved]
    refine here.enter rfl rfl (le_refl 0) ?_ ?_
    · show Quantity.whole _ = .whole (_ + _ * ((0 + 1 : Nat) : Int) + 0 * _)
      rw [Int.zero_mul, Int.add_zero, Nat.zero_add, Int.natCast_one, Int.mul_one]
    · show Quantity.whole _ = .whole (_ + _ * ((1 : Nat) : Int))
      rw [Int.natCast_one, Int.mul_one]
  · rintro _ _ ⟨-, rfl⟩ _
    exact here

/-- A pattern enters them as a measure for each of its chords. -/
theorem ensures_pattern_accounts (here : p.voice.Accounts done) (pattern : Pattern)
    (chords : List Datum) :
    (play (.pattern pattern) chords).Ensures p
      (fun _ q => q.voice.Accounts (done ++ [.play (.pattern pattern) chords]))
      fun f q => f.kind.isMusical = true → q.voice.Accounts done := by
  refine ensures_passage_accounts here (.pattern pattern chords) (.map ?_)
  intro parsed reads w played
  have grown := Sheet.Played.grown played
  obtain ⟨clock, skip⟩ := Measures.clock_eq played here.clock here.measure
  refine here.enter grown.config grown.measure (le_refl 0) ?_ skip
  rw [clock, readChords_length _ _ parsed reads]
  show _ = Quantity.whole (_ + _ * ((chords.length + 0 : Nat) : Int) + 0 * _)
  rw [Int.zero_mul, Int.add_zero, Nat.add_zero]

/-- A tab enters them as the beats of its measures. -/
theorem ensures_tab_accounts (here : p.voice.Accounts done) (parts : List Datum) {stated : Datum}
    (whole : stated = .null ∨ stated.int?.isSome = true) :
    (tab parts stated).Ensures p
      (fun _ q => q.voice.Accounts (done ++ [.tab parts stated]))
      fun f q => f.kind.isMusical = true → q.voice.Accounts done := by
  refine ensures_passage_accounts here (.tab parts stated) (.map ?_)
  intro g reads w played
  obtain ⟨forward, ks, steps, total⟩ := readTab_total here.resolution whole g reads
  have grown := Sheet.Played.grown played
  obtain ⟨nominals, x, clock, ticks, onsets, rfl⟩ := played
  rw [g.columns_steps, steps, here.clock] at ticks
  refine here.enter grown.config grown.measure forward ?_ rfl
  show clock = .whole (_ + _ * ((0 + 0 : Nat) : Int) + _ * _)
  rw [ticks.last_eq, total, Nat.zero_add, Int.natCast_zero, Int.mul_zero, Int.add_zero]
  rfl

/-- A rest enters them as its measures of silence. -/
theorem ensures_rest_accounts (here : p.voice.Accounts done) (measures : Datum) :
    (rest measures).Ensures p (fun _ q => q.voice.Accounts (done ++ [.rest measures]))
      fun f q => f.kind.isMusical = true → q.voice.Accounts done := by
  unfold rest
  split
  · next count known =>
    have silent : (Move.rest measures).silentMeasures = count.toNat := by
      show (measures.int?.getD 0).toNat = _
      rw [known]
      rfl
    cases isOpen : p.voice.finished with
    | false =>
      refine (ensures_rests_exact isOpen here.clock here.skip here.measure _).mono ?_ ?_
      · intro _ q moved
        rw [moved]
        refine here.enter rfl rfl (le_refl 0) ?_ ?_
        · show Quantity.whole _ =
            .whole (_ + _ * ((0 + Move.silentMeasures _ : Nat) : Int) + 0 * _)
          rw [Int.zero_mul, Int.add_zero, Nat.zero_add, silent]
        · rw [silent]
          rfl
      · intro _ _ never
        exact never.elim
    | true =>
      cases count : count.toNat with
      | zero =>
        show (pure () : Play γ Unit).Ensures p _ _
        rw [Act.ensures_pure]
        exact here.enter_nothing _ rfl (silent.trans count) rfl rfl
      -- A finished voice refuses the first measure, and no measures at all are not refused.
      | succ more =>
        unfold rests play
        rw [bind_assoc, ensures_requireOpen_bind, if_pos isOpen]
        intro _
        exact here
  · rw [Act.ensures_throw]
    intro _
    exact here

end Play

/-- A declared move enters the accounts of a voice when it goes well, and leaves them as they
are when it is refused as a mistake in the music. -/
theorem Move.ensures_accounts (m : Move) (declared : m.Declared) (here : p.voice.Accounts done) :
    m.act.Ensures p (fun _ q => q.voice.Accounts (done ++ [m]))
      fun f q => f.kind.isMusical = true → q.voice.Accounts done := by
  have steady : ∀ (q : Player γ) d, q.voice.Accounts done →
      Voice.Accounts done { q.voice with dynamics := d } :=
    fun q d there => there.same rfl rfl rfl rfl
  cases m with
  | play music chords =>
    cases music with
    | silence => exact Play.ensures_silence_accounts here chords
    | pattern pattern => exact Play.ensures_pattern_accounts here pattern chords
    | other kindName =>
      exact Play.ensures_passage_accounts here (.other kindName chords) (.error _)
  | tab parts stated => exact Play.ensures_tab_accounts here parts declared
  | rest measures => exact Play.ensures_rest_accounts here measures
  | cresc | tempo | rit =>
    -- What touches the dynamics alone is worth nothing.
    refine (keeps_expression steady rfl p here).mono ?_ ?_
    · exact fun _ _ there => there.enter_nothing _ rfl rfl rfl rfl
    · exact fun _ _ there _ => there
  | note tick pitch velocity =>
    refine (Play.ensures_note tick pitch velocity).mono ?_ ?_
    · rintro _ _ ⟨d, e, -, rfl⟩
      have there : Voice.Accounts done (p.voice.extended d p.voice.sounding [e]) :=
        here.same rfl rfl rfl rfl
      exact there.enter_nothing _ rfl rfl rfl rfl
    · rintro _ _ ⟨d, rfl⟩ _
      exact here.same rfl rfl rfl rfl

end Moves

/-! ## §6. Sessions. -/

section Sessions

variable {γ : Type} [ChanceSource γ]

/-- Each part of a session whose resolution and lead-in are whole has both accounts right. -/
theorem Session.accounts {band : Band γ} (created : band.Created) {calls : List Call}
    (declared : ∀ call ∈ calls, call.Declared) {journal : Journal}
    (graceful : Graceful calls ⟨band, journal⟩) {part : Part} {v : Voice}
    (plays : (run calls ⟨band, journal⟩).state.voice? part = some v) (whole : v.config.Whole) :
    v.Accounts (succeeded part calls ⟨band, journal⟩) := by
  let Right (done : List Move) (v : Voice) : Prop := v.config.Whole → v.Accounts done
  have moves : ∀ m, .move part m ∈ calls → ∀ done (p : Player γ), Right done p.voice →
      m.act.Ensures p (fun _ q => Right (done ++ [m]) q.voice)
        fun f q => f.kind.isMusical = true → Right done q.voice := by
    intro m asked done p here
    by_cases whole : p.voice.config.Whole
    · refine (m.ensures_accounts (declared _ asked) (here whole)).mono ?_ ?_
      · exact fun _ _ entered _ => entered
      · exact fun _ _ kept musical _ => kept musical
    · -- The settings stay as they are, so there is nothing to show.
      refine (m.ensures_lasting Voice.Evolved.lasting p).mono ?_ ?_
      · exact fun _ _ evolved asked => absurd (evolved.config ▸ asked) whole
      · exact fun _ _ evolved _ asked => absurd (evolved.config ▸ asked) whole
  have start : Seated Right [] (band.voice? part) := by
    cases seat : band.voice? part with
    | none => rfl
    | some u =>
      obtain ⟨-, rfl⟩ := created.only seat
      exact created.new.1.accounts
  have right : Seated Right ([] ++ succeeded part calls ⟨band, journal⟩)
      ((run calls ⟨band, journal⟩).state.voice? part) :=
    run_part (fun _ v new => new.accounts) (fun done v right whole => (right whole).close) moves
      graceful start
  rw [plays] at right
  exact right whole

/-- The clock of a part with a whole resolution and a whole lead-in stands at the lead-in, a
measure for each chord of a pattern and for each measure of silence, and the beats of all
measures of tabs, counting the moves that went well; and its silence is the measures of
silence since the last music.  So the silence comes after the lead-in, and from one point of a
session to a later one the clock does not go back, and stays if no move goes well between
them. -/
theorem Session.clock_account {band : Band γ} (created : band.Created) {calls : List Call}
    (declared : ∀ call ∈ calls, call.Declared) {journal : Journal}
    (graceful : Graceful calls ⟨band, journal⟩) {part : Part} {v : Voice}
    (plays : (run calls ⟨band, journal⟩).state.voice? part = some v) (whole : v.config.Whole) :
    let moves := succeeded part calls ⟨band, journal⟩
    let beat := v.config.beatTicks
    let measure := v.beats * beat
    let clock := v.config.leadBeats * beat + measure * Move.measuresOf moves
      + Move.tabBeatsOf v.beats moves * beat
    let silence := measure * Move.silenceAtEnd moves
    v.clock = .whole clock ∧ v.skip = .whole silence ∧
      v.config.leadBeats * beat ≤ clock - silence ∧
      ∀ before after u, calls = before ++ after →
        (run before ⟨band, journal⟩).state.voice? part = some u →
        ∃ earlier : Int, u.clock = .whole earlier ∧ earlier ≤ clock ∧
          (succeeded part after (run before ⟨band, journal⟩) = [] →
            u.clock = v.clock ∧ u.skip = v.skip) := by
  intro moves beat measure clock silence
  have now := accounts created declared graceful plays whole
  refine ⟨now.clock, now.skip, Config.lead_le now.positive now.forward, ?_⟩
  intro before after u split playsBefore
  subst split
  rw [run_append] at plays
  -- Both accounts use the same settings, so only the moves in between tell them apart.
  have same : v.config = u.config := by
    obtain ⟨w, playsAfter, same⟩ := run_config after ⟨u, playsBefore, rfl⟩
    rw [plays] at playsAfter
    cases playsAfter
    exact same
  have earlier := accounts created (fun call here => declared call (List.mem_append_left _ here))
    (graceful_append.1 graceful).1 playsBefore (same ▸ whole)
  have sum : moves = _ := succeeded_append part before after ⟨band, journal⟩
  refine ⟨_, earlier.clock, ?_, ?_⟩
  · show _ ≤ v.config.clockAfter moves
    rw [sum, ← same]
    refine Config.clockAfter_le now.positive fun m here => now.forward m ?_
    show m ∈ moves
    rw [sum]
    exact List.mem_append_right _ here
  · intro nothing
    rw [nothing, List.append_nil] at sum
    constructor
    · rw [earlier.clock, now.clock, same]
      exact congrArg (fun moves => Quantity.whole (u.config.clockAfter moves)) sum.symm
    · rw [earlier.skip, now.skip, same]
      exact congrArg (fun moves => Quantity.whole (u.config.silenceAfter moves)) sum.symm

end Sessions

/-! ## §7. An account. -/

/-- A new band of one string, with a beat of lead-in. -/
def countedStart : Except Fault (Desk (Band Script)) :=
  Session.begin [] [("strings", .list [.whole 40]), ("lead", .whole 1)]

/-- Two chords, silence, a tab of two short measures, and silence; two calls are refused. -/
def countedCalls : List Call :=
  let stroke : Music := .pattern ⟨[⟨1, [⟨1, 80⟩]⟩]⟩
  [.move .master (.play stroke [.list [.whole 3], .list [.whole 5]]),
   .move .master (.rest (.whole 2)), .move .master (.tab [.text "|0--|-3-|"] (.whole 2)),
   .move .master (.play stroke []), .move .master (.play .silence []),
   .move .master (.tab [.text "|-----|"] .null)]

/-- Five measures of four beats, four beats of the tab, and one of the lead-in. -/
theorem counted_account :
    ∃ desk v, countedStart = .ok desk ∧ Session.Graceful countedCalls desk ∧
      (Session.run countedCalls desk).state.voice? .master = some v ∧
      v.clock = .whole 4800 ∧ v.skip = .whole 768 := by
  have seen : (countedStart.toOption.map fun desk =>
      let v := (Session.run countedCalls desk).state.master
      let moves := Session.succeeded .master countedCalls desk
      (decide (Session.Graceful countedCalls desk), v.config.ticks.integer?, v.config.lead,
        [v.beats, Move.measuresOf moves, Move.silenceAtEnd moves], Move.tabBeatsOf 4 moves)) =
      some (true, some 192, some (.whole 1), [4, 5, 1], 4) := by
    decide +kernel
  obtain ⟨desk, created, seen⟩ := exists_ok_of_seen seen
  simp only [Prod.mk.injEq, List.cons.injEq, and_true] at seen
  obtain ⟨graceful, ticks, lead, ⟨beats, measures, silence⟩, tabs⟩ := seen
  have graceful : Session.Graceful countedCalls desk := of_decide_eq_true graceful
  have declared : ∀ call ∈ countedCalls, call.Declared := by
    intro call here
    simp only [countedCalls, List.mem_cons, List.not_mem_nil, or_false] at here
    rcases here with rfl | rfl | rfl | rfl | rfl | rfl
    · exact True.intro
    · exact True.intro
    · exact .inr rfl
    · exact True.intro
    · exact True.intro
    · exact .inl rfl
  have plays : (Session.run countedCalls desk).state.voice? .master =
      some (Session.run countedCalls desk).state.master := rfl
  have whole : (Session.run countedCalls desk).state.master.config.Whole := by
    refine ⟨by rw [ticks]; rfl, fun count leads => ?_⟩
    rw [lead] at leads
    cases leads
    rfl
  obtain ⟨clock, skip, -⟩ :=
    Session.clock_account (Session.begin_created _ _ desk created) declared graceful plays whole
  simp only [Config.leadBeats, Config.beatTicks, ticks, lead, beats, measures, tabs, silence]
    at clock skip
  exact ⟨desk, _, created, graceful, plays, clock, skip⟩

end Plectrum
