/-
  Plectrum.Proofs.WholeClock
  ──────────────────────────
  **A whole resolution keeps the clock whole.**

  If the ticks of a beat and the lead-in are whole numbers, then the clock stands at a whole
  tick at every point of a session: a measure and a column of a tab of whole beats last a
  whole number of ticks, and nothing else moves the clock.  That does not depend on how the
  calls end.

  Main result:
    * `Session.clocked` — at every point of a session of declared calls, each voice whose
      resolution and lead-in are whole has a whole clock.
-/
import Plectrum.Proofs.Lasting
import Plectrum.Proofs.Overruns
import Plectrum.Proofs.Tempos

namespace Plectrum

/-! ## §1. Whole clocks. -/

/-- A voice whose clock stands at a whole tick after a silence of whole ticks, and whose measures
and beats last whole ticks. -/
structure Voice.Clocked (v : Voice) : Prop where
  resolution : ∃ t, v.config.ticks.integer? = some t ∧ 0 < t
  measure : ∃ m : Int, v.measure = .whole m
  clock : ∃ c : Int, v.clock = .whole c
  skip : ∃ k : Int, v.skip = .whole k

/-- A new voice with a whole resolution and lead-in is one. -/
theorem Voice.New.clocked {v : Voice} (h : v.New) (whole : v.config.Whole) : v.Clocked := by
  obtain ⟨options, accepted, -, fresh⟩ := h.fresh
  have inBounds := Config.ofOptions_inBounds options _ accepted
  obtain ⟨t, resolution⟩ := Option.isSome_iff_exists.1 whole.ticks
  obtain ⟨c, clock, -⟩ := leadIn_whole whole inBounds v.clock fresh.clock
  have measure := fresh.measure
  unfold Config.ticksPerMeasure at measure
  rw [Quantity.mul_of_integer rfl resolution] at measure
  exact ⟨⟨t, resolution, Quantity.pos_of_integer resolution inBounds.ticks⟩,
    ⟨_, (Except.ok.inj measure).symm⟩, ⟨c, clock⟩, 0, fresh.skip⟩

namespace Voice.Clocked

variable {γ : Type} [ChanceSource γ] {v w : Voice} {groups : List Group} {grid : Grid}

/-- What has grown without moving the clock. -/
theorem grown (h : v.Clocked) (grown : v.Grown w)
    (still : w.clock = v.clock ∧ w.skip = v.skip) : w.Clocked := by
  obtain ⟨resolution, measure, clock, skip⟩ := h
  rw [← grown.config] at resolution
  rw [← grown.measure] at measure
  rw [← still.1] at clock
  rw [← still.2] at skip
  exact ⟨resolution, measure, clock, skip⟩

/-- A measure lasts whole ticks. -/
theorem after_measure (h : v.Clocked) {q : Quantity} (whole : ∃ n : Int, q = .whole n) :
    Yields (q.add v.measure) fun sum => ∃ n : Int, sum = .whole n := by
  obtain ⟨m, measure⟩ := h.measure
  obtain ⟨n, same⟩ := whole
  rw [same, measure]
  exact .pure ⟨n + m, rfl⟩

theorem measured (h : v.Clocked) (played : Measured γ groups v w) : w.Clocked := by
  obtain ⟨nominals, x, clock, -, onsets, sum, rfl⟩ := played
  have struck := h.grown onsets.grown onsets.still
  exact ⟨struck.resolution, struck.measure, struck.after_measure struck.clock clock sum,
    struck.skip⟩

theorem measures (h : v.Clocked) {count : Nat} (played : Measures γ groups count v w) :
    w.Clocked := by
  induction played with
  | nil => exact h
  | cons first _ ih => exact ih (h.measured first)

theorem measuresUpTo (h : v.Clocked) {count : Nat} (played : MeasuresUpTo γ groups count v w) :
    w.Clocked := by
  obtain ⟨done, x, -, measures, _, nominals, -, -, onsets⟩ := played
  exact (h.measures measures).grown onsets.grown onsets.still

theorem tabbed (h : v.Clocked) (played : Tabbed γ grid v w)
    (steps : ∀ s ∈ grid.steps, s.IsStep) : w.Clocked := by
  obtain ⟨nominals, x, clock, ticks, onsets, rfl⟩ := played
  obtain ⟨c, start⟩ := h.clock
  rw [grid.columns_steps] at ticks
  obtain ⟨n, -, last, -⟩ := ticks.climbs steps start (le_refl (c : Rat))
  have struck := h.grown onsets.grown onsets.still
  exact ⟨struck.resolution, struck.measure, ⟨n, last⟩, 0, rfl⟩

theorem tabbedUpTo (h : v.Clocked) (played : TabbedUpTo γ grid v w) : w.Clocked := by
  obtain ⟨done, step, ticks, last, nominals, -, -, -, onsets⟩ := played
  exact h.grown onsets.grown onsets.still

/-- The count of silence may start anew. -/
theorem silenced (h : v.Clocked) : Voice.Clocked { v with skip := .whole 0 } :=
  ⟨h.resolution, h.measure, h.clock, 0, rfl⟩

end Voice.Clocked

/-! ## §2. Moves. -/

/-- A move of the declared kinds: the beats of a tab, where they are stated, are a whole number. -/
def Move.Declared : Move → Prop
  | .tab _ stated => stated = .null ∨ stated.int?.isSome = true
  | _ => True

/-- A sheet whose columns are steps of whole ticks. -/
def Sheet.InSteps : Sheet → Prop
  | .measures _ _ => True
  | .grid g => ∀ s ∈ g.steps, s.IsStep

section Moves

variable {γ : Type} {p : Player γ}

namespace Play

/-- An act that keeps the clock whole. -/
abbrev KeepsClock {α : Type} (act : Play γ α) : Prop :=
  Act.Keeps (fun p : Player γ => p.voice.Clocked) act

/-- What the dynamics do not matter to, every act on them keeps. -/
theorem keeps_onDynamics_free {I : Player γ → Prop}
    (free : ∀ (p : Player γ) d, I p → I { p with voice := { p.voice with dynamics := d } })
    {α : Type} (act : Act (Dynamics Datum) α) : Act.Keeps I (onDynamics act) := by
  have any : Act.Keeps (fun _ => True) act := fun d _ => .trivial act d
  exact any.onPart (fun _ _ => True.intro) fun p d here _ => free p d here

/-- Silence moves the clock on by a measure, even if its count of silence fails. -/
theorem keepsClock_playSilence : KeepsClock (playSilence : Play γ Unit) := by
  intro p here
  unfold playSilence
  rw [ensures_voice_bind, Act.ensures_lift_bind]
  refine ⟨fun clock sum => ?_, fun _ _ => here⟩
  have later := here.after_measure here.clock clock sum
  rw [ensures_changeVoice_bind, Act.ensures_lift_bind]
  refine ⟨fun skip sum => ?_, fun _ _ => ⟨here.resolution, here.measure, later, here.skip⟩⟩
  rw [ensures_changeVoice]
  exact ⟨here.resolution, here.measure, later, here.after_measure here.skip skip sum⟩

theorem keepsClock_note (tick pitch velocity : Datum) :
    KeepsClock (note tick pitch velocity : Play γ Unit) := by
  intro p here
  refine (ensures_note tick pitch velocity).mono ?_ ?_
  · rintro _ _ ⟨d, e, -, rfl⟩
    exact ⟨here.resolution, here.measure, here.clock, here.skip⟩
  · rintro _ _ ⟨d, rfl⟩
    exact ⟨here.resolution, here.measure, here.clock, here.skip⟩

variable [ChanceSource γ]

theorem keepsClock_silence (chords : List Datum) :
    KeepsClock (play .silence chords : Play γ Unit) := by
  unfold play
  refine .bind keeps_requireOpen fun _ => ?_
  dsimp only
  split
  · exact .bind (.throw _) fun _ => keepsClock_playSilence
  · exact keepsClock_playSilence

theorem keepsClock_rest (measures : Datum) : KeepsClock (rest measures : Play γ Unit) := by
  have many : ∀ count, KeepsClock (rests count : Play γ Unit) := by
    intro count
    induction count with
    | zero => exact .pure _
    | succ count ih => exact .bind (keepsClock_silence []) fun _ => ih
  unfold rest
  split
  · exact many _
  · exact .throw _

/-- A passage keeps the clock whole if what is read is in steps of whole ticks. -/
theorem ensures_passage_clocked (here : p.voice.Clocked) (c : Passage)
    (steps : Yields (c.read p.voice) Sheet.InSteps) :
    c.act.Ensures p (fun _ q => q.voice.Clocked) fun _ q => q.voice.Clocked := by
  cases isOpen : p.voice.finished with
  | true =>
    rw [ensures_passage_finished isOpen]
    exact here
  | false =>
    refine (ensures_passage isOpen c).mono ?_ ?_
    · rintro _ q ⟨sheet, read, played⟩
      cases sheet with
      | measures pattern parsed => exact here.silenced.measures played
      | grid g => exact here.tabbed played (steps _ read)
    · rintro f q (⟨-, rfl⟩ | ⟨sheet, read, -, partly⟩)
      · exact here
      · cases sheet with
        | measures pattern parsed =>
          obtain same | broken | played := partly
          · exact same ▸ here
          · exact here.silenced.measuresUpTo broken
          · exact here.silenced.measures played
        | grid g =>
          obtain broken | played := partly
          · exact here.tabbedUpTo broken
          · exact here.tabbed played (steps _ read)

end Play

/-- A move that touches nothing but the dynamics. -/
def Move.isExpression : Move → Bool
  | .cresc .. | .tempo .. | .rit .. => true
  | _ => false

variable [ChanceSource γ]

/-- What the dynamics do not matter to, crescendos and changes of tempo keep. -/
theorem Move.keeps_expression {I : Player γ → Prop}
    (free : ∀ (p : Player γ) d, I p → I { p with voice := { p.voice with dynamics := d } })
    {m : Move} (expression : m.isExpression = true) : Act.Keeps I (m.act : Play γ Unit) := by
  have dynamics : ∀ {α : Type} (act : Act (Dynamics Datum) α), Act.Keeps I (Play.onDynamics act) :=
    fun act => Play.keeps_onDynamics_free free act
  cases m with
  | cresc factor measures shape =>
    show Act.Keeps I (Play.cresc factor measures shape)
    unfold Play.cresc
    exact .bind Play.keeps_requireOpen fun _ => .bind (.lift _) fun _ => .bind Play.keeps_voice
      fun _ => .bind (.lift _) fun _ => .bind (.lift _) fun _ => .bind (dynamics _) fun _ => .pure _
  | tempo | rit =>
    exact Move.keeps_tempo (J := fun _ => True) (fun _ _ _ _ _ _ => True.intro)
      (fun _ _ => True.intro) (fun p d here _ => free p d here) rfl
  | _ => cases expression

/-- Declared moves keep a whole clock whole, in whatever way they end. -/
theorem Move.keepsClock (m : Move) (declared : m.Declared) :
    Play.KeepsClock (m.act : Play γ Unit) := by
  have clocked : ∀ (p : Player γ) d, p.voice.Clocked →
      Voice.Clocked { p.voice with dynamics := d } := fun _ _ here =>
    ⟨here.resolution, here.measure, here.clock, here.skip⟩
  cases m with
  | play music chords =>
    cases music with
    | silence => exact Play.keepsClock_silence chords
    | pattern pattern =>
      exact fun p here => Play.ensures_passage_clocked here (.pattern pattern chords)
        (.map fun _ _ => True.intro)
    | other kindName =>
      exact fun p here => Play.ensures_passage_clocked here (.other kindName chords) (.error _)
  | tab parts stated =>
    intro p here
    obtain ⟨t, resolution, positive⟩ := here.resolution
    exact Play.ensures_passage_clocked here (.tab parts stated)
      (.map (Play.readTab_steps resolution positive declared))
  | rest measures => exact Play.keepsClock_rest measures
  | cresc | tempo | rit => exact keeps_expression clocked rfl
  | note tick pitch velocity => exact Play.keepsClock_note tick pitch velocity

/-! ## §3. Sessions. -/

/-- A call of the declared kinds. -/
def Call.Declared : Call → Prop
  | .move _ m => m.Declared
  | _ => True

/-- At every point of a session of declared calls, whatever their outcomes, each voice with a
whole resolution and lead-in has a whole clock. -/
theorem Session.clocked {band : Band γ} (created : band.Created) {calls : List Call}
    (declared : ∀ call ∈ calls, call.Declared) (journal : Journal) :
    (run calls ⟨band, journal⟩).state.Throughout fun v => v.config.Whole → v.Clocked := by
  let Whole (v : Voice) : Prop := v.config.Whole → v.Clocked
  have moves : ∀ m : Move, m.Declared → ∀ p : Player γ, Whole p.voice →
      m.act.Ensures p (fun _ q => Whole q.voice) fun _ q => Whole q.voice := by
    intro m declared p here
    by_cases whole : p.voice.config.Whole
    · exact (m.keepsClock declared p (here whole)).mono (fun _ _ clocked _ => clocked)
        fun _ _ clocked _ => clocked
    · -- The settings stay as they are, so there is nothing to show.
      have other : ∀ q : Player γ, p.voice.Evolved q.voice → Whole q.voice :=
        fun q evolved asked => absurd (evolved.config ▸ asked) whole
      exact (m.ensures_lasting Voice.Evolved.lasting p).mono (fun _ q => other q)
        fun _ q => other q
  exact .run_kept (fun v new => new.clocked)
    (fun v clocked whole => ⟨(clocked whole).resolution, (clocked whole).measure,
      (clocked whole).clock, (clocked whole).skip⟩) moves (fun _ _ here => declared _ here)
    (created.throughout fun v new => new.clocked)

end Moves

end Plectrum
