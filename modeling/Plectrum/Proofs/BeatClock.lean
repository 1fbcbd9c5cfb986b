/-
  Plectrum.Proofs.BeatClock
  ─────────────────────────
  **The clock stands on a beat.**

  Measures, silence and tabs of whole beats last for whole beats, and so does the lead-in.  So
  between calls the clock stands at a whole number of beats, however the calls ended: a measure that
  breaks off does not move it.  Two clocks of one resolution differ by whole beats.

  Main results:
    * `Session.throughout_onBeat` — at every point of a session of declared calls, the clock of each
      voice with a whole resolution and lead-in stands on a beat;
    * `Voice.OnBeat.even` — at an even resolution, two clocks differ by an even number of ticks.
-/
import Plectrum.Proofs.ClockAccount

namespace Plectrum

/-! ## §1. Voices on a beat. -/

/-- A voice whose clock stands on a beat from the start on, and whose measures last their beats. -/
structure Voice.OnBeat (v : Voice) : Prop where
  resolution : v.config.ticks.integer? = some v.config.beatTicks
  positive : 0 < v.config.beatTicks
  measure : v.measure = .whole v.config.measureTicks
  clock : ∃ b : Int, 0 ≤ b ∧ v.clock = .whole (b * v.config.beatTicks)

/-- A grid whose columns last some beats together. -/
def Grid.InBeats (g : Grid) (t : Int) : Prop :=
  ∃ (b : Int) (ks : List Int), 0 ≤ b ∧ g.steps = ks.map .whole ∧ ks.sum = b * t

namespace Voice.OnBeat

variable {γ : Type} [ChanceSource γ] {v w : Voice} {groups : List Group} {count : Nat} {grid : Grid}

/-- Where the clock has moved on by some beats, it stands on a beat. -/
theorem later (h : v.OnBeat) (config : w.config = v.config) (measure : w.measure = v.measure)
    (clock : ∀ c, v.clock = .whole c →
      ∃ b : Int, 0 ≤ b ∧ w.clock = .whole (c + b * v.config.beatTicks)) : w.OnBeat := by
  obtain ⟨b, start, now⟩ := h.clock
  obtain ⟨b', forward, next⟩ := clock _ now
  refine ⟨?_, ?_, ?_, b + b', Int.add_nonneg start forward, ?_⟩
  · rw [config]
    exact h.resolution
  · rw [config]
    exact h.positive
  · rw [measure, config]
    exact h.measure
  · rw [next, config, Int.add_mul]

/-- What has not moved the clock. -/
theorem still (h : v.OnBeat) (config : w.config = v.config) (measure : w.measure = v.measure)
    (clock : w.clock = v.clock) : w.OnBeat := by
  refine h.later config measure fun c now => ⟨0, le_refl 0, ?_⟩
  rw [clock, now, Int.zero_mul, Int.add_zero]

theorem close (h : v.OnBeat) : v.close.OnBeat := h.still rfl rfl rfl

/-- Measures move the clock on by their beats. -/
theorem measures (h : v.OnBeat) (played : Measures γ groups count v w) : w.OnBeat := by
  refine h.later played.grown.config played.grown.measure fun c now => ?_
  refine ⟨v.config.signature.beats * count, by positivity, ?_⟩
  rw [(played.clock_eq now h.measure).1]
  unfold Config.measureTicks
  congr 1
  ring

theorem measuresUpTo (h : v.OnBeat) (played : MeasuresUpTo γ groups count v w) : w.OnBeat := by
  obtain ⟨done, x, -, measures, _, nominals, -, -, onsets⟩ := played
  exact (h.measures measures).still onsets.grown.config onsets.grown.measure onsets.still.1

theorem tabbed (h : v.OnBeat) (played : Tabbed γ grid v w)
    (inBeats : grid.InBeats v.config.beatTicks) : w.OnBeat := by
  obtain ⟨b, ks, forward, steps, total⟩ := inBeats
  refine h.later played.grown.config played.grown.measure fun c now => ⟨b, forward, ?_⟩
  obtain ⟨nominals, x, clock, ticks, onsets, rfl⟩ := played
  rw [grid.columns_steps, steps, now] at ticks
  exact ticks.last_eq.trans (congrArg (fun n => Quantity.whole (c + n)) total)

theorem tabbedUpTo (h : v.OnBeat) (played : TabbedUpTo γ grid v w) : w.OnBeat := by
  obtain ⟨done, step, ticks, last, nominals, -, -, -, onsets⟩ := played
  exact h.still onsets.grown.config onsets.grown.measure onsets.still.1

/-- A new voice with a whole resolution and lead-in is one. -/
theorem of_new (new : v.New) (whole : v.config.Whole) : v.OnBeat := by
  obtain ⟨options, accepted, -, fresh⟩ := new.fresh
  have inBounds := Config.ofOptions_inBounds options _ accepted
  refine ⟨whole.resolution, Quantity.pos_of_integer whole.resolution inBounds.ticks,
    (new.accounts whole).measure, v.config.leadBeats, ?_, leadIn_eq whole v.clock fresh.clock⟩
  unfold Config.leadBeats
  cases leads : v.config.lead with
  | none => exact le_refl 0
  | some beats =>
    obtain ⟨b, count⟩ := Option.isSome_iff_exists.1 (whole.lead beats leads)
    show 0 ≤ beats.integer?.getD 0
    rw [count]
    exact Quantity.nonneg_of_integer count (inBounds.lead beats leads)

/-- At an even resolution, two clocks differ by an even number of ticks. -/
theorem even (h : v.OnBeat) (h' : w.OnBeat) (config : w.config = v.config)
    (resolution : Even v.config.beatTicks) {c c' : Int} (clock : v.clock = .whole c)
    (clock' : w.clock = .whole c') : Even (c' - c) := by
  obtain ⟨b, -, here⟩ := h.clock
  obtain ⟨b', -, there⟩ := h'.clock
  rw [config] at there
  cases clock.symm.trans here
  cases clock'.symm.trans there
  exact (resolution.mul_left b').sub (resolution.mul_left b)

end Voice.OnBeat

/-! ## §2. Moves. -/

/-- A sheet whose columns, if it has any, last some beats together. -/
def Sheet.InBeats (t : Int) : Sheet → Prop
  | .measures _ _ => True
  | .grid g => g.InBeats t

section Moves

variable {γ : Type} [ChanceSource γ] {p : Player γ}

namespace Play

/-- An act that keeps the clock on a beat. -/
abbrev KeepsBeat {α : Type} (act : Play γ α) : Prop :=
  Act.Keeps (fun p : Player γ => p.voice.OnBeat) act

omit [ChanceSource γ] in
/-- Silence moves the clock on by a measure, even if its count of silence fails. -/
theorem keepsBeat_playSilence : KeepsBeat (playSilence : Play γ Unit) := by
  intro p here
  unfold playSilence
  rw [ensures_voice_bind, Act.ensures_lift_bind]
  refine ⟨fun clock sum => ?_, fun _ _ => here⟩
  -- The clock has moved on when the count of silence is added to.
  have later : Voice.OnBeat { p.voice with clock } := by
    refine here.later rfl rfl fun c now => ⟨p.voice.config.signature.beats, by positivity, ?_⟩
    rw [now, here.measure] at sum
    exact (Except.ok.inj sum).symm
  rw [ensures_changeVoice_bind, Act.ensures_lift_bind]
  refine ⟨fun skip sum => ?_, fun _ _ => later⟩
  rw [ensures_changeVoice]
  exact later.still rfl rfl rfl

theorem keepsBeat_silence (chords : List Datum) :
    KeepsBeat (play .silence chords : Play γ Unit) := by
  unfold play
  refine .bind keeps_requireOpen fun _ => ?_
  dsimp only
  split
  · exact .bind (.throw _) fun _ => keepsBeat_playSilence
  · exact keepsBeat_playSilence

theorem keepsBeat_rest (measures : Datum) : KeepsBeat (rest measures : Play γ Unit) := by
  have many : ∀ count, KeepsBeat (rests count : Play γ Unit) := by
    intro count
    induction count with
    | zero => exact .pure _
    | succ count ih => exact .bind (keepsBeat_silence []) fun _ => ih
  unfold rest
  split
  · exact many _
  · exact .throw _

/-- A passage keeps the clock on a beat if what is read lasts for whole beats. -/
theorem ensures_passage_onBeat (here : p.voice.OnBeat) (c : Passage)
    (inBeats : Yields (c.read p.voice) (Sheet.InBeats p.voice.config.beatTicks)) :
    c.act.Ensures p (fun _ q => q.voice.OnBeat) fun _ q => q.voice.OnBeat := by
  have silenced : Voice.OnBeat { p.voice with skip := .whole 0 } := here.still rfl rfl rfl
  cases isOpen : p.voice.finished with
  | true =>
    rw [ensures_passage_finished isOpen]
    exact here
  | false =>
    refine (ensures_passage isOpen c).mono ?_ ?_
    · rintro _ q ⟨sheet, read, played⟩
      cases sheet with
      | measures pattern parsed => exact silenced.measures played
      | grid g => exact here.tabbed played (inBeats _ read)
    · rintro f q (⟨-, rfl⟩ | ⟨sheet, read, -, partly⟩)
      · exact here
      · cases sheet with
        | measures pattern parsed =>
          obtain same | broken | played := partly
          · exact same ▸ here
          · exact silenced.measuresUpTo broken
          · exact silenced.measures played
        | grid g =>
          obtain broken | played := partly
          · exact here.tabbedUpTo broken
          · exact here.tabbed played (inBeats _ read)

end Play

/-- Declared moves keep the clock on a beat, in whatever way they end. -/
theorem Move.keepsBeat (m : Move) (declared : m.Declared) :
    Play.KeepsBeat (m.act : Play γ Unit) := by
  have loudened : ∀ (p : Player γ) d, p.voice.OnBeat →
      Voice.OnBeat { p.voice with dynamics := d } := fun _ _ here => here.still rfl rfl rfl
  cases m with
  | play music chords =>
    cases music with
    | silence => exact Play.keepsBeat_silence chords
    | pattern pattern =>
      exact fun p here => Play.ensures_passage_onBeat here (.pattern pattern chords)
        (.map fun _ _ => True.intro)
    | other kindName =>
      exact fun p here => Play.ensures_passage_onBeat here (.other kindName chords) (.error _)
  | tab parts stated =>
    intro p here
    refine Play.ensures_passage_onBeat here (.tab parts stated) (.map fun g read => ?_)
    obtain ⟨forward, ks, steps, total⟩ := Play.readTab_total here.resolution declared g read
    exact ⟨_, ks, forward, steps, total⟩
  | rest measures => exact Play.keepsBeat_rest measures
  | cresc | tempo | rit => exact keeps_expression loudened rfl
  | note tick pitch velocity =>
    intro p here
    refine (Play.ensures_note tick pitch velocity).mono ?_ ?_
    · rintro _ _ ⟨d, e, -, rfl⟩
      exact here.still rfl rfl rfl
    · rintro _ _ ⟨d, rfl⟩
      exact here.still rfl rfl rfl

/-! ## §3. Sessions. -/

/-- At every point of a session of declared calls, whatever their outcomes, the clock of each voice
with a whole resolution and lead-in stands on a beat. -/
theorem Session.throughout_onBeat {band : Band γ} (created : band.Created) {calls : List Call}
    (declared : ∀ call ∈ calls, call.Declared) (journal : Journal) :
    (run calls ⟨band, journal⟩).state.Throughout fun v => v.config.Whole → v.OnBeat := by
  let OnBeat (v : Voice) : Prop := v.config.Whole → v.OnBeat
  have moves : ∀ m : Move, m.Declared → ∀ p : Player γ, OnBeat p.voice →
      m.act.Ensures p (fun _ q => OnBeat q.voice) fun _ q => OnBeat q.voice := by
    intro m declared p here
    by_cases whole : p.voice.config.Whole
    · exact (m.keepsBeat declared p (here whole)).mono (fun _ _ onBeat _ => onBeat)
        fun _ _ onBeat _ => onBeat
    · -- The settings stay as they are, so there is nothing to show.
      have other : ∀ q : Player γ, p.voice.Evolved q.voice → OnBeat q.voice :=
        fun q evolved asked => absurd (evolved.config ▸ asked) whole
      exact (m.ensures_lasting Voice.Evolved.lasting p).mono (fun _ q => other q)
        fun _ q => other q
  exact .run_kept (fun _ new => .of_new new) (fun _ onBeat whole => (onBeat whole).close) moves
    (fun _ _ here => declared _ here) (created.throughout fun _ new => .of_new new)

end Moves

end Plectrum
