/-
  Plectrum.Proofs.Onsets
  ──────────────────────
  **Playing as a chain of onsets.**

  An onset is a written time that lands on a tick, with strikes at that tick.  The
  groups of a measure and the columns of a tab are chains of onsets, at times that
  the clock and the music settle.  So whatever one onset keeps, all playing keeps.
  Playing that fails leaves the beginning of such a chain, and its last onset may be
  broken off.
-/
import Mathlib.Data.List.Forall2
import Plectrum.Proofs.Strikes

namespace Plectrum

/-! ## §1. Draws and landings. -/

/-- Draws that are settled in advance; when none is left, nothing strays. -/
abbrev Script : Type := List Binary64

instance : ChanceSource Script where
  spread _ draws := (draws.headD .zero, draws.tail)

section Draws

variable (γ : Type) [ChanceSource γ]

/-- What a source of chance may draw. -/
def Drawn (bound : Quantity) (x : Binary64) : Prop :=
  ∃ source : γ, x = (ChanceSource.spread bound.nearestFloat source).1

/-- How far the velocities of an onset may stray: not at all without a spread. -/
def Strays (spread : Quantity) (x : Binary64) : Prop :=
  if spread.isZero then x = .zero else Drawn γ spread x

/-- Where a written time may stray to: nowhere else without a spread. -/
def ShiftsTo (spread nominal shifted : Quantity) : Prop :=
  if spread.isZero then shifted = nominal
  else ∃ x, Drawn γ spread x ∧ nominal.add (.float x) = .ok shifted

/-- The tick that a written time may land on in a voice. -/
def LandsOn (v : Voice) (nominal : Quantity) (tick : Int) : Prop :=
  ∃ shifted, ShiftsTo γ v.config.timeSpread nominal shifted ∧
    v.lastStrike.landing nominal shifted = .ok tick

end Draws

namespace Voice

/-- A voice after a strike. -/
def struckAt (v : Voice) (nominal : Quantity) (tick : Int) : Voice :=
  { v with lastStrike := ⟨nominal, tick⟩ }

theorem grown_struckAt (v : Voice) (nominal : Quantity) (tick : Int) :
    v.Grown (v.struckAt nominal tick) :=
  ⟨rfl, rfl, rfl, rfl, rfl, rfl, rfl, fun _ => rfl, #[], Array.append_empty.symm⟩

end Voice

/-- Where the next measure begins, and the silence before it, are no part of what was played. -/
theorem Voice.grown_rest (v : Voice) (clock skip : Quantity) :
    v.Grown { v with clock, skip } :=
  ⟨rfl, rfl, rfl, rfl, rfl, rfl, rfl, fun _ => rfl, #[], Array.append_empty.symm⟩

/-! ## §2. Onsets. -/

section Onsets

variable (γ : Type) [ChanceSource γ] (closes : Bool)

/-- One onset: a written time lands on a tick, the velocities stray, and strings are
struck. -/
inductive Onset (nominal : Quantity) (v : Voice) : Voice → Prop where
  | mk {tick : Int} {stray : Binary64} {es : List Event} {bank : Bank} (d : Loudness)
      (lands : LandsOn γ v nominal tick)
      (strays : Strays γ v.config.volumeSpread stray)
      (strikes : Strikes v.config v.tuning tick stray closes v.sounding es bank) :
    Onset nominal v ((v.struckAt nominal tick).extended d bank es)

/-- Onsets at written times, one after the other. -/
inductive Onsets : List Quantity → Voice → Voice → Prop where
  | nil (v : Voice) : Onsets [] v v
  | cons {nominal : Quantity} {nominals : List Quantity} {v w x : Voice}
      (first : Onset γ closes nominal v w) (rest : Onsets nominals w x) :
    Onsets (nominal :: nominals) v x

/-- An onset that breaks off: its time has been settled, and perhaps some of its strikes have
been played. -/
inductive BrokenOnset (nominal : Quantity) (v : Voice) : Voice → Prop where
  | landed {tick : Int} (lands : LandsOn γ v nominal tick) :
    BrokenOnset nominal v (v.struckAt nominal tick)
  | struck {tick : Int} {stray : Binary64} {es : List Event} {bank : Bank} (d : Loudness)
      (lands : LandsOn γ v nominal tick)
      (strays : Strays γ v.config.volumeSpread stray)
      (strikes : BrokenOff v.config v.tuning tick stray closes v.sounding es bank) :
    BrokenOnset nominal v ((v.struckAt nominal tick).extended d bank es)

/-- Onsets at written times, of which the last one may break off. -/
inductive OnsetsUpTo : List Quantity → Voice → Voice → Prop where
  | nil (v : Voice) : OnsetsUpTo [] v v
  | last {nominal : Quantity} {v w : Voice} (broken : BrokenOnset γ closes nominal v w) :
    OnsetsUpTo [nominal] v w
  | cons {nominal : Quantity} {nominals : List Quantity} {v w x : Voice}
      (first : Onset γ closes nominal v w) (rest : OnsetsUpTo nominals w x) :
    OnsetsUpTo (nominal :: nominals) v x

variable {γ closes} {nominal : Quantity} {nominals : List Quantity} {v w : Voice}

theorem Onset.grown (h : Onset γ closes nominal v w) : v.Grown w := by
  obtain ⟨d, -, -, strikes⟩ := h
  exact (v.grown_struckAt _ _).trans (Voice.grown_strikes _ d strikes)

theorem Onsets.grown (h : Onsets γ closes nominals v w) : v.Grown w := by
  induction h with
  | nil v => exact .refl v
  | cons first _ ih => exact first.grown.trans ih

theorem BrokenOnset.grown (h : BrokenOnset γ closes nominal v w) : v.Grown w := by
  cases h with
  | landed => exact v.grown_struckAt _ _
  | struck d _ _ strikes =>
    exact (v.grown_struckAt _ _).trans (Voice.grown_brokenOff _ d strikes)

theorem OnsetsUpTo.grown (h : OnsetsUpTo γ closes nominals v w) : v.Grown w := by
  induction h with
  | nil v => exact .refl v
  | last broken => exact broken.grown
  | cons first _ ih => exact first.grown.trans ih

/-- Onsets need not break off. -/
theorem Onsets.upTo (h : Onsets γ closes nominals v w) : OnsetsUpTo γ closes nominals v w := by
  induction h with
  | nil v => exact .nil v
  | cons first _ ih => exact .cons first ih

/-- An onset moves neither the clock nor the count of silence. -/
theorem Onset.still (h : Onset γ closes nominal v w) : w.clock = v.clock ∧ w.skip = v.skip := by
  cases h
  exact ⟨rfl, rfl⟩

theorem Onsets.still (h : Onsets γ closes nominals v w) : w.clock = v.clock ∧ w.skip = v.skip := by
  induction h with
  | nil => exact ⟨rfl, rfl⟩
  | cons first _ ih => rwa [first.still.1, first.still.2] at ih

theorem BrokenOnset.still (h : BrokenOnset γ closes nominal v w) :
    w.clock = v.clock ∧ w.skip = v.skip := by
  cases h <;> exact ⟨rfl, rfl⟩

theorem OnsetsUpTo.still (h : OnsetsUpTo γ closes nominals v w) :
    w.clock = v.clock ∧ w.skip = v.skip := by
  induction h with
  | nil => exact ⟨rfl, rfl⟩
  | last broken => exact broken.still
  | cons first _ ih => rwa [first.still.1, first.still.2] at ih

end Onsets

namespace Play

variable {γ : Type} [ChanceSource γ] {p : Player γ}

/-! ## §3. Draws of a player. -/

/-- How an act fails that leaves the voice alone: as a number does. -/
def Spares (p : Player γ) (f : Fault) (q : Player γ) : Prop := f.Technical ∧ q.voice = p.voice

theorem ensures_draw (bound : Quantity) :
    (draw bound).Ensures p (fun x q => Drawn γ bound x ∧ q.voice = p.voice) (Spares p) := by
  refine ⟨fun journal => ?_⟩
  unfold draw
  rw [Act.start_ofStart]
  cases p.chance with
  | none => exact ⟨rfl, rfl⟩
  | some source => exact ⟨⟨source, rfl⟩, rfl⟩

theorem ensures_jitter :
    jitter.Ensures p
      (fun x q => Strays γ p.voice.config.volumeSpread x ∧ q.voice = p.voice) (Spares p) := by
  unfold jitter Strays
  rw [ensures_voice_bind]
  dsimp only
  by_cases steady : p.voice.config.volumeSpread.isZero = true
  · simp only [if_pos steady]
    rw [Act.ensures_pure]
    exact ⟨rfl, rfl⟩
  · simp only [if_neg steady]
    exact ensures_draw _

theorem ensures_shift (nominal : Quantity) :
    (shift nominal).Ensures p
      (fun shifted q => ShiftsTo γ p.voice.config.timeSpread nominal shifted ∧ q.voice = p.voice)
      (Spares p) := by
  unfold shift ShiftsTo
  rw [ensures_voice_bind]
  dsimp only
  by_cases steady : p.voice.config.timeSpread.isZero = true
  · simp only [if_pos steady]
    rw [Act.ensures_pure]
    exact ⟨rfl, rfl⟩
  · simp only [if_neg steady]
    refine (ensures_draw _).bind ?_
    rintro x q ⟨drawn, same⟩
    rw [Act.ensures_lift]
    constructor
    · intro shifted sum
      exact ⟨⟨x, drawn, sum⟩, same⟩
    · intro f failed
      exact ⟨Quantity.technical_add _ _ f failed, same⟩

/-- The time of a strike is settled, and remembered. -/
theorem ensures_humanize (nominal : Quantity) :
    (humanize nominal).Ensures p
      (fun tick q => LandsOn γ p.voice nominal tick ∧ q.voice = p.voice.struckAt nominal tick)
      (Spares p) := by
  unfold humanize
  refine (ensures_shift nominal).bind ?_
  rintro shifted q ⟨shifts, same⟩
  rw [ensures_voice_bind, Act.ensures_lift_bind, same]
  constructor
  · intro tick lands
    rw [ensures_changeVoice_bind, Act.ensures_pure, same]
    exact ⟨⟨shifted, shifts, lands⟩, rfl⟩
  · intro f failed
    exact ⟨LastStrike.technical_landing _ _ _ f failed, same⟩

/-- Strikes at the tick that has been settled make an onset, or one that breaks off. -/
theorem Plays.onset {act : Play γ Unit} {tick : Int} {stray : Binary64} {closes : Bool}
    {nominal : Quantity} {q : Player γ} (lands : LandsOn γ p.voice nominal tick)
    (strays : Strays γ p.voice.config.volumeSpread stray)
    (settled : q.voice = p.voice.struckAt nominal tick) (h : Plays act q tick stray closes) :
    act.Ensures q (fun _ r => Onset γ closes nominal p.voice r.voice)
      (fun f r => f.Technical ∧ BrokenOnset γ closes nominal p.voice r.voice) := by
  refine h.mono ?_ ?_
  · rintro _ _ ⟨d, es, bank, strikes, rfl⟩
    show Onset γ closes nominal p.voice (q.voice.extended d bank es)
    rw [settled] at strikes ⊢
    exact .mk d lands strays strikes
  · rintro f _ ⟨technical, d, es, bank, strikes, rfl⟩
    refine ⟨technical, ?_⟩
    show BrokenOnset γ closes nominal p.voice (q.voice.extended d bank es)
    rw [settled] at strikes ⊢
    exact .struck d lands strays strikes

/-! ## §4. Measures of a pattern. -/

end Play

section Measures

variable (γ : Type) [ChanceSource γ]

/-- One measure of groups: an onset for each group at the time of its offset, and the
clock goes on by the length of a measure. -/
def Measured (groups : List Group) (v w : Voice) : Prop :=
  ∃ nominals x clock,
    List.Forall₂ (fun g nominal => Play.offsetTick v g.offset = .ok nominal) groups nominals ∧
    Onsets γ true nominals v x ∧ x.clock.add x.measure = .ok clock ∧ w = { x with clock }

/-- Measures of one pattern, one after the other. -/
inductive Measures (groups : List Group) : Nat → Voice → Voice → Prop where
  | nil (v : Voice) : Measures groups 0 v v
  | cons {count : Nat} {v w x : Voice} (first : Measured γ groups v w)
      (rest : Measures groups count w x) : Measures groups (count + 1) v x

/-- A measure that breaks off: onsets for some of its first groups, of which the last one may
break off. -/
def MeasuredUpTo (groups : List Group) (v w : Voice) : Prop :=
  ∃ done nominals, done <+: groups ∧
    List.Forall₂ (fun g nominal => Play.offsetTick v g.offset = .ok nominal) done nominals ∧
    OnsetsUpTo γ true nominals v w

variable {γ} {groups : List Group} {v w : Voice}

theorem MeasuredUpTo.grown (h : MeasuredUpTo γ groups v w) : v.Grown w := by
  obtain ⟨done, nominals, -, -, onsets⟩ := h
  exact onsets.grown

theorem Measured.grown (h : Measured γ groups v w) : v.Grown w := by
  obtain ⟨nominals, x, clock, -, onsets, -, rfl⟩ := h
  exact onsets.grown.trans (Voice.grown_rest _ _ _)

theorem Measures.grown {count : Nat} (h : Measures γ groups count v w) : v.Grown w := by
  induction h with
  | nil v => exact .refl v
  | cons first _ ih => exact first.grown.trans ih

variable (γ) in
/-- Measures of one pattern, fewer than `count`, and then one that breaks off. -/
def MeasuresUpTo (groups : List Group) (count : Nat) (v w : Voice) : Prop :=
  ∃ done x, done < count ∧ Measures γ groups done v x ∧ MeasuredUpTo γ groups x w

theorem MeasuresUpTo.grown {count : Nat} (h : MeasuresUpTo γ groups count v w) : v.Grown w := by
  obtain ⟨done, x, -, measures, broken⟩ := h
  exact measures.grown.trans broken.grown

end Measures

namespace Play

variable {γ : Type} [ChanceSource γ] {p : Player γ}

/-- A group is an onset at the time of its offset.  It fails before that, or breaks off. -/
theorem ensures_group (isOpen : p.voice.finished = false) (frets : List (Option Int)) (g : Group) :
    (group frets g).Ensures p
      (fun _ q => ∃ nominal, offsetTick p.voice g.offset = .ok nominal ∧
        Onset γ true nominal p.voice q.voice)
      (fun f q => f.Technical ∧ (q.voice = p.voice ∨ ∃ nominal,
        offsetTick p.voice g.offset = .ok nominal ∧
        BrokenOnset γ true nominal p.voice q.voice)) := by
  unfold group
  rw [ensures_voice_bind, Act.ensures_lift_bind]
  refine ⟨?_, fun f failed => ⟨technical_offsetTick _ _ f failed, .inl rfl⟩⟩
  intro nominal offset
  refine ((ensures_humanize nominal).mono (fun _ _ h => h) ?_).bind ?_
  · rintro f q ⟨technical, same⟩
    exact ⟨technical, .inl same⟩
  rintro tick q ⟨lands, settled⟩
  refine (ensures_jitter.mono (fun _ _ h => h) ?_).bind ?_
  · rintro f r ⟨technical, same⟩
    refine ⟨technical, .inr ⟨nominal, offset, ?_⟩⟩
    rw [same, settled]
    exact .landed lands
  rintro stray r ⟨strays, same⟩
  have settled' : r.voice = p.voice.struckAt nominal tick := same.trans settled
  have isOpen' : r.voice.finished = false := by
    rw [settled']
    exact isOpen
  rw [settled] at strays
  refine (Plays.onset lands strays settled' (plays_strokes isOpen' frets g.strokes)).mono ?_ ?_
  · intro _ t onset
    exact ⟨nominal, offset, onset⟩
  · rintro f t ⟨technical, broken⟩
    exact ⟨technical, .inr ⟨nominal, offset, broken⟩⟩

/-- The times of offsets depend on the clock and the settings alone. -/
theorem offsetTicks_congr {v w : Voice} (clock : w.clock = v.clock) (config : w.config = v.config)
    {groups : List Group} {nominals : List Quantity}
    (times : List.Forall₂ (fun g nominal => offsetTick w g.offset = .ok nominal) groups nominals) :
    List.Forall₂ (fun g nominal => offsetTick v g.offset = .ok nominal) groups nominals := by
  refine times.imp fun g nominal here => ?_
  unfold offsetTick at here ⊢
  rwa [clock, config] at here

theorem ensures_groups (isOpen : p.voice.finished = false) (frets : List (Option Int))
    (groups : List Group) :
    (groups.forM (group frets)).Ensures p
      (fun _ q => ∃ nominals,
        List.Forall₂ (fun g nominal => offsetTick p.voice g.offset = .ok nominal) groups nominals ∧
        Onsets γ true nominals p.voice q.voice)
      (fun f q => f.Technical ∧ MeasuredUpTo γ groups p.voice q.voice) := by
  induction groups generalizing p with
  | nil => exact (Act.ensures_pure _).2 ⟨[], .nil, .nil _⟩
  | cons g groups ih =>
    refine Act.Ensures.bind ((ensures_group isOpen frets g).mono (fun _ _ h => h) ?_) ?_
    · rintro f q ⟨technical, same | ⟨nominal, offset, broken⟩⟩
      · refine ⟨technical, [], [], ⟨g :: groups, rfl⟩, .nil, ?_⟩
        rw [same]
        exact .nil _
      · exact ⟨technical, [g], [nominal], ⟨groups, rfl⟩, .cons offset .nil, .last broken⟩
    rintro _ q ⟨nominal, offset, onset⟩
    have isOpen' := onset.grown.isOpen isOpen
    refine (ih isOpen').mono ?_ ?_
    · rintro _ r ⟨nominals, times, onsets⟩
      have times := offsetTicks_congr onset.still.1 onset.grown.config times
      exact ⟨nominal :: nominals, .cons offset times, .cons onset onsets⟩
    · rintro f r ⟨technical, done, nominals, ⟨rest, rfl⟩, times, onsets⟩
      have times := offsetTicks_congr onset.still.1 onset.grown.config times
      exact ⟨technical, g :: done, nominal :: nominals, ⟨rest, rfl⟩, .cons offset times,
        .cons onset onsets⟩

theorem ensures_playMeasure (isOpen : p.voice.finished = false) (pattern : Pattern)
    (frets : List (Option Int)) :
    (playMeasure pattern frets).Ensures p
      (fun _ q => Measured γ pattern.groups p.voice q.voice)
      (fun f q => f.Technical ∧ MeasuredUpTo γ pattern.groups p.voice q.voice) := by
  unfold playMeasure
  refine (ensures_groups isOpen frets pattern.groups).bind ?_
  rintro _ q ⟨nominals, offsets, onsets⟩
  rw [ensures_voice_bind, Act.ensures_lift_bind]
  constructor
  · intro clock sum
    rw [ensures_changeVoice]
    exact ⟨nominals, q.voice, clock, offsets, onsets, sum, rfl⟩
  · intro f failed
    exact ⟨Quantity.technical_add _ _ f failed, _, nominals, ⟨[], List.append_nil _⟩, offsets,
      onsets.upTo⟩

theorem ensures_measures (isOpen : p.voice.finished = false) (pattern : Pattern)
    (parsed : List (List (Option Int))) :
    (parsed.forM (playMeasure pattern)).Ensures p
      (fun _ q => Measures γ pattern.groups parsed.length p.voice q.voice)
      (fun f q => f.Technical ∧
        MeasuresUpTo γ pattern.groups parsed.length p.voice q.voice) := by
  induction parsed generalizing p with
  | nil => exact (Act.ensures_pure _).2 (.nil _)
  | cons frets parsed ih =>
    refine Act.Ensures.bind ((ensures_playMeasure isOpen pattern frets).mono (fun _ _ h => h) ?_) ?_
    · rintro f q ⟨technical, broken⟩
      exact ⟨technical, 0, p.voice, Nat.succ_pos _, .nil _, broken⟩
    intro _ q measured
    refine (ih (measured.grown.isOpen isOpen)).mono ?_ ?_
    · intro _ r measures
      exact .cons measured measures
    · rintro f r ⟨technical, done, x, fewer, measures, broken⟩
      exact ⟨technical, done + 1, x, Nat.succ_lt_succ fewer, .cons measured measures, broken⟩

omit [ChanceSource γ] in
/-- A warning, if there is one, comes before anything is played. -/
theorem ensures_warnBeyondMeasure (pattern : Pattern) :
    (warnBeyondMeasure pattern).Ensures p (fun _ q => q = p) (fun f q => f.Technical ∧ q = p) := by
  unfold warnBeyondMeasure
  rw [ensures_voice_bind]
  dsimp only
  split
  · rw [Act.ensures_lift_bind]
    constructor
    · intro reached _
      exact Act.ensures_report rfl ⟨rfl, rfl⟩
    · intro f failed
      exact ⟨Quantity.technical_toFloat _ f failed, rfl⟩
  · exact (Act.ensures_pure _).2 rfl

/-- Chords that have been read are played as measures.  That fails before anything has
changed, or breaks off, or fails to be reported when all has been played. -/
theorem ensures_playMeasures (isOpen : p.voice.finished = false) (pattern : Pattern)
    (parsed : List (List (Option Int))) :
    let v := { p.voice with skip := .whole 0 }
    (playMeasures pattern parsed).Ensures p
      (fun _ q => Measures γ pattern.groups parsed.length v q.voice)
      (fun f q => f.Technical ∧ (q.voice = p.voice ∨
        MeasuresUpTo γ pattern.groups parsed.length v q.voice ∨
        Measures γ pattern.groups parsed.length v q.voice)) := by
  intro v
  unfold playMeasures
  refine ((ensures_warnBeyondMeasure pattern).mono (fun _ _ h => h) ?_).bind ?_
  · rintro f _ ⟨technical, rfl⟩
    exact ⟨technical, .inl rfl⟩
  rintro _ p rfl
  rw [ensures_changeVoice_bind]
  have isOpen' : v.finished = false := isOpen
  refine ((ensures_measures (p := { p with voice := v }) isOpen' pattern parsed).mono
    (fun _ _ h => h) ?_).bind ?_
  · rintro f q ⟨technical, broken⟩
    exact ⟨technical, .inr (.inl broken)⟩
  intro _ q measures
  rw [ensures_voice_bind]
  exact Act.ensures_report measures ⟨rfl, .inr (.inr measures)⟩

/-! ## §5. Columns of a tab. -/

end Play

/-- The ticks of columns with some lengths, from a tick on, and the tick after them. -/
inductive ColumnTicks : Quantity → List Quantity → List Quantity → Quantity → Prop where
  | nil (tick : Quantity) : ColumnTicks tick [] [] tick
  | cons {tick step next last : Quantity} {steps nominals : List Quantity}
      (sum : tick.add step = .ok next) (rest : ColumnTicks next steps nominals last) :
    ColumnTicks tick (step :: steps) (tick :: nominals) last

/-- A grid on a voice: an onset for each column, and the clock goes on by their lengths. -/
def Tabbed (γ : Type) [ChanceSource γ] (grid : Grid) (v w : Voice) : Prop :=
  ∃ nominals x clock, ColumnTicks v.clock (grid.columns.map Prod.fst) nominals clock ∧
    Onsets γ v.tabStyle.closesSounding nominals v x ∧ w = { x with clock, skip := .whole 0 }

/-- A grid that breaks off: onsets for some of its first columns, and perhaps for one more,
which may break off. -/
def TabbedUpTo (γ : Type) [ChanceSource γ] (grid : Grid) (v w : Voice) : Prop :=
  ∃ done step ticks last nominals, done ++ [step] <+: grid.columns.map Prod.fst ∧
    ColumnTicks v.clock done ticks last ∧ nominals <+: ticks ++ [last] ∧
    OnsetsUpTo γ v.tabStyle.closesSounding nominals v w

theorem Tabbed.grown {γ : Type} [ChanceSource γ] {grid : Grid} {v w : Voice}
    (h : Tabbed γ grid v w) : v.Grown w := by
  obtain ⟨nominals, x, clock, -, onsets, rfl⟩ := h
  exact onsets.grown.trans (x.grown_rest _ _)

theorem TabbedUpTo.grown {γ : Type} [ChanceSource γ] {grid : Grid} {v w : Voice}
    (h : TabbedUpTo γ grid v w) : v.Grown w := by
  obtain ⟨done, step, ticks, last, nominals, -, -, -, onsets⟩ := h
  exact onsets.grown

namespace Play

variable {γ : Type} [ChanceSource γ] {p : Player γ}

/-- What one column plays. -/
def column (tick : Quantity) (cells : Text) : Play γ Unit := do
  let stray ← jitter
  let played ← humanize tick
  Play.cells played stray 0 cells

theorem columns_cons (tick step : Quantity) (cells : Text) (rest : List (Quantity × Text)) :
    (columns tick ((step, cells) :: rest) : Play γ Quantity) =
      column tick cells >>= fun _ => liftM (tick.add step) >>= fun next => columns next rest := by
  unfold column
  rw [columns, bind_assoc]
  simp only [bind_assoc]

/-- A column is an onset.  It fails before that, or breaks off. -/
theorem ensures_column (isOpen : p.voice.finished = false) (tick : Quantity) (cells : Text) :
    (column tick cells).Ensures p
      (fun _ q => Onset γ p.voice.tabStyle.closesSounding tick p.voice q.voice)
      (fun f q => f.Technical ∧ (q.voice = p.voice ∨
        BrokenOnset γ p.voice.tabStyle.closesSounding tick p.voice q.voice)) := by
  unfold column
  refine (ensures_jitter.mono (fun _ _ h => h) ?_).bind ?_
  · rintro f q ⟨technical, same⟩
    exact ⟨technical, .inl same⟩
  rintro stray q ⟨strays, same⟩
  refine ((ensures_humanize tick).mono (fun _ _ h => h) ?_).bind ?_
  · rintro f r ⟨technical, same'⟩
    exact ⟨technical, .inl (same'.trans same)⟩
  rintro played r ⟨lands, settled⟩
  rw [same] at lands settled
  have isOpen' : r.voice.finished = false := by
    rw [settled]
    exact isOpen
  have style : r.voice.tabStyle = p.voice.tabStyle := by
    rw [settled]
    rfl
  have struck : Plays (Play.cells played stray 0 cells) r played stray
      r.voice.tabStyle.closesSounding := plays_cells isOpen' 0 cells
  rw [style] at struck
  refine (Plays.onset lands strays settled struck).mono (fun _ _ h => h) ?_
  rintro f t ⟨technical, broken⟩
  exact ⟨technical, .inr broken⟩

theorem ensures_columns (isOpen : p.voice.finished = false) (tick : Quantity)
    (columns : List (Quantity × Text)) :
    (Play.columns tick columns).Ensures p
      (fun last q => ∃ nominals, ColumnTicks tick (columns.map Prod.fst) nominals last ∧
        Onsets γ p.voice.tabStyle.closesSounding nominals p.voice q.voice)
      (fun f q => f.Technical ∧ ∃ done step ticks last nominals,
        done ++ [step] <+: columns.map Prod.fst ∧ ColumnTicks tick done ticks last ∧
        nominals <+: ticks ++ [last] ∧
        OnsetsUpTo γ p.voice.tabStyle.closesSounding nominals p.voice q.voice) := by
  induction columns generalizing p tick with
  | nil => exact (Act.ensures_pure _).2 ⟨[], .nil _, .nil _⟩
  | cons first columns ih =>
    obtain ⟨step, cells⟩ := first
    rw [columns_cons]
    refine Act.Ensures.bind ((ensures_column isOpen tick cells).mono (fun _ _ h => h) ?_) ?_
    · rintro f q ⟨technical, same | broken⟩
      · refine ⟨technical, [], step, [], tick, [], ⟨_, rfl⟩, .nil _, ⟨[tick], rfl⟩, ?_⟩
        rw [same]
        exact .nil _
      · exact ⟨technical, [], step, [], tick, [tick], ⟨_, rfl⟩, .nil _, ⟨[], rfl⟩, .last broken⟩
    intro _ q onset
    rw [Act.ensures_lift_bind]
    constructor
    · intro next sum
      have style : q.voice.tabStyle = p.voice.tabStyle := Voice.tabStyle_congr onset.grown.config
      refine (ih (onset.grown.isOpen isOpen) next).mono ?_ ?_
      · rintro last r ⟨nominals, ticks, onsets⟩
        rw [style] at onsets
        exact ⟨tick :: nominals, .cons sum ticks, .cons onset onsets⟩
      · rintro f r ⟨technical, done, step', ticks, last, nominals, ⟨rest, all⟩, settled,
          ⟨rest', times⟩, onsets⟩
        rw [style] at onsets
        refine ⟨technical, step :: done, step', tick :: ticks, last, tick :: nominals, ⟨rest, ?_⟩,
          .cons sum settled, ⟨rest', ?_⟩, .cons onset onsets⟩
        · rw [List.map_cons, ← all]
          rfl
        · rw [List.cons_append, List.cons_append, times]
    · intro f failed
      exact ⟨Quantity.technical_add _ _ f failed, [], step, [], tick, [tick], ⟨_, rfl⟩, .nil _,
        ⟨[], rfl⟩, .cons onset (.nil _)⟩

/-- A grid that has been read is played.  That breaks off, or fails to be reported when all
has been played. -/
theorem ensures_playGrid (isOpen : p.voice.finished = false) (grid : Grid) :
    (playGrid grid).Ensures p (fun _ q => Tabbed γ grid p.voice q.voice)
      (fun f q => f.Technical ∧
        (TabbedUpTo γ grid p.voice q.voice ∨ Tabbed γ grid p.voice q.voice)) := by
  unfold playGrid
  rw [ensures_voice_bind]
  refine ((ensures_columns isOpen _ _).mono (fun _ _ h => h) ?_).bind ?_
  · rintro f q ⟨technical, broken⟩
    exact ⟨technical, .inl broken⟩
  rintro clock q ⟨nominals, ticks, onsets⟩
  rw [ensures_changeVoice_bind, ensures_voice_bind]
  have tabbed : Tabbed γ grid p.voice { q.voice with clock, skip := .whole 0 } :=
    ⟨nominals, q.voice, clock, ticks, onsets, rfl⟩
  exact Act.ensures_report tabbed ⟨rfl, .inr tabbed⟩

end Play
end Plectrum
