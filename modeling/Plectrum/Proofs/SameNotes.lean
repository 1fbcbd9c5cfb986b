/-
  Plectrum.Proofs.SameNotes
  ─────────────────────────
  **Expression never changes which notes are played.**

  Seed, spreads and volume, and the ramps of the volume, shape how music sounds.  Two bands
  that differ in nothing else, and that are asked for the same music, record the same notes:
  event for event the same kind, channel and pitch.  Only ticks and the velocities of
  starting notes may differ.  Their clocks, their silence and what their strings sound are
  the same after each call.  Two things have to be seen: no draw within the spread turns a
  strike into a silence, and no volume drops one.

  Main results:
    * `Move.unison` — each move keeps two voices that differ in expression at the same notes;
    * `Session.same_notes` — so do two runs of the same music, with ramps anywhere in either.
-/
import Mathlib.Data.List.Find
import Plectrum.Proofs.Bands
import Plectrum.Proofs.Bare
import Plectrum.Proofs.NoteBalance
import Plectrum.Proofs.Parts
import Plectrum.Proofs.Playable
import Plectrum.Proofs.SideBySide

namespace Plectrum

/-! ## §1. Twins. -/

/-- An event without its tick, and without the velocity if it starts a note. -/
def Event.bare (e : Event) : Event :=
  ⟨.null, match e.what with
    | .noteOn channel pitch _ => .noteOn channel pitch .null
    | what => what⟩

/-- Two voices that differ in expression at most, and have recorded the same notes. -/
structure Voice.Twins (v w : Voice) : Prop where
  config : v.config.bare = w.config.bare
  inBounds : v.config.InBounds
  inBounds' : w.config.InBounds
  tuning : v.tuning = w.tuning
  measure : v.measure = w.measure
  sounding : v.sounding = w.sounding
  clock : v.clock = w.clock
  skip : v.skip = w.skip
  auxiliary : v.auxiliary = w.auxiliary
  finished : v.finished = w.finished
  events : v.events.map Event.bare = w.events.map Event.bare

namespace Voice.Twins

variable {v w : Voice}

theorem symm (h : v.Twins w) : w.Twins v :=
  ⟨h.config.symm, h.inBounds', h.inBounds, h.tuning.symm, h.measure.symm, h.sounding.symm,
    h.clock.symm, h.skip.symm, h.auxiliary.symm, h.finished.symm, h.events.symm⟩

/-- What expression leaves alone is the same in both. -/
theorem setting {α : Type} (h : v.Twins w) (get : Config → α)
    (plain : ∀ c : Config, get c.bare = get c) : get v.config = get w.config := by
  rw [← plain, h.config, plain]

theorem channel (h : v.Twins w) : v.channel = w.channel :=
  congrArg Datum.number (h.setting Config.channel fun _ => rfl)

theorem ticks (h : v.Twins w) : v.config.ticks = w.config.ticks :=
  h.setting Config.ticks fun _ => rfl

theorem beats (h : v.Twins w) : v.beats = w.beats :=
  h.setting (fun c => c.signature.beats) fun _ => rfl

theorem tabStyle (h : v.Twins w) : v.tabStyle = w.tabStyle :=
  h.setting (fun c => TabStyle.ofPercussion c.isPercussion) fun _ => rfl

theorem roots (h : v.Twins w) : v.roots = w.roots := congrArg Tuning.roots h.tuning

theorem stringCount (h : v.Twins w) : v.stringCount = w.stringCount :=
  congrArg List.length h.roots

theorem close (h : v.Twins w) : v.close.Twins w.close := by
  refine { h with sounding := ?_, finished := rfl, events := rfl }
  show v.sounding.map _ = w.sounding.map _
  rw [h.sounding]

end Voice.Twins

/-! ## §2. Strikes in unison. -/

/-- What is drawn for the velocities of these settings is within their spread. -/
def Config.FairDraws (γ : Type) [ChanceSource γ] (c : Config) : Prop :=
  ∀ x, Drawn γ c.volumeSpread x → Within c.volumeSpread x

namespace Play

variable {γ γ' α β : Type} {c c' : Config}

/-- Two players whose voices are twins with these settings. -/
structure Beside (c c' : Config) (p : Player γ) (p' : Player γ') : Prop where
  config : p.voice.config = c
  config' : p'.voice.config = c'
  twins : p.voice.Twins p'.voice

/-- Two acts that keep two voices twins, and have values related by `V`, if both go well. -/
abbrev InUnison (c c' : Config) (V : α → β → Prop) (act : Play γ α) (act' : Play γ' β) : Prop :=
  Act.InStep (Beside c c') V act act'

/-- Two acts that keep two voices twins, if both go well. -/
abbrev Unison (c c' : Config) (act : Play γ α) (act' : Play γ' β) : Prop :=
  Act.Abreast (Beside c c') act act'

/-- What comes after a look at the voices may build on them being twins. -/
theorem unison_voice_bind {V : α → β → Prop} {next : Voice → Play γ α} {next' : Voice → Play γ' β}
    (h : ∀ v w, v.config = c → w.config = c' → v.Twins w →
      InUnison c c' V (next v) (next' w)) :
    InUnison c c' V (voice >>= next) (voice >>= next') :=
  fun desk desk' beside =>
    h _ _ beside.config beside.config' beside.twins desk desk' beside

theorem unison_changeVoice {f g : Voice → Voice} (config : ∀ v, (f v).config = v.config)
    (config' : ∀ w, (g w).config = w.config)
    (twins : ∀ v w : Voice, v.Twins w → (f v).Twins (g w)) :
    Unison c c' (changeVoice f : Play γ Unit) (changeVoice g : Play γ' Unit) :=
  .update fun _ _ h => ⟨(config _).trans h.config, (config' _).trans h.config', twins _ _ h.twins⟩

theorem unison_requireOpen :
    Unison c c' (requireOpen : Play γ Unit) (requireOpen : Play γ' Unit) := by
  unfold requireOpen
  refine unison_voice_bind fun v w _ _ twins => ?_
  rw [twins.finished]
  split
  · exact .throw _
  · exact .pure True.intro

/-- The volume and the tempo do not matter. -/
theorem unison_onDynamics (act : Act (Dynamics Datum) α) (act' : Act (Dynamics Datum) β) :
    Unison c c' (onDynamics act : Play γ α) (onDynamics act' : Play γ' β) :=
  .onPart (.any act act') (fun _ _ _ => True.intro)
    fun _ _ h _ _ _ => ⟨h.config, h.config', { h.twins with }⟩

theorem unison_record {tick tick' : Datum} {what what' : Happening}
    (same : Event.bare ⟨tick, what⟩ = Event.bare ⟨tick', what'⟩) :
    Unison c c' (record tick what : Play γ Unit) (record tick' what' : Play γ' Unit) := by
  refine unison_changeVoice (fun _ => rfl) (fun _ => rfl) fun v w twins =>
    { twins with events := ?_ }
  rw [Array.map_push, Array.map_push, twins.events, same]

/-- Two notes of one pitch, of which both are struck or both are silent. -/
theorem unison_note {tick tick' velocity velocity' : Datum} (pitch : Datum)
    (sign : ∀ f f', velocity.asNumber = .ok f → velocity'.asNumber = .ok f' →
      f.le (.whole 0) = f'.le (.whole 0)) :
    Unison c c' (note tick pitch velocity : Play γ Unit)
      (note tick' pitch velocity' : Play γ' Unit) := by
  unfold note
  refine .bind unison_requireOpen fun _ _ _ => unison_voice_bind fun v w _ _ twins => ?_
  rw [twins.channel]
  refine .bind (.lift fun f f' read read' => sign f f' read read') fun f f' same => ?_
  rw [same]
  split
  · exact unison_record rfl
  · refine .bind (unison_onDynamics _ _) fun volume volume' _ => ?_
    refine .bind (.lift fun _ _ _ _ => True.intro) fun volume volume' _ => ?_
    refine .bind (.lift fun _ _ _ _ => True.intro) fun scaled scaled' _ => ?_
    exact unison_record rfl

variable {tick tick' : Int} {index : Nat} {stray stray' : Binary64} {closes : Bool}

/-- The end of a note. -/
theorem unison_silence (pitch : Datum) :
    Unison c c' (note (.whole tick) pitch (.whole 0) : Play γ Unit)
      (note (.whole tick') pitch (.whole 0) : Play γ' Unit) :=
  unison_note pitch fun _ _ read read' => by rw [Except.ok.inj (read.symm.trans read')]

theorem unison_setSounding (index : Nat) (sounds : Option Quantity) :
    Unison c c' (setSounding index sounds : Play γ Unit)
      (setSounding index sounds : Play γ' Unit) := by
  refine unison_changeVoice (fun _ => rfl) (fun _ => rfl) fun v w twins =>
    { twins with sounding := ?_ }
  show v.sounding.set index sounds = w.sounding.set index sounds
  rw [twins.sounding]

theorem unison_cut :
    Unison c c' (cut tick index : Play γ Unit) (cut tick' index : Play γ' Unit) := by
  unfold cut
  refine unison_voice_bind fun v w _ _ twins => ?_
  rw [twins.sounding]
  split
  · exact unison_silence _
  · exact .pure True.intro

/-- A velocity that never strays down to silence is a strike in both voices, or in none. -/
theorem unison_muteOrSound (loud : NeverSilent c stray) (loud' : NeverSilent c' stray')
    (pitch : Quantity) (velocity : Int) :
    Unison c c' (muteOrSound tick index pitch velocity stray closes : Play γ Unit)
      (muteOrSound tick' index pitch velocity stray' closes : Play γ' Unit) := by
  unfold muteOrSound
  split
  · unfold mute
    split
    · exact .bind (unison_silence _) fun _ _ _ => unison_setSounding index none
    · exact unison_setSounding index none
  · next positive =>
    -- Here the draws come in: neither may push the force of this stroke to zero.
    rw [Int.not_le] at positive
    unfold sound
    refine unison_voice_bind fun v w config config' _ => ?_
    rw [config, config']
    have struck : ∀ f f', strayed c.volumeSpread velocity stray = .ok f →
        strayed c'.volumeSpread velocity stray' = .ok f' →
        f.le (.whole 0) = f'.le (.whole 0) := by
      intro f f' strays strays'
      rw [loud velocity f positive strays, loud' velocity f' positive strays']
    refine .bind (.lift struck) fun f f' same => ?_
    refine .bind (unison_note _ ?_) fun _ _ _ => unison_setSounding index _
    rintro _ _ ⟨rfl⟩ ⟨rfl⟩
    exact same

theorem unison_strike (loud : NeverSilent c stray) (loud' : NeverSilent c' stray')
    (pitch : Quantity) (velocity : Int) :
    Unison c c' (strike tick index pitch velocity stray closes : Play γ Unit)
      (strike tick' index pitch velocity stray' closes : Play γ' Unit) := by
  have rest : Unison c c' (muteOrSound tick index pitch velocity stray closes : Play γ Unit)
      (muteOrSound tick' index pitch velocity stray' closes : Play γ' Unit) :=
    unison_muteOrSound loud loud' pitch velocity
  unfold strike
  split
  · exact .bind unison_cut fun _ _ _ => rest
  · exact rest

theorem unison_stroke (loud : NeverSilent c stray) (loud' : NeverSilent c' stray')
    (frets : List (Option Int)) (s : Stroke) :
    Unison c c' (stroke tick stray frets s : Play γ Unit)
      (stroke tick' stray' frets s : Play γ' Unit) := by
  unfold stroke
  refine unison_voice_bind fun v w _ _ twins => ?_
  rw [twins.stringCount, twins.roots]
  split
  · split
    · exact .throw _
    · exact .pure True.intro
  · split
    · exact .lift_bind fun pitch _ => unison_strike loud loud' pitch _
    · exact .pure True.intro

theorem unison_cell (loud : NeverSilent c stray) (loud' : NeverSilent c' stray') (line : Nat)
    (l : Letter) :
    Unison c c' (cell tick stray line l : Play γ Unit)
      (cell tick' stray' line l : Play γ' Unit) := by
  unfold cell
  split
  · exact .pure True.intro
  · refine unison_voice_bind fun v w _ _ twins => ?_
    rw [twins.stringCount, twins.roots, twins.tabStyle]
    dsimp only
    split
    · exact .pure True.intro
    · refine .lift_bind fun digit _ => .lift_bind fun struck _ => ?_
      exact unison_strike loud loud' struck.1 struck.2

theorem unison_cells (loud : NeverSilent c stray) (loud' : NeverSilent c' stray') (column : Text)
    (line : Nat) :
    Unison c c' (cells tick stray line column : Play γ Unit)
      (cells tick' stray' line column : Play γ' Unit) := by
  induction column generalizing line with
  | nil => exact .pure True.intro
  | cons l column ih => exact .bind (unison_cell loud loud' line l) fun _ _ _ => ih (line + 1)

/-! ## §3. Passages in unison. -/

variable [ChanceSource γ] [ChanceSource γ']

/-- Fair draws never turn a strike into a silence. -/
theorem unison_jitter (fair : c.FairDraws γ) (fair' : c'.FairDraws γ') :
    InUnison c c' (fun x y => NeverSilent c x ∧ NeverSilent c' y) (jitter : Play γ Binary64)
      (jitter : Play γ' Binary64) := by
  refine .of_ensures (fun _ => ensures_jitter) (fun _ => ensures_jitter) ?_
  rintro p p' ⟨rfl, rfl, twins⟩ x q x' q' ⟨strays, same⟩ ⟨strays', same'⟩
  refine ⟨⟨fun _ _ => ?_, fun _ _ => ?_⟩, congrArg _ same, congrArg _ same', ?_⟩
  · exact strayed_pos twins.inBounds.volumeSpread (strays.within fair)
  · exact strayed_pos twins.inBounds'.volumeSpread (strays'.within fair')
  · rw [same, same']
    exact twins

/-- The ticks may differ. -/
theorem unison_humanize (nominal : Quantity) :
    Unison c c' (humanize nominal : Play γ Int) (humanize nominal : Play γ' Int) := by
  refine .of_ensures (fun _ => ensures_humanize nominal) (fun _ => ensures_humanize nominal) ?_
  -- Where the strokes land is not compared; that they landed is all that both keep.
  rintro p p' ⟨rfl, rfl, twins⟩ tick q tick' q' ⟨-, same⟩ ⟨-, same'⟩
  have struck : Beside p.voice.config p'.voice.config
      { p with voice := p.voice.struckAt nominal tick }
      { p' with voice := p'.voice.struckAt nominal tick' } := ⟨rfl, rfl, { twins with }⟩
  obtain ⟨config, config', twins⟩ := struck
  rw [← same] at config twins
  rw [← same'] at config' twins
  exact ⟨True.intro, config, config', twins⟩

variable (fair : c.FairDraws γ) (fair' : c'.FairDraws γ')
include fair fair'

theorem unison_group (frets : List (Option Int)) (g : Group) :
    Unison c c' (group frets g : Play γ Unit) (group frets g : Play γ' Unit) := by
  unfold group
  refine unison_voice_bind fun v w _ _ twins => ?_
  have offset : offsetTick v g.offset = offsetTick w g.offset := by
    unfold offsetTick
    rw [twins.clock, twins.ticks]
  rw [offset]
  refine .lift_bind fun nominal _ => .bind (unison_humanize nominal) fun tick tick' _ => ?_
  refine .bind (unison_jitter fair fair') fun stray stray' loud => ?_
  exact .forM fun s _ => unison_stroke loud.1 loud.2 frets s

theorem unison_playMeasure (pattern : Pattern) (frets : List (Option Int)) :
    Unison c c' (playMeasure pattern frets : Play γ Unit)
      (playMeasure pattern frets : Play γ' Unit) := by
  unfold playMeasure
  refine .bind (.forM fun g _ => unison_group fair fair' frets g) fun _ _ _ => ?_
  refine unison_voice_bind fun v w _ _ twins => ?_
  rw [twins.clock, twins.measure]
  exact .lift_bind fun clock _ => unison_changeVoice (fun _ => rfl) (fun _ => rfl)
    fun _ _ twins => { twins with clock := rfl }

theorem unison_columns (columns : List (Quantity × Text)) (tick : Quantity) :
    InUnison c c' Eq (Play.columns tick columns : Play γ Quantity)
      (Play.columns tick columns : Play γ' Quantity) := by
  induction columns generalizing tick with
  | nil => exact .pure rfl
  | cons first columns ih =>
    obtain ⟨step, cells⟩ := first
    rw [columns_cons, columns_cons]
    refine .bind (V := fun _ _ => True) ?_ fun _ _ _ => .lift_bind fun next _ => ih next
    unfold column
    refine .bind (unison_jitter fair fair') fun stray stray' loud => ?_
    exact .bind (unison_humanize tick) fun _ _ _ => unison_cells loud.1 loud.2 cells 0

theorem unison_playMeasures (pattern : Pattern) (parsed : List (List (Option Int))) :
    Unison c c' (playMeasures pattern parsed : Play γ Unit)
      (playMeasures pattern parsed : Play γ' Unit) := by
  have warns : Unison c c' (warnBeyondMeasure pattern : Play γ Unit)
      (warnBeyondMeasure pattern : Play γ' Unit) := by
    unfold warnBeyondMeasure
    refine unison_voice_bind fun v w _ _ twins => ?_
    rw [twins.beats]
    dsimp only
    split
    · exact .lift_bind fun reached _ => .report
    · exact .pure True.intro
  unfold playMeasures
  refine .bind warns fun _ _ _ => ?_
  refine .bind (unison_changeVoice (fun _ => rfl) (fun _ => rfl) fun _ _ twins =>
    { twins with skip := rfl }) fun _ _ _ => ?_
  refine .bind (.forM fun frets _ => unison_playMeasure fair fair' pattern frets) fun _ _ _ => ?_
  exact unison_voice_bind fun v w _ _ _ => .report

theorem unison_playGrid (grid : Grid) :
    Unison c c' (playGrid grid : Play γ Unit) (playGrid grid : Play γ' Unit) := by
  unfold playGrid
  refine unison_voice_bind fun v w _ _ twins => ?_
  rw [twins.clock]
  refine .bind_same (unison_columns fair fair' grid.columns w.clock) fun clock => ?_
  refine .bind (unison_changeVoice (fun _ => rfl) (fun _ => rfl) fun _ _ twins =>
    { twins with clock := rfl, skip := rfl }) fun _ _ _ => ?_
  exact unison_voice_bind fun v w _ _ _ => .report

end Play

/-! ## §4. Moves in unison. -/

namespace Play

variable {γ γ' : Type} {c c' : Config}

theorem unison_playSilence :
    Unison c c' (playSilence : Play γ Unit) (playSilence : Play γ' Unit) := by
  unfold playSilence
  refine unison_voice_bind fun v w _ _ twins => ?_
  rw [twins.clock, twins.measure, twins.skip]
  refine .lift_bind fun clock _ => ?_
  refine .bind (unison_changeVoice (fun _ => rfl) (fun _ => rfl) fun _ _ twins =>
    { twins with clock := rfl }) fun _ _ _ => ?_
  exact .lift_bind fun skip _ => unison_changeVoice (fun _ => rfl) (fun _ => rfl) fun _ _ twins =>
    { twins with skip := rfl }

theorem unison_requireMaster :
    Unison c c' (requireMaster : Play γ Unit) (requireMaster : Play γ' Unit) := by
  unfold requireMaster
  refine unison_voice_bind fun v w _ _ twins => ?_
  rw [twins.auxiliary]
  split
  · exact .throw _
  · exact .pure True.intro

theorem unison_tempo (bpm tick : Datum) :
    Unison c c' (tempo bpm tick : Play γ Unit) (tempo bpm tick : Play γ' Unit) := by
  unfold tempo
  refine .bind unison_requireOpen fun _ _ _ => .bind unison_requireMaster fun _ _ _ => ?_
  exact unison_voice_bind fun v w _ _ _ => unison_onDynamics _ _

theorem unison_rit (factor measures : Datum) (shape : Shape.Choice Datum) :
    Unison c c' (rit factor measures shape : Play γ Unit)
      (rit factor measures shape : Play γ' Unit) := by
  unfold rit
  refine .bind unison_requireOpen fun _ _ _ => .bind unison_requireMaster fun _ _ _ => ?_
  refine .lift_bind fun count _ => unison_voice_bind fun v w _ _ twins => ?_
  rw [twins.beats]
  exact .lift_bind fun beats _ => unison_onDynamics _ _

theorem unison_cresc (factor measures : Datum) (shape : Shape.Choice Datum) :
    Unison c c' (cresc factor measures shape : Play γ Unit)
      (cresc factor measures shape : Play γ' Unit) := by
  unfold cresc
  refine .bind unison_requireOpen fun _ _ _ => .lift_bind fun count _ => ?_
  refine unison_voice_bind fun v w _ _ twins => ?_
  rw [twins.clock, twins.ticks, twins.measure]
  refine .lift_bind fun startTick _ => .lift_bind fun length _ => ?_
  exact .bind (unison_onDynamics _ _) fun _ _ _ => .pure True.intro

/-- A ramp of the volume may as well be in one voice alone. -/
theorem keeps_cresc {P : Voice → Prop}
    (dynamics : ∀ v d, P v → P { v with dynamics := d }) (factor measures : Datum)
    (shape : Shape.Choice Datum) :
    Act.Keeps (fun p : Player γ => P p.voice) (cresc factor measures shape) := by
  have ramp : ∀ {α : Type} (act : Act (Dynamics Datum) α),
      Act.Keeps (fun p : Player γ => P p.voice) (onDynamics act) := by
    intro α act
    have any : Act.Keeps (fun _ => True) act := fun d _ => .trivial act d
    exact any.onPart (fun _ _ => True.intro) fun p d here _ => dynamics p.voice d here
  unfold cresc
  exact .bind keeps_requireOpen fun _ => .bind (.lift _) fun _ => .bind keeps_voice fun _ =>
    .bind (.lift _) fun _ => .bind (.lift _) fun _ => .bind (ramp _) fun _ => .pure _

variable [ChanceSource γ] [ChanceSource γ']
variable (fair : c.FairDraws γ) (fair' : c'.FairDraws γ')
include fair fair'

theorem unison_play (music : Music) (chords : List Datum) :
    Unison c c' (play music chords : Play γ Unit) (play music chords : Play γ' Unit) := by
  unfold play
  refine .bind unison_requireOpen fun _ _ _ => ?_
  cases music with
  | silence =>
    dsimp only
    split
    · exact .bind (V := fun _ _ => True) (.throw _) fun _ _ _ => unison_playSilence
    · exact unison_playSilence
  | other kindName => exact .throw _
  | pattern pattern =>
    refine unison_voice_bind fun v w _ _ twins => ?_
    rw [twins.roots]
    exact .lift_bind fun parsed _ => unison_playMeasures fair fair' pattern parsed

theorem unison_tab (parts : List Datum) (beats : Datum) :
    Unison c c' (tab parts beats : Play γ Unit) (tab parts beats : Play γ' Unit) := by
  unfold tab
  refine .bind unison_requireOpen fun _ _ _ => unison_voice_bind fun v w _ _ twins => ?_
  have same : readTab v parts beats = readTab w parts beats := by
    unfold readTab
    rw [twins.stringCount, twins.ticks, twins.beats, twins.tabStyle, twins.roots]
  rw [same]
  exact .lift_bind fun grid _ => unison_playGrid fair fair' grid

theorem unison_rest (measures : Datum) :
    Unison c c' (rest measures : Play γ Unit) (rest measures : Play γ' Unit) := by
  have many : ∀ count, Unison c c' (rests count : Play γ Unit) (rests count : Play γ' Unit) := by
    intro count
    induction count with
    | zero => exact .pure True.intro
    | succ count ih => exact .bind (unison_play fair fair' .silence []) fun _ _ _ => ih
  unfold rest
  split
  · exact many _
  · exact .throw _

end Play

/-- Each move keeps two voices that differ in expression at the same notes. -/
theorem Move.unison {γ γ' : Type} [ChanceSource γ] [ChanceSource γ'] {c c' : Config}
    (fair : c.FairDraws γ) (fair' : c'.FairDraws γ') (m : Move) :
    Play.Unison c c' (m.act : Play γ Unit) (m.act : Play γ' Unit) := by
  cases m with
  | play music chords => exact Play.unison_play fair fair' music chords
  | tab parts beats => exact Play.unison_tab fair fair' parts beats
  | rest measures => exact Play.unison_rest fair fair' measures
  | cresc factor measures shape => exact Play.unison_cresc factor measures shape
  | tempo bpm tick => exact Play.unison_tempo bpm tick
  | rit factor measures shape => exact Play.unison_rit factor measures shape
  | note tick pitch velocity =>
    exact Play.unison_note pitch fun _ _ read read' => by rw [Except.ok.inj (read.symm.trans read')]

/-! ## §5. Bands in unison. -/

/-- Two bands with the same parts, whose voices are twins. -/
abbrev Band.Twins {γ γ' : Type} (band : Band γ) (band' : Band γ') : Prop :=
  band.Pairs Voice.Twins band'

namespace Perform

variable {γ γ' : Type}

/-- New voices of twin settings are twins. -/
theorem twins_of_fresh {c c' : Config} {t : Tuning} {joins : Bool} {v w : Voice}
    (fresh : v.Fresh c t joins) (fresh' : w.Fresh c' t joins) (same : c.bare = c'.bare)
    (inBounds : c.InBounds) (inBounds' : c'.InBounds) : v.Twins w := by
  have tuning := fresh.tuning.trans fresh'.tuning.symm
  have measure : c.ticksPerMeasure = c'.ticksPerMeasure := by
    show c.bare.ticksPerMeasure = c'.bare.ticksPerMeasure
    rw [same]
  have leadIn : Voice.leadIn c = Voice.leadIn c' := by
    show Voice.leadIn c.bare = Voice.leadIn c'.bare
    rw [same]
  rw [fresh.measure, fresh'.measure] at measure
  rw [fresh.clock, fresh'.clock] at leadIn
  refine ⟨?_, ?_, ?_, tuning, Except.ok.inj measure, ?_, Except.ok.inj leadIn,
    fresh.skip.trans fresh'.skip.symm, fresh.auxiliary.trans fresh'.auxiliary.symm,
    fresh.finished.trans fresh'.finished.symm, ?_⟩
  · rw [fresh.config, fresh'.config]
    exact same
  · rw [fresh.config]
    exact inBounds
  · rw [fresh'.config]
    exact inBounds'
  · rw [fresh.sounding, fresh'.sounding]
    unfold Voice.stringCount Voice.roots
    rw [tuning]
  · rw [fresh.events, fresh'.events]

theorem unison_voice (part : Part) :
    Act.InStep Band.Twins Voice.Twins (voice part : Perform γ Voice)
      (voice part : Perform γ' Voice) := by
  intro desk desk' bands
  cases plays : desk.state.voice? part with
  | none =>
    obtain ⟨f, failed⟩ := start_voice_missing plays
    rw [failed]
    exact fun a b ran => nomatch ran
  | some v =>
    obtain ⟨w, plays', twins⟩ := bands.partner plays
    rw [start_voice plays, start_voice plays']
    rintro _ _ ⟨rfl⟩ ⟨rfl⟩
    exact ⟨twins, bands⟩

/-- The full options of an auxiliary without expression are made of those without expression. -/
theorem auxiliaryOptions_bare (c : Config) (count : Nat) (options : Options) :
    Yields (auxiliaryOptions c count options) fun full =>
      auxiliaryOptions c.bare count options.bare = .ok full.bare := by
  have needs : needsChannel options.bare = needsChannel options := by
    unfold needsChannel
    rw [Options.get?_bare (by decide), Options.has_bare (by decide), Options.has_bare (by decide)]
  unfold auxiliaryOptions
  rw [needs]
  cases needsChannel options with
  | false =>
    refine .bind fun settled here => .pure ?_
    cases here
    rw [Options.bare_setDefault (by decide)]
    simp (disch := decide) only [Options.bare_set]
    rfl
  | true =>
    refine .bind fun channel free => .pure ?_
    rw [Options.bare_setDefault (by decide)]
    simp (disch := decide) only [Options.bare_set]
    show (auxiliaryChannel (.whole count) >>= _) = _
    rw [free]
    rfl

theorem unison_join (part : Part) {options options' : Options}
    (bare : options.bare = options'.bare) :
    Act.Abreast Band.Twins (join part options : Perform γ Voice)
      (join part options' : Perform γ' Voice) := by
  have has : ∀ key ∉ Options.expressive, options.has key = options'.has key := by
    intro key other
    rw [← Options.has_bare other, bare, Options.has_bare other]
  have shared : sharedOptions.find? options.has = sharedOptions.find? options'.has := by
    refine List.find?_congr fun key here => has key ?_
    revert key
    decide
  unfold join
  rw [has Setup.ownKey (by decide), shared]
  refine .check fun _ => .bind (unison_voice part) fun v w twins => ?_
  have named : v.name = w.name := twins.setting Config.name fun _ => rfl
  rw [twins.finished, twins.auxiliary, named]
  refine .check fun _ => .check fun _ => ?_
  split
  · exact .throw _
  · refine .bind .state fun band band' bands => ?_
    rw [bands.count]
    have settle : ∀ full full',
        auxiliaryOptions v.config band'.auxiliaries.length options = .ok full →
        auxiliaryOptions w.config band'.auxiliaries.length options' = .ok full' →
        full.bare = full'.bare := by
      intro full full' settled settled'
      have plain := auxiliaryOptions_bare _ _ _ full settled
      have plain' := auxiliaryOptions_bare _ _ _ full' settled'
      rw [twins.config, bare] at plain
      exact Except.ok.inj (plain.symm.trans plain')
    refine .bind (.lift settle) fun full full' same => ?_
    refine .bind (.lift (V := fun c c' => c.bare = c'.bare ∧ c.InBounds ∧ c'.InBounds)
      fun c c' accepted accepted' => ⟨Config.ofOptions_bare accepted accepted' same,
        Config.ofOptions_inBounds _ c accepted, Config.ofOptions_inBounds _ c' accepted'⟩) ?_
    rintro c c' ⟨same, inBounds, inBounds'⟩
    have tuned : Tuning.ofConfig c = Tuning.ofConfig c' := by
      show Tuning.ofConfig c.bare = Tuning.ofConfig c'.bare
      rw [same]
    rw [tuned]
    refine .lift_bind fun tuning _ => .bind (.lift fun aux aux' new new' => twins_of_fresh
      (Voice.create_fresh c tuning true aux new) (Voice.create_fresh c' tuning true aux' new') same
      inBounds inBounds') fun aux aux' twins => ?_
    unfold Voice.greet
    refine .bind .report fun _ _ _ => ?_
    refine .bind (.update fun _ _ bands => bands.append twins) fun _ _ _ => ?_
    exact .pure True.intro

/-- Finished bands are twins again: nothing sounds, and no events are kept. -/
theorem unison_finish (part : Part) (midi attribution : Datum) :
    Act.Abreast Band.Twins (finish part midi attribution : Perform γ (Option Song))
      (finish part midi attribution : Perform γ' (Option Song)) := by
  refine .of_ensures (fun _ => ensures_finish part midi attribution)
    (fun _ => ensures_finish part midi attribution) ?_
  rintro band band' bands song b song' b' ⟨v, plays, -, outcome⟩ ⟨w, plays', -, outcome'⟩
  have finished := (bands.voices part v w plays plays').finished
  refine ⟨True.intro, ?_⟩
  obtain ⟨ended, -, rfl⟩ | ⟨isOpen, -, folder, -, -, rfl⟩ := outcome <;>
    obtain ⟨ended', -, rfl⟩ | ⟨isOpen', -, folder', -, -, rfl⟩ := outcome'
  · exact bands
  · rw [ended, isOpen'] at finished
    cases finished
  · rw [isOpen, ended'] at finished
    cases finished
  · exact bands.close (fun _ _ => Voice.Twins.close) folder folder'

end Perform

/-! ## §6. Sessions in unison. -/

/-- Two lists of calls that ask for the same music.  Ramps of the volume may be anywhere in
either, and auxiliaries may join with options that differ in expression. -/
inductive SameMusic : List Call → List Call → Prop where
  | nil : SameMusic [] []
  | ramp (part : Part) (factor measures : Datum) (shape : Shape.Choice Datum)
      {calls calls' : List Call} (rest : SameMusic calls calls') :
    SameMusic (.move part (.cresc factor measures shape) :: calls) calls'
  | ramp' (part : Part) (factor measures : Datum) (shape : Shape.Choice Datum)
      {calls calls' : List Call} (rest : SameMusic calls calls') :
    SameMusic calls (.move part (.cresc factor measures shape) :: calls')
  | call (call : Call) {calls calls' : List Call} (rest : SameMusic calls calls') :
    SameMusic (call :: calls) (call :: calls')
  | join (part : Part) {options options' : Options} (bare : options.bare = options'.bare)
      {calls calls' : List Call} (rest : SameMusic calls calls') :
    SameMusic (.join part options :: calls) (.join part options' :: calls')

namespace Session

variable {γ γ' : Type} [ChanceSource γ] [ChanceSource γ']

omit [ChanceSource γ'] in
/-- A ramp of the volume in one band keeps it in unison with the other. -/
theorem twins_ramp {desk : Desk (Band γ)} {band' : Band γ'} (bands : desk.state.Twins band')
    (part : Part) (factor measures : Datum) (shape : Shape.Choice Datum) :
    ((Call.move part (.cresc factor measures shape)).perform.start desk).2.state.Twins band' := by
  have contract : (Perform.on part (Play.cresc factor measures shape)).Ensures desk.state
      (fun _ b => b.Twins band') fun _ b => b.Twins band' := by
    refine Perform.ensures_on (fun _ _ => bands) fun v plays => ?_
    obtain ⟨w, plays', twins⟩ := bands.partner plays
    have kept := Play.keeps_cresc (γ := γ) (P := fun x => x.Twins w) (fun _ _ h => { h with })
      factor measures shape ⟨v, desk.state.chance⟩ twins
    exact kept.mono (fun _ _ => bands.played_left plays plays') fun _ _ =>
      bands.played_left plays plays'
  exact contract.always desk.journal

/-- The same move keeps two bands in unison, if it goes well in both. -/
theorem twins_move {desk : Desk (Band γ)} {desk' : Desk (Band γ')}
    (bands : desk.state.Twins desk'.state) {part : Part} {m : Move}
    (fair : ∀ v, desk.state.voice? part = some v → v.config.FairDraws γ)
    (fair' : ∀ w, desk'.state.voice? part = some w → w.config.FairDraws γ') {a b : Unit}
    (ran : ((Call.move part m).perform.start desk).1 = .ok a)
    (ran' : ((Call.move part m).perform.start desk').1 = .ok b) :
    ((Call.move part m).perform.start desk).2.state.Twins
      ((Call.move part m).perform.start desk').2.state := by
  revert ran ran'
  show ((Perform.on part m.act).start desk).1 = .ok a → ((Perform.on part m.act).start desk').1 =
    .ok b → ((Perform.on part m.act).start desk).2.state.Twins
      ((Perform.on part m.act).start desk').2.state
  cases plays : desk.state.voice? part with
  | none =>
    obtain ⟨f, failed⟩ := Perform.start_on_missing plays (m.act (γ := γ))
    rw [failed]
    exact fun ran => nomatch ran
  | some v =>
    obtain ⟨w, plays', twins⟩ := bands.partner plays
    rw [Perform.start_on plays, Perform.start_on plays']
    intro ran ran'
    obtain ⟨-, beside⟩ := m.unison (fair v plays) (fair' w plays')
      ⟨⟨v, desk.state.chance⟩, desk.journal⟩ ⟨⟨w, desk'.state.chance⟩, desk'.journal⟩
      ⟨rfl, rfl, twins⟩ a b ran ran'
    exact bands.played plays plays' beside.twins

/-- The same music keeps two bands in unison, if all of it goes well. -/
theorem twins_run {calls calls' : List Call} (same : SameMusic calls calls')
    {desk : Desk (Band γ)} {desk' : Desk (Band γ')} (flawless : Flawless calls desk)
    (flawless' : Flawless calls' desk')
    (fair : (run calls desk).state.Throughout fun v => v.config.FairDraws γ)
    (fair' : (run calls' desk').state.Throughout fun w => w.config.FairDraws γ')
    (bands : desk.state.Twins desk'.state) :
    (run calls desk).state.Twins (run calls' desk').state := by
  induction same generalizing desk desk' with
  | nil => exact bands
  | ramp part factor measures shape rest ih =>
    exact ih flawless.2 flawless' fair fair' (twins_ramp bands part factor measures shape)
  | ramp' part factor measures shape rest ih =>
    exact ih flawless flawless'.2 fair fair' 
      ((twins_ramp (bands.symm fun _ _ => Voice.Twins.symm) part factor measures shape).symm
        fun _ _ => Voice.Twins.symm)
  | @call call calls calls' rest ih =>
    obtain ⟨a, ran⟩ := exists_ok_of_toBool flawless.1
    obtain ⟨b, ran'⟩ := exists_ok_of_toBool flawless'.1
    refine ih flawless.2 flawless'.2 fair fair' ?_
    cases call with
    | move part m =>
      -- Draws are fair under the settings at the end, and settings never change.
      refine twins_move bands (fun v plays => ?_) (fun w plays => ?_) ran ran'
      · obtain ⟨x, later, config⟩ := run_config (.move part m :: calls) ⟨v, plays, rfl⟩
        exact config ▸ fair part x later
      · obtain ⟨x, later, config⟩ := run_config (.move part m :: calls') ⟨w, plays, rfl⟩
        exact config ▸ fair' part x later
    | join part options =>
      have abreast : Act.Abreast Band.Twins ((Call.join part options).perform : Perform γ Unit)
          ((Call.join part options).perform : Perform γ' Unit) :=
        .bind (Perform.unison_join part rfl) fun _ _ _ => .pure True.intro
      exact (abreast desk desk' bands a b ran ran').2
    | finish part midi attribution =>
      have abreast : Act.Abreast Band.Twins
          ((Call.finish part midi attribution).perform : Perform γ Unit)
          ((Call.finish part midi attribution).perform : Perform γ' Unit) :=
        .bind (Perform.unison_finish part midi attribution) fun _ _ _ => .pure True.intro
      exact (abreast desk desk' bands a b ran ran').2
  | @join part options options' bare calls calls' rest ih =>
    obtain ⟨a, ran⟩ := exists_ok_of_toBool flawless.1
    obtain ⟨b, ran'⟩ := exists_ok_of_toBool flawless'.1
    have abreast : Act.Abreast Band.Twins ((Call.join part options).perform : Perform γ Unit)
        ((Call.join part options').perform : Perform γ' Unit) :=
      .bind (Perform.unison_join part bare) fun _ _ _ => .pure True.intro
    exact ih flawless.2 flawless'.2 fair fair' (abreast desk desk' bands a b ran ran').2

end Session

/-- New bands of options that differ in expression are in unison. -/
theorem Band.Created.twins {γ γ' : Type} {band : Band γ} {band' : Band γ'}
    (created : band.Created) (created' : band'.Created) {options options' : Options}
    (accepted : Config.ofOptions options = .ok band.master.config)
    (accepted' : Config.ofOptions options' = .ok band'.master.config)
    (bare : options.bare = options'.bare) : band.Twins band' := by
  obtain ⟨new, master, alone⟩ := created.new
  obtain ⟨new', master', alone'⟩ := created'.new
  obtain ⟨-, -, tuned, fresh⟩ := new.fresh
  obtain ⟨-, -, tuned', fresh'⟩ := new'.fresh
  have same := Config.ofOptions_bare accepted accepted' bare
  have tuning : band'.master.tuning = band.master.tuning := by
    refine Except.ok.inj (tuned'.symm.trans (Eq.trans ?_ tuned))
    show Tuning.ofConfig band'.master.config.bare = Tuning.ofConfig band.master.config.bare
    rw [same]
  rw [master] at fresh
  rw [master', tuning] at fresh'
  have twins := Perform.twins_of_fresh fresh fresh' same
    (Config.ofOptions_inBounds _ _ accepted) (Config.ofOptions_inBounds _ _ accepted')
  refine ⟨by rw [alone, alone'], fun part v w plays plays' => ?_⟩
  obtain ⟨rfl, rfl⟩ := created.only plays
  obtain ⟨-, rfl⟩ := created'.only plays'
  exact twins

/-- Two runs of the same music, in bands whose options differ in seed, spreads and volume at most,
and with ramps of the volume anywhere in either.  If all calls go well, and all draws for the
velocities are within the spreads, then the voices of the two bands have recorded the same notes:
their timelines have the same length, and agree in all but ticks and the velocities of starting
notes.  Clock, silence and the strings that sound are the same.  The calls may be any, so this
holds after each call of a longer run. -/
theorem Session.same_notes {γ γ' : Type} [ChanceSource γ] [ChanceSource γ'] {band : Band γ}
    {band' : Band γ'} (created : band.Created) (created' : band'.Created)
    {options options' : Options}
    (accepted : Config.ofOptions options = .ok band.master.config)
    (accepted' : Config.ofOptions options' = .ok band'.master.config)
    (bare : options.bare = options'.bare) {calls calls' : List Call}
    (same : SameMusic calls calls') {journal journal' : Journal}
    (flawless : Flawless calls ⟨band, journal⟩) (flawless' : Flawless calls' ⟨band', journal'⟩) :
    let now := run calls ⟨band, journal⟩
    let now' := run calls' ⟨band', journal'⟩
    now.state.Throughout (fun v => v.config.FairDraws γ) →
    now'.state.Throughout (fun w => w.config.FairDraws γ') →
    now.state.auxiliaries.length = now'.state.auxiliaries.length ∧
    ∀ part v w, now.state.voice? part = some v → now'.state.voice? part = some w →
      List.Forall₂ (fun e f => e.bare = f.bare) v.events.toList w.events.toList ∧
      v.clock = w.clock ∧ v.skip = w.skip ∧ v.sounding = w.sounding := by
  intro now now' fair fair'
  have bands : now.state.Twins now'.state := twins_run same flawless flawless' fair fair'
    (created.twins created' accepted accepted' bare)
  refine ⟨bands.count, fun part v w plays plays' => ?_⟩
  have twins := bands.voices part v w plays plays'
  have events : v.events.toList.map Event.bare = w.events.toList.map Event.bare := by
    rw [← Array.toList_map, ← Array.toList_map, twins.events]
  refine ⟨?_, twins.clock, twins.skip, twins.sounding⟩
  refine List.forall₂_map_left_iff.1 (List.forall₂_map_right_iff.1 ?_)
  rw [events, List.forall₂_eq_eq_eq]

/-! ## §7. Faint strokes that stray. -/

/-- Two strings, of which the strokes are as faint as can be, and stray as far as they may. -/
def faintOptions : Options :=
  [("strings", .list [.whole 40, .whole 45]), ("rvol", .whole 5), ("rtime", .whole 3),
    ("volume", .whole 0), ("seed", .whole 7)]

/-- The same strings without expression. -/
def plainOptions : Options := [("strings", .list [.whole 40, .whole 45])]

/-- A chord is struck twice, and one string is muted. -/
def strummedCalls : List Call :=
  let strum : Pattern := ⟨[⟨1, [⟨1, 80⟩, ⟨2, 90⟩]⟩, ⟨2, [⟨1, 0⟩, ⟨2, 60⟩]⟩]⟩
  [.move .master (.play (.pattern strum) [.list [.whole 3, .whole 5]])]

/-- The same after a crescendo. -/
def swelledCalls : List Call :=
  .move .master (.cresc (.whole 2) (.whole 1) (.datum (.text "linear"))) :: strummedCalls

/-- When a voice first recorded something. -/
def Voice.firstTick? (v : Voice) : Option Quantity :=
  v.events[0]?.bind fun e => e.tick.asNumber.toOption

/-- Both record the same five events, and not at the same ticks. -/
theorem faint_same_notes :
    ∃ desk desk', Session.begin Swing.up faintOptions = .ok desk ∧
      Session.begin Swing.up plainOptions = .ok desk' ∧
      let v := (Session.run swelledCalls desk).state.master
      let w := (Session.run strummedCalls desk').state.master
      v.firstTick? = some (.whole 3) ∧ w.firstTick? = some (.whole 0) ∧ v.events.size = 5 ∧
      List.Forall₂ (fun e f => e.bare = f.bare) v.events.toList w.events.toList ∧
      v.clock = w.clock ∧ v.skip = w.skip ∧ v.sounding = w.sounding := by
  have seen : ((Session.begin Swing.up faintOptions).toOption.map fun desk =>
      let now := (Session.run swelledCalls desk).state
      (decide (Session.Flawless swelledCalls desk), now.auxiliaries.isEmpty,
        now.master.config.volumeSpread, now.master.firstTick?, now.master.events.size)) =
      some (true, true, .whole 5, some (.whole 3), 5) := by
    decide +kernel
  have seen' : ((Session.begin Swing.up plainOptions).toOption.map fun desk =>
      let now := (Session.run strummedCalls desk).state
      (decide (Session.Flawless strummedCalls desk), now.auxiliaries.isEmpty,
        now.master.config.volumeSpread, now.master.firstTick?)) =
      some (true, true, .whole 0, some (.whole 0)) := by
    decide +kernel
  obtain ⟨desk, begun, seen⟩ := exists_ok_of_seen seen
  obtain ⟨desk', begun', seen'⟩ := exists_ok_of_seen seen'
  simp only [Prod.mk.injEq] at seen seen'
  obtain ⟨flawless, alone, spread, first, five⟩ := seen
  obtain ⟨flawless', alone', spread', first'⟩ := seen'
  have fair : (Session.run swelledCalls desk).state.Throughout fun v => v.config.FairDraws Swing :=
    .alone alone fun x drawn => by
      rw [spread] at drawn ⊢
      exact drawn_swing drawn
  have fair' : (Session.run strummedCalls desk').state.Throughout fun w =>
      w.config.FairDraws Swing := .alone alone' fun x drawn => by
    rw [spread'] at drawn ⊢
    obtain ⟨source, rfl⟩ := drawn
    cases source <;> exact ⟨0, 0, rfl, by decide +kernel, by decide, by decide⟩
  obtain ⟨-, same⟩ := Session.same_notes (Session.begin_created _ _ desk begun)
    (Session.begin_created _ _ desk' begun') (Session.begin_config _ _ desk begun)
    (Session.begin_config _ _ desk' begun') rfl
    (.ramp .master _ _ _ (.call _ .nil)) (of_decide_eq_true flawless)
    (of_decide_eq_true flawless') fair fair'
  obtain ⟨events, now⟩ := same .master _ _ rfl rfl
  exact ⟨desk, desk', begun, begun', first, first', five, events, now⟩

end Plectrum
