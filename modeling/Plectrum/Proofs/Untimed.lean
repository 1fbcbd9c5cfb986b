/-
  Plectrum.Proofs.Untimed
  ───────────────────────
  **Strikes do not look at the clock.**

  A strike is told its tick.  It asks the voice for settings, strings and volume, and changes what
  sounds and what is recorded, but never asks where in time the voice is; the last strike is asked
  for only where a written time is settled.  So what two players have in common, their clocks apart,
  they still have in common when both have done the same, and both acts end in the same way.

  Main results:
    * `Play.blind_note`, `Play.blind_strike` — notes and strikes, which the last strike does not
      matter to either;
    * `Play.untimed_humanize` — written times;
    * `Play.untimed_columns` — the columns of a tab, which carry their ticks along.
-/
import Plectrum.Proofs.SideBySide
import Plectrum.Voice.Measure
import Plectrum.Voice.Tab

namespace Plectrum

/-! ## §1. What strikes depend on. -/

/-- Settings under which nothing strays: nothing is ever drawn. -/
def Config.IsSteady (c : Config) : Prop :=
  c.timeSpread.isZero = true ∧ c.volumeSpread.isZero = true

instance (c : Config) : Decidable c.IsSteady := inferInstanceAs (Decidable (_ ∧ _))

/-- A voice without where it is in time. -/
def Voice.untimed (v : Voice) : Voice := { v with clock := .whole 0, skip := .whole 0 }

/-- A voice without where it is in time, and without its last strike. -/
def Voice.placeless (v : Voice) : Voice :=
  { v with clock := .whole 0, skip := .whole 0, lastStrike := ⟨.whole 0, 0⟩ }

namespace Play

variable {γ α : Type}

/-- A relation of players that strikes do not break.  Their voices are the same but for where they
are in time and for their last strikes, which strikes at a settled tick do not look at. -/
structure Blind (R : Player γ → Player γ → Prop) : Prop where
  voice : ∀ p p', R p p' → p.voice.placeless = p'.voice.placeless
  recorded : ∀ p p', R p p' → ∀ e : Event,
    R { p with voice := { p.voice with events := p.voice.events.push e } }
      { p' with voice := { p'.voice with events := p'.voice.events.push e } }
  sounded : ∀ p p', R p p' → ∀ (index : Nat) (sounds : Option Quantity),
    R { p with voice := { p.voice with sounding := p.voice.sounding.set index sounds } }
      { p' with voice := { p'.voice with sounding := p'.voice.sounding.set index sounds } }
  loudened : ∀ p p', R p p' → ∀ d : Dynamics Datum,
    R { p with voice := { p.voice with dynamics := d } }
      { p' with voice := { p'.voice with dynamics := d } }

/-- A relation of players that no act breaks which does not look at the clock.  Their voices are the
same but for where they are in time, and so is their chance if their voices stray. -/
structure Untimed (R : Player γ → Player γ → Prop) : Prop where
  voice : ∀ p p', R p p' → p.voice.untimed = p'.voice.untimed
  changed : ∀ p p', R p p' → ∀ f : Voice → Voice, (∀ v, (f v).config = v.config) →
    (∀ v, (f v).untimed = (f v.untimed).untimed) →
    R { p with voice := f p.voice } { p' with voice := f p'.voice }
  chance : ∀ p p', R p p' → ¬p.voice.config.IsSteady → p.chance = p'.chance
  drawn : ∀ p p', R p p' → ¬p.voice.config.IsSteady → ∀ chance,
    R { p with chance := chance } { p' with chance := chance }

theorem Untimed.blind {R : Player γ → Player γ → Prop} (untimed : Untimed R) : Blind R where
  voice p p' related :=
    congrArg (fun v : Voice => { v with lastStrike := ⟨.whole 0, 0⟩ }) (untimed.voice p p' related)
  recorded p p' related e :=
    untimed.changed p p' related (fun v => { v with events := v.events.push e }) (fun _ => rfl)
      fun _ => rfl
  sounded p p' related index sounds :=
    untimed.changed p p' related (fun v => { v with sounding := v.sounding.set index sounds })
      (fun _ => rfl) fun _ => rfl
  loudened p p' related d :=
    untimed.changed p p' related (fun v => { v with dynamics := d }) (fun _ => rfl) fun _ => rfl

/-! ## §2. Strikes. -/

section Strikes

variable {R : Player γ → Player γ → Prop} (blind : Blind R)
include blind

/-- What comes after a look at the voice may build neither on where it is in time nor on its last
strike. -/
theorem blind_voice_seq {next : Voice → Play γ α} (unseen : ∀ v, next v = next v.placeless)
    (h : ∀ v, Act.Alike R R (next v)) : Act.Alike R R (voice >>= next) := by
  intro desk desk' related
  have same : next desk.state.voice = next desk'.state.voice := by
    rw [unseen desk.state.voice, blind.voice _ _ related, ← unseen desk'.state.voice]
  show ((next desk.state.voice).start desk).1 = ((next desk'.state.voice).start desk').1 ∧
    R ((next desk.state.voice).start desk).2.state ((next desk'.state.voice).start desk').2.state
  rw [same]
  exact h desk'.state.voice desk desk' related

theorem blind_requireOpen : Act.Alike R R (requireOpen : Play γ Unit) := by
  unfold requireOpen
  refine blind_voice_seq blind (fun _ => rfl) fun v => ?_
  split
  · exact .throw _
  · exact .pure _

/-- The volume and the tempo are kept apart from the clock. -/
theorem blind_onDynamics {act : Act (Dynamics Datum) α} (h : Act.Alike Eq Eq act) :
    Act.Alike R R (onDynamics act : Play γ α) := by
  refine .onPart h (fun p p' related => ?_) fun p p' related d d' same => ?_
  · have dynamics : p.voice.placeless.dynamics = p'.voice.placeless.dynamics :=
      congrArg Voice.dynamics (blind.voice p p' related)
    exact dynamics
  · subst same
    exact blind.loudened p p' related d

theorem blind_record (tick : Datum) (what : Happening) :
    Act.Alike R R (record tick what : Play γ Unit) :=
  .update fun p p' related => blind.recorded p p' related _

theorem blind_setSounding (index : Nat) (sounds : Option Quantity) :
    Act.Alike R R (setSounding index sounds : Play γ Unit) :=
  .update fun p p' related => blind.sounded p p' related index sounds

theorem blind_note (tick pitch velocity : Datum) :
    Act.Alike R R (note tick pitch velocity : Play γ Unit) := by
  have loudness : Act.Alike Eq Eq (Dynamics.loudnessAt tick) :=
    .seq .state fun d => .seq (.lift _) fun next => .seq (.update fun _ _ _ => rfl) fun _ =>
      .pure _
  unfold note
  refine .seq (blind_requireOpen blind) fun _ => ?_
  refine blind_voice_seq blind (fun _ => rfl) fun v => .seq (.lift _) fun force => ?_
  split
  · exact blind_record blind _ _
  · refine .seq (blind_onDynamics blind loudness) fun volume => ?_
    exact .seq (.lift _) fun _ => .seq (.lift _) fun scaled => blind_record blind _ _

theorem blind_strike (tick : Int) (index : Nat) (pitch : Quantity) (velocity : Int)
    (stray : Binary64) (closes : Bool) :
    Act.Alike R R (strike tick index pitch velocity stray closes : Play γ Unit) := by
  have cuts : Act.Alike R R (cut tick index : Play γ Unit) := by
    unfold cut
    refine blind_voice_seq blind (fun _ => rfl) fun v => ?_
    split
    · exact blind_note blind _ _ _
    · exact .pure _
  have rest : Act.Alike R R
      (muteOrSound tick index pitch velocity stray closes : Play γ Unit) := by
    unfold muteOrSound
    split
    · unfold mute
      split
      · exact .seq (blind_note blind _ _ _) fun _ => blind_setSounding blind _ _
      · exact blind_setSounding blind _ _
    · unfold sound
      refine blind_voice_seq blind (fun _ => rfl) fun v => .seq (.lift _) fun force => ?_
      exact .seq (blind_note blind _ _ _) fun _ => blind_setSounding blind _ _
  unfold strike
  split
  · exact .seq cuts fun _ => rest
  · exact rest

theorem blind_stroke (tick : Int) (stray : Binary64) (frets : List (Option Int)) (s : Stroke) :
    Act.Alike R R (stroke tick stray frets s : Play γ Unit) := by
  unfold stroke
  refine blind_voice_seq blind (fun _ => rfl) fun v => ?_
  split
  · split
    · exact .throw _
    · exact .pure _
  · split
    · exact .seq (.lift _) fun pitch => blind_strike blind _ _ _ _ _ _
    · exact .pure _

theorem blind_cells (tick : Int) (stray : Binary64) (column : Text) (line : Nat) :
    Act.Alike R R (cells tick stray line column : Play γ Unit) := by
  induction column generalizing line with
  | nil => exact .pure _
  | cons l column ih =>
    refine .seq ?_ fun _ => ih (line + 1)
    unfold cell
    split
    · exact .pure _
    · refine blind_voice_seq blind (fun _ => rfl) fun v => ?_
      dsimp only
      split
      · exact .pure _
      · exact .seq (.lift _) fun digit => .seq (.lift _) fun struck =>
          blind_strike blind _ _ _ _ _ _

end Strikes

/-! ## §3. Columns. -/

variable {R : Player γ → Player γ → Prop} (untimed : Untimed R)
include untimed

/-- What comes after a look at the voice may not build on where it is in time. -/
theorem untimed_voice_bind {next : Voice → Play γ α} (unseen : ∀ v, next v = next v.untimed)
    (h : ∀ v, Act.Alike (fun p p' => R p p' ∧ p.voice.config = v.config) R (next v)) :
    Act.Alike R R (voice >>= next) := by
  intro desk desk' related
  have seen := untimed.voice _ _ related
  have same : next desk.state.voice = next desk'.state.voice := by
    rw [unseen desk.state.voice, seen, ← unseen desk'.state.voice]
  have config : desk.state.voice.untimed.config = desk'.state.voice.untimed.config :=
    congrArg Voice.config seen
  show ((next desk.state.voice).start desk).1 = ((next desk'.state.voice).start desk').1 ∧
    R ((next desk.state.voice).start desk).2.state ((next desk'.state.voice).start desk').2.state
  rw [same]
  exact h desk'.state.voice desk desk' ⟨related, config⟩

/-- Mostly it does not matter what was seen. -/
theorem untimed_voice_seq {next : Voice → Play γ α} (unseen : ∀ v, next v = next v.untimed)
    (h : ∀ v, Act.Alike R R (next v)) : Act.Alike R R (voice >>= next) :=
  untimed_voice_bind untimed unseen fun v => (h v).of_stronger fun _ _ related => related.1

theorem untimed_changeVoice {f : Voice → Voice} (config : ∀ v, (f v).config = v.config)
    (unseen : ∀ v, (f v).untimed = (f v.untimed).untimed) :
    Act.Alike R R (changeVoice f : Play γ Unit) :=
  .update fun p p' related => untimed.changed p p' related f config unseen

/-- Only a voice that strays draws. -/
theorem untimed_draw [ChanceSource γ] {v : Voice} (strays : ¬v.config.IsSteady)
    (bound : Quantity) :
    Act.Alike (fun p p' => R p p' ∧ p.voice.config = v.config) R
      (draw bound : Play γ Binary64) := by
  rintro ⟨p, journal⟩ ⟨p', journal'⟩ ⟨related, config⟩
  rw [← config] at strays
  have same := untimed.chance p p' related strays
  have drawn := untimed.drawn p p' related strays
  obtain ⟨v, chance⟩ := p
  obtain ⟨v', chance'⟩ := p'
  change chance = chance' at same
  subst same
  cases chance with
  | none => exact ⟨rfl, related⟩
  | some source => exact ⟨rfl, drawn _⟩

variable [ChanceSource γ]

/-- A strike strays from the tick that it is told. -/
theorem untimed_humanize (nominal : Quantity) :
    Act.Alike R R (humanize nominal : Play γ Int) := by
  have shifts : Act.Alike R R (shift nominal : Play γ Quantity) := by
    unfold shift
    refine untimed_voice_bind untimed (fun _ => rfl) fun v => ?_
    dsimp only
    split
    · exact .of_stronger (.pure _) fun _ _ h => h.1
    · next strays =>
      exact .bind (untimed_draw untimed (fun steady => strays steady.1) _) (fun x => .lift _)
        fun _ _ related => related
  unfold humanize
  refine .seq shifts fun shifted => untimed_voice_seq untimed (fun _ => rfl) fun v => ?_
  refine .seq (.lift _) fun tick => ?_
  exact .seq (untimed_changeVoice untimed (fun _ => rfl) fun _ => rfl) fun _ => .pure _

theorem untimed_jitter : Act.Alike R R (jitter : Play γ Binary64) := by
  unfold jitter
  refine untimed_voice_bind untimed (fun _ => rfl) fun v => ?_
  dsimp only
  split
  · exact .of_stronger (.pure _) fun _ _ h => h.1
  · next strays => exact untimed_draw untimed (fun steady => strays steady.2) _

theorem untimed_columns (columns : List (Quantity × Text)) (tick : Quantity) :
    Act.Alike R R (Play.columns tick columns : Play γ Quantity) := by
  induction columns generalizing tick with
  | nil => exact .pure _
  | cons first columns ih =>
    unfold Play.columns
    refine .seq (untimed_jitter untimed) fun stray => ?_
    refine .seq (untimed_humanize untimed tick) fun played => ?_
    refine .seq (blind_cells untimed.blind played stray _ 0) fun _ => ?_
    exact .seq (.lift _) fun next => ih next

end Play
end Plectrum
