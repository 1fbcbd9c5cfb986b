/-
  Plectrum.Proofs.Crescendos
  ──────────────────────────
  **Where a crescendo begins.**

  A ramp is looked at only when a note starts: the start asks for the volume at its tick, and
  that moves the ramp on.  So the volume after some music is known from the notes that have
  started alone, and a crescendo begins at that volume.  A ramp whose end has passed counts as
  done only if a note has started since; otherwise the next crescendo begins where the ramp was
  left at the last start, or where it began itself.

  Main results:
    * `Loudness.after_ramp` — along some events a ramp is done, or stays;
    * `Move.walks_heard` — every move but a crescendo moves the loudness by the starts that it
      records, and by nothing else;
    * `Session.crescendo_start` — so a crescendo begins at the volume that the starts since the
      last one have left.
-/
import Plectrum.Proofs.Parts
import Plectrum.Proofs.Tempos
import Plectrum.Proofs.Walks

namespace Plectrum

/-! ## §1. What events make of the loudness. -/

/-- The start of a note, of whatever pitch. -/
def Happening.begins : Happening → Bool
  | .noteOn .. => true
  | _ => false

namespace Loudness

/-- Dynamics that have a loudness, and nothing else that counts. -/
def alone (l : Loudness) : Dynamics Datum := ⟨.null, .null, l.volume, l.ramp, #[]⟩

/-- The loudness after an event: the start of a note asks for the volume at its tick. -/
def heard (l : Loudness) (e : Event) : Except Fault Loudness :=
  if e.what.begins then (fun answer => answer.2.loudness) <$> l.alone.volumeAt e.tick else .ok l

/-- The loudness after some events. -/
def after (l : Loudness) (es : List Event) : Except Fault Loudness := es.foldlM heard l

end Loudness

/-- A ramp is over at a tick. -/
def VolumeRamp.Over (r : VolumeRamp Datum) (tick : Datum) : Prop :=
  Scalar.le r.endTick tick = .ok true

/-- What a question for the volume makes of the loudness depends on the loudness alone. -/
theorem Dynamics.volumeAt_alone (d : Dynamics Datum) (tick : Datum) :
    (fun answer => answer.2.loudness) <$> d.loudness.alone.volumeAt tick =
      (fun answer => answer.2.loudness) <$> d.volumeAt tick := by
  -- The tempo and its changes are never looked at.
  obtain ⟨initial, bpm, volume, ramp, changes⟩ := d
  cases ramp with
  | none => rfl
  | some r =>
    unfold volumeAt
    dsimp only [loudness, Loudness.alone]
    generalize Scalar.le r.endTick tick = past
    rcases past with f | _ | _
    · rfl
    · generalize Scalar.le r.startTick tick = begun
      rcases begun with f | _ | _
      · rfl
      · rfl
      · show _ <$> (r.valueAt tick >>= _) = _ <$> (r.valueAt tick >>= _)
        cases r.valueAt tick <;> rfl
    · rfl

/-- What is made of a result that goes well is made of one that goes well. -/
theorem map_ok {α β : Type} {g : α → β} {result : Except Fault α} {b : β}
    (well : g <$> result = .ok b) : ∃ a, result = .ok a ∧ g a = b := by
  cases result with
  | ok a => exact ⟨a, rfl, Except.ok.inj well⟩
  | error f => cases well

namespace Loudness

variable {l l' : Loudness} {e : Event} {es es' : List Event} {r : VolumeRamp Datum} {x : Datum}

theorem after_append (l : Loudness) (es es' : List Event) :
    l.after (es ++ es') = l.after es >>= fun l' => l'.after es' := List.foldlM_append

/-- Without starts the loudness stays. -/
theorem after_silent (silent : ∀ e ∈ es, e.what.begins = false) : l.after es = .ok l := by
  induction es with
  | nil => rfl
  | cons e es ih =>
    obtain ⟨here, there⟩ := List.forall_mem_cons.1 silent
    show (l.heard e >>= fun l' => l'.after es) = _
    unfold heard
    rw [here]
    exact ih there

/-- Without a ramp it stays too. -/
theorem heard_steady (x : Datum) (e : Event) : heard ⟨x, none⟩ e = .ok ⟨x, none⟩ := by
  unfold heard
  split <;> rfl

theorem after_steady (x : Datum) (es : List Event) : after ⟨x, none⟩ es = .ok ⟨x, none⟩ := by
  induction es with
  | nil => rfl
  | cons e es ih =>
    show (heard ⟨x, none⟩ e >>= fun l' => l'.after es) = _
    rw [heard_steady]
    exact ih

/-- An event ends a ramp if it is a start after the end of the ramp; otherwise the ramp stays. -/
theorem heard_ramp (hears : heard ⟨x, some r⟩ e = .ok l) :
    (e.what.begins = true ∧ r.Over e.tick ∧ l = ⟨r.endValue, none⟩) ∨
      (e.what.begins = true → ¬r.Over e.tick) ∧ l.ramp = some r := by
  unfold heard at hears
  cases begins : e.what.begins with
  | false =>
    rw [begins] at hears
    cases hears
    exact .inr ⟨nofun, rfl⟩
  | true =>
    rw [begins, if_pos rfl] at hears
    obtain ⟨answer, asked, same⟩ := map_ok hears
    unfold Dynamics.volumeAt alone at asked
    obtain ⟨past, compared, asked⟩ := bind_ok asked
    cases past with
    | true =>
      cases asked
      cases same
      exact .inl ⟨rfl, compared, rfl⟩
    | false =>
      have going : ¬r.Over e.tick := by
        unfold VolumeRamp.Over
        rw [compared]
        exact nofun
      refine .inr ⟨fun _ => going, ?_⟩
      obtain ⟨begun, -, asked⟩ := bind_ok asked
      cases begun with
      | true =>
        obtain ⟨volume, -, asked⟩ := bind_ok asked
        cases asked
        cases same
        rfl
      | false =>
        cases asked
        cases same
        rfl

/-- Along some events a ramp is done, for a note has started after its end, or it stays, for
none has. -/
theorem after_ramp (hears : after ⟨x, some r⟩ es = .ok l) :
    ((∃ e ∈ es, e.what.begins = true ∧ r.Over e.tick) ∧ l = ⟨r.endValue, none⟩) ∨
      (∀ e ∈ es, e.what.begins = true → ¬r.Over e.tick) ∧ l.ramp = some r := by
  -- The ramp goes through the induction as it is; only the volume at the last start moves.
  induction es generalizing x with
  | nil =>
    cases hears
    exact .inr ⟨(fun _ here => nomatch here), rfl⟩
  | cons e es ih =>
    obtain ⟨⟨y, ramp⟩, first, rest⟩ := bind_ok hears
    rcases heard_ramp first with ⟨begins, past, same⟩ | ⟨before, stays⟩
    · cases same
      change after _ es = _ at rest
      rw [after_steady] at rest
      cases rest
      exact .inl ⟨⟨e, List.mem_cons_self, begins, past⟩, rfl⟩
    · change ramp = some r at stays
      subst stays
      rcases ih rest with ⟨⟨e', here, ended⟩, same⟩ | ⟨none_, stays⟩
      · exact .inl ⟨⟨e', List.mem_cons_of_mem _ here, ended⟩, same⟩
      · exact .inr ⟨List.forall_mem_cons.2 ⟨before, none_⟩, stays⟩

end Loudness

/-! ## §2. Voices whose loudness follows their events. -/

/-- From one state of a voice to a later one the loudness moves by the events that were
recorded. -/
def Voice.Heard (v w : Voice) : Prop :=
  ∃ es : List Event, w.events = v.events ++ es.toArray ∧
    v.dynamics.loudness.after es = .ok w.dynamics.loudness

namespace Voice.Heard

variable {v w x : Voice}

theorem refl (v : Voice) : v.Heard v := ⟨[], Array.append_empty.symm, rfl⟩

/-- What records nothing and leaves the loudness alone. -/
theorem same (h : v.Heard w) (events : x.events = w.events)
    (loudness : x.dynamics.loudness = w.dynamics.loudness) : v.Heard x := by
  obtain ⟨es, gained, hears⟩ := h
  exact ⟨es, events.trans gained, loudness ▸ hears⟩

/-- An event that is recorded at the loudness that it makes. -/
theorem extended (h : v.Heard w) {d : Loudness} {e : Event} (bank : Bank)
    (hears : w.dynamics.loudness.heard e = .ok d) : v.Heard (w.extended d bank [e]) := by
  obtain ⟨es, gained, before⟩ := h
  refine ⟨es ++ [e], ?_, ?_⟩
  · have more : (w.extended d bank [e]).events = w.events ++ [e].toArray := rfl
    rw [more, gained, ← List.append_toArray, Array.append_assoc]
  · rw [Loudness.after_append, before]
    show (w.dynamics.loudness.heard e >>= fun l => l.after []) = _
    rw [hears]
    rfl

theorem timeless (v : Voice) : Voice.Timeless v.Heard :=
  ⟨fun _ _ _ here => here.same rfl rfl, fun _ _ _ here => here.same rfl rfl⟩

end Voice.Heard

/-- What a report cannot show is no mistake in the music. -/
theorem Dynamics.technical_fixed (places : Nat) (d : Datum) : Technical (fixed places d) := by
  cases d with
  | number q =>
    cases q with
    | ratio _ => exact .error rfl
    | _ => exact (Quantity.technical_toFloat _).bind fun _ => .pure _
  | text t => exact .error rfl
  | _ => exact .error rfl

namespace Play

variable {γ : Type} {v : Voice} {tick : Int} {index : Nat} {pitch : Quantity}

/-- An act that moves the loudness by what it records, if it goes well or fails as music does. -/
abbrev Hears {α : Type} (v : Voice) (act : Play γ α) : Prop :=
  Walks (fun f => f.kind.isMusical = true) v.Heard act

/-- A computation that cannot fail as music does may come before anything. -/
theorem hears_technical_bind {α β : Type} {p : Player γ} {result : Except Fault α}
    (technical : Technical result) {next : α → Play γ β}
    (h : ∀ a, (next a).Ensures p (fun _ q => v.Heard q.voice)
      fun f q => f.kind.isMusical = true → v.Heard q.voice) :
    (liftM result >>= next).Ensures p (fun _ q => v.Heard q.voice)
      fun f q => f.kind.isMusical = true → v.Heard q.voice := by
  rw [Act.ensures_lift_bind]
  refine ⟨fun a _ => h a, fun f failed musical => ?_⟩
  rw [(technical f failed).not_musical] at musical
  cases musical

/-- A question for the volume moves the loudness as the start of a note does. -/
theorem ensures_loudnessAt_heard (p : Player γ) (tick : Datum) :
    (onDynamics (Dynamics.loudnessAt tick)).Ensures p
      (fun _ q => ∃ d, q = p.extended d p.voice.sounding [] ∧ ∀ what : Happening,
        what.begins = true → p.voice.dynamics.loudness.heard ⟨tick, what⟩ = .ok d)
      fun f _ => f.Technical := by
  unfold onDynamics Dynamics.loudnessAt
  rw [Act.ensures_onPart, Act.ensures_state_bind, Act.ensures_lift_bind]
  constructor
  · rintro ⟨volume, d⟩ asked
    have same := Dynamics.volumeAt_alone p.voice.dynamics tick
    rw [asked] at same
    obtain ⟨l, rfl⟩ := Dynamics.volumeAt_withLoudness _ _ _ asked
    rw [Act.ensures_update_bind, Act.ensures_pure]
    refine ⟨l, ?_, ?_⟩
    · unfold Player.extended Voice.extended
      rw [Array.append_empty]
    · intro what begins
      unfold Loudness.heard
      rw [if_pos begins]
      exact same
  · intro f failed
    exact Dynamics.technical_volumeAt _ _ f failed

/-- A note moves the loudness if it starts. -/
theorem hears_note (tick pitch velocity : Datum) :
    Hears v (note tick pitch velocity : Play γ Unit) := by
  intro p here
  unfold note
  rw [ensures_requireOpen_bind]
  split
  · exact fun _ => here
  · rw [ensures_voice_bind]
    apply hears_technical_bind (Datum.technical_asNumber velocity)
    intro force
    -- A stop asks for no volume; a start asks at its own tick, and is recorded after that.
    split
    · rw [ensures_record]
      exact here.extended _ rfl
    · refine ((ensures_loudnessAt_heard p tick).mono (fun _ _ asked => asked) ?_).bind ?_
      · intro f _ technical musical
        rw [technical.not_musical] at musical
        cases musical
      · rintro volume _ ⟨d, rfl, hears⟩
        apply hears_technical_bind (Datum.technical_asNumber volume)
        intro factor
        apply hears_technical_bind (technical_scaledVelocity force factor)
        intro scaled
        rw [ensures_record, Player.extended_extended]
        exact here.extended _ (hears _ rfl)

theorem hears_setSounding (index : Nat) (sounds : Option Quantity) :
    Hears v (setSounding index sounds : Play γ Unit) := by
  intro p here
  unfold setSounding
  rw [ensures_changeVoice]
  exact here.same rfl rfl

theorem hears_strike (tick : Int) (index : Nat) (pitch : Quantity) (velocity : Int)
    (stray : Binary64) (closes : Bool) :
    Hears v (strike tick index pitch velocity stray closes : Play γ Unit) := by
  have struck : Hears v (muteOrSound tick index pitch velocity stray closes : Play γ Unit) := by
    unfold muteOrSound
    split
    · unfold mute
      split
      · exact (hears_note _ _ _).bind fun _ => hears_setSounding _ _
      · exact hears_setSounding _ _
    · unfold sound
      apply walks_voice_bind
      intro w _
      apply walks_lift_bind
      intro force _
      exact (hears_note _ _ _).bind fun _ => hears_setSounding _ _
  have cuts : Hears v (cut tick index : Play γ Unit) := by
    unfold cut
    apply walks_voice_bind
    intro w _
    split
    · exact hears_note _ _ _
    · exact (Act.Keeps.pure _).on
  unfold strike
  split
  · exact cuts.bind fun _ => struck
  · exact struck

theorem hears_stroke (tick : Int) (stray : Binary64) (frets : List (Option Int)) (s : Stroke) :
    Hears v (stroke tick stray frets s : Play γ Unit) := by
  unfold stroke
  apply walks_voice_bind
  intro w _
  split
  · split
    · exact (Act.Keeps.throw _).on
    · exact (Act.Keeps.pure _).on
  · split
    · apply walks_lift_bind
      intro pitch _
      exact hears_strike _ _ _ _ _ _
    · exact (Act.Keeps.pure _).on

theorem hears_cells (tick : Int) (stray : Binary64) (line : Nat) (column : Text) :
    Hears v (cells tick stray line column : Play γ Unit) := by
  induction column generalizing line with
  | nil => exact (Act.Keeps.pure _).on
  | cons l column ih =>
    apply Act.KeepsOn.bind
    · unfold cell
      split
      · exact (Act.Keeps.pure _).on
      · apply walks_voice_bind
        intro w _
        dsimp only
        split
        · exact (Act.Keeps.pure _).on
        · apply walks_lift_bind
          intro digit _
          apply walks_lift_bind
          intro note _
          exact hears_strike _ _ _ _ _ _
    · intro _
      exact ih (line + 1)

variable [ChanceSource γ]

theorem hears_passage (c : Passage) : Hears v (c.act : Play γ Unit) := by
  intro p here
  apply walks_passage c here
  intro sheet _
  cases sheet with
  | measures pattern parsed =>
    exact walks_playMeasures (Voice.Heard.timeless v) fun _ _ _ _ s _ tick _ stray =>
      hears_stroke tick stray _ s
  | grid g =>
    exact walks_playGrid (Voice.Heard.timeless v) fun column _ tick _ stray =>
      hears_cells tick stray 0 column.2

theorem hears_silence (chords : List Datum) : Hears v (play .silence chords : Play γ Unit) := by
  have silent : Hears v (playSilence : Play γ Unit) := by
    unfold playSilence
    apply walks_voice_bind
    intro w _
    apply walks_lift_bind
    intro clock _
    apply (walks_moved (Voice.Heard.timeless v) fun w => ⟨clock, w.skip, rfl⟩).bind
    intro _
    apply walks_lift_bind
    intro skip _
    exact walks_moved (Voice.Heard.timeless v) fun w => ⟨w.clock, skip, rfl⟩
  unfold play
  apply (keeps_requireOpen.on).bind
  intro _
  dsimp only
  split
  · exact (Act.Keeps.throw _).on.bind fun _ => silent
  · exact silent

theorem hears_rest (measures : Datum) : Hears v (rest measures : Play γ Unit) := by
  have silent : ∀ count, Hears v (rests count : Play γ Unit) := by
    intro count
    induction count with
    | zero => exact (Act.Keeps.pure _).on
    | succ count ih => exact (hears_silence []).bind fun _ => ih
  unfold rest
  split
  · exact silent _
  · exact (Act.Keeps.throw _).on

end Play

/-! ## §3. Crescendos. -/

/-- A voice on which a ramp begins. -/
def Voice.ramping (v : Voice) (r : VolumeRamp Datum) : Voice :=
  { v with dynamics := { v.dynamics with ramp := some r } }

/-- A crescendo begins a ramp on a voice: one beat before the clock, at the volume of the
moment. -/
structure VolumeRamp.Begins (r : VolumeRamp Datum) (factor : Datum) (v : Voice) : Prop where
  isOpen : v.finished = false
  early : ∃ tick, v.clock.sub v.config.ticks = .ok tick ∧ r.startTick = .number tick
  startValue : r.startValue = v.dynamics.volume
  endValue : Scalar.mul factor r.startValue = .ok r.endValue

/-- A ramp goes from the volume of the moment to a multiple of it. -/
theorem Dynamics.rampTo_values (d : Dynamics Datum) (factor startTick length : Datum)
    (shape : Shape.Choice Datum) :
    Yields (d.rampTo factor startTick length shape) fun r => r.startTick = startTick ∧
      r.startValue = d.volume ∧ Scalar.mul factor d.volume = .ok r.endValue := by
  unfold rampTo
  refine .bind fun negative _ => .check fun _ => .bind fun short _ => .check fun _ => ?_
  exact .bind fun _ _ => .bind fun endValue ends => .bind fun _ _ => .pure ⟨rfl, rfl, ends⟩

namespace Play

variable {γ : Type}

/-- What a crescendo makes of the dynamics.  Once the ramp has begun, only a number can be wrong
that the report shows. -/
theorem ensures_crescendo (factor startTick length : Datum) (shape : Shape.Choice Datum)
    {d : Dynamics Datum} :
    (Dynamics.crescendo factor startTick length shape).Ensures d
      (fun _ e => ∃ r : VolumeRamp Datum, r.startTick = startTick ∧ r.startValue = d.volume ∧
        Scalar.mul factor d.volume = .ok r.endValue ∧ e = { d with ramp := some r })
      fun f e => f.Technical ∨ e = d := by
  unfold Dynamics.crescendo
  rw [Act.ensures_state_bind, Act.ensures_lift_bind]
  constructor
  · intro r begun
    obtain ⟨tick, start, ends⟩ := Dynamics.rampTo_values _ _ _ _ _ r begun
    rw [Act.ensures_update_bind, Act.ensures_lift_bind]
    refine ⟨fun before _ => ?_, fun f failed => .inl (Dynamics.technical_fixed _ _ f failed)⟩
    rw [Act.ensures_lift_bind]
    refine ⟨fun after _ => ?_, fun f failed => .inl (Dynamics.technical_fixed _ _ f failed)⟩
    apply Act.ensures_report_bind
    · rw [Act.ensures_pure]
      exact ⟨r, tick, start, ends, rfl⟩
    · exact .inl rfl
  · exact fun _ _ => .inr rfl

/-- What a crescendo makes of a voice: a ramp begins on it.  Refused as a mistake in the music,
it leaves the voice as it was. -/
theorem ensures_cresc (factor measures : Datum) (shape : Shape.Choice Datum) {p : Player γ} :
    (cresc factor measures shape).Ensures p
      (fun _ q => ∃ r : VolumeRamp Datum, r.Begins factor p.voice ∧ q.voice = p.voice.ramping r)
      fun f q => f.kind.isMusical = true → q.voice = p.voice := by
  unfold cresc
  rw [ensures_requireOpen_bind]
  cases isOpen : p.voice.finished with
  | true => exact fun _ => rfl
  | false =>
    rw [if_neg Bool.false_ne_true, Act.ensures_lift_bind]
    refine ⟨fun count _ => ?_, fun _ _ _ => rfl⟩
    rw [ensures_voice_bind, Act.ensures_lift_bind]
    refine ⟨fun startTick early => ?_, fun _ _ _ => rfl⟩
    rw [Act.ensures_lift_bind]
    refine ⟨fun length _ => ?_, fun _ _ _ => rfl⟩
    have ramped : (onDynamics (Dynamics.crescendo factor (.number startTick) (.number length)
        shape) : Play γ _).Ensures p
        (fun _ q => ∃ r : VolumeRamp Datum, r.Begins factor p.voice ∧
          q.voice = p.voice.ramping r)
        fun f q => f.kind.isMusical = true → q.voice = p.voice := by
      unfold onDynamics
      rw [Act.ensures_onPart]
      refine (ensures_crescendo _ _ _ _).mono ?_ ?_
      · rintro _ _ ⟨r, tick, start, ends, rfl⟩
        exact ⟨r, ⟨isOpen, ⟨startTick, early, tick⟩, start, start ▸ ends⟩, rfl⟩
      · rintro f _ (technical | rfl) musical
        · rw [technical.not_musical] at musical
          cases musical
        · rfl
    exact ramped.bind fun _ q begins => (Act.ensures_pure _).2 begins

end Play

/-! ## §4. Moves. -/

/-- A crescendo. -/
def Move.isCresc : Move → Bool
  | .cresc .. => true
  | _ => false

section Moves

variable {γ : Type} [ChanceSource γ] {v : Voice}

/-- A change of tempo leaves the loudness as it is. -/
theorem Dynamics.keptByTempos_loudness (l : Loudness) :
    KeptByTempos fun d => d.loudness = l := by
  intro d here bpm tick
  unfold setTempo
  refine .bind fun stopped _ => ?_
  split
  · exact .bind fun _ failed => nomatch failed
  · exact .bind fun _ _ => .pure here

/-- Every move but a crescendo moves the loudness by what it records, and by nothing else. -/
theorem Move.walks_heard {m : Move} (other : m.isCresc = false) :
    Play.Hears v (m.act : Play γ Unit) := by
  have steady : m.isTempo = true → Play.Hears v (m.act : Play γ Unit) := by
    intro tempo p here
    -- Neither the events nor the loudness move.
    let Same (q : Player γ) : Prop := q.voice.events = p.voice.events ∧
      q.voice.dynamics.loudness = p.voice.dynamics.loudness
    have same : Act.Keeps Same (m.act : Play γ Unit) :=
      keeps_tempo (Dynamics.keptByTempos_loudness p.voice.dynamics.loudness)
        (fun _ kept => kept.2) (fun _ _ kept there => ⟨kept.1, there⟩) tempo
    refine (same p ⟨rfl, rfl⟩).mono ?_ ?_
    · exact fun _ q kept => here.same kept.1 kept.2
    · exact fun _ q kept _ => here.same kept.1 kept.2
  cases m with
  | play music chords =>
    cases music with
    | silence => exact Play.hears_silence chords
    | pattern pattern => exact Play.hears_passage (.pattern pattern chords)
    | other kindName => exact Play.hears_passage (.other kindName chords)
  | tab parts beats => exact Play.hears_passage (.tab parts beats)
  | rest measures => exact Play.hears_rest measures
  | tempo | rit => exact steady rfl
  | note tick pitch velocity => exact Play.hears_note tick pitch velocity
  | cresc => cases other

end Moves

/-! ## §5. Sessions. -/

section Sessions

variable {γ : Type} [ChanceSource γ] {part : Part} {desk after : Desk (Band γ)}
variable {factor measures : Datum} {shape : Shape.Choice Datum}

/-- A crescendo that goes well begins a ramp on its part. -/
theorem Call.cresc_begins (well :
    (Call.move part (.cresc factor measures shape)).perform.start desk = (.ok (), after)) :
    ∃ v r, desk.state.voice? part = some v ∧ r.Begins factor v ∧
      after.state.voice? part = some (v.ramping r) := by
  have contract : (Call.move part (.cresc factor measures shape)).perform.Ensures desk.state
      (fun _ b => ∃ v r, desk.state.voice? part = some v ∧ r.Begins factor v ∧
        b.voice? part = some (v.ramping r)) fun _ _ => True := by
    apply Perform.ensures_on
    · exact fun _ _ => True.intro
    · intro v plays
      refine (Play.ensures_cresc factor measures shape).mono ?_ fun _ _ _ => True.intro
      rintro _ q ⟨r, begins, same⟩
      refine ⟨v, r, plays, begins, ?_⟩
      rw [Band.voice_played_self plays, same]
  have outcome : ((Call.move part (.cresc factor measures shape)).perform.start desk).1 =
      .ok () := congrArg Prod.fst well
  have begins := contract.of_ok outcome
  rw [well] at begins
  exact begins

/-- The loudness of a part follows its events as long as no crescendo goes well on it. -/
theorem Session.run_heard {v u : Voice} {calls : List Call}
    (plays : desk.state.voice? part = some v) (graceful : Graceful calls desk)
    (between : ∀ m ∈ succeeded part calls desk, m.isCresc = false)
    (playsAfter : (run calls desk).state.voice? part = some u) (isOpen : u.finished = false) :
    v.Heard u := by
  -- Nothing is said of a closed part, whose events are gone, nor after another crescendo.
  let Follows (done : List Move) (w : Voice) : Prop :=
    w.finished = true ∨ ((∀ m ∈ done, m.isCresc = false) → v.Heard w)
  have moves : ∀ m, .move part m ∈ calls → ∀ done (p : Player γ), Follows done p.voice →
      m.act.Ensures p (fun _ q => Follows (done ++ [m]) q.voice)
        fun f q => f.kind.isMusical = true → Follows done q.voice := by
    intro m _ done p here
    rcases here with finished | heard
    · refine (m.ensures_lasting Voice.Evolved.lasting p).mono ?_ ?_
      · exact fun _ q evolved => .inl (evolved.finished.trans finished)
      · exact fun _ q evolved _ => .inl (evolved.finished.trans finished)
    · by_cases none_ : ∀ m ∈ done, m.isCresc = false
      · cases cresc : m.isCresc with
        | false =>
          refine (m.walks_heard cresc p (heard none_)).mono ?_ ?_
          · exact fun _ q there => .inr fun _ => there
          · exact fun _ q there musical => .inr fun _ => there musical
        | true =>
          cases m with
          | cresc factor measures shape =>
            refine (Play.ensures_cresc factor measures shape).mono ?_ ?_
            · intro _ q _
              refine .inr fun all => ?_
              have last := all _ (List.mem_append_right done List.mem_cons_self)
              rw [cresc] at last
              cases last
            · intro f q same musical
              rw [same musical]
              exact .inr heard
          | _ => cases cresc
      · refine (Act.Ensures.trivial m.act p).mono ?_ ?_
        · exact fun _ q _ => .inr fun all =>
            absurd (fun m here => all m (List.mem_append_left _ here)) none_
        · exact fun _ q _ _ => .inr fun all => absurd all none_
  have start : Seated Follows [] (desk.state.voice? part) := by
    rw [plays]
    exact .inr fun _ => .refl v
  have new : desk.state.voice? part = none → ∀ w : Voice, w.New → Follows [] w := by
    intro missing
    rw [plays] at missing
    cases missing
  have follows : Seated Follows ([] ++ succeeded part calls desk)
      ((run calls desk).state.voice? part) :=
    run_part new (fun _ _ _ => .inl rfl) moves graceful start
  rw [playsAfter] at follows
  rcases follows with finished | heard
  · rw [isOpen] at finished
    cases finished
  · exact heard between

/-- **Where a crescendo begins.**  Between two crescendos on a part the volume moves with the
starts of notes alone, so the second begins at the volume that the starts since the first have
left: at the end of the first ramp if a note has started since that ramp was over, and where
the first ramp began if none has started at all. -/
theorem Session.crescendo_start {first last : Desk (Band γ)} {calls : List Call}
    {factor' measures' : Datum} {shape' : Shape.Choice Datum}
    (begins :
      (Call.move part (.cresc factor measures shape)).perform.start desk = (.ok (), first))
    (graceful : Graceful calls first)
    (between : ∀ m ∈ succeeded part calls first, m.isCresc = false)
    (next : (Call.move part (.cresc factor' measures' shape')).perform.start (run calls first) =
      (.ok (), last)) :
    ∃ v r u r' es, r.Begins factor v ∧ first.state.voice? part = some (v.ramping r) ∧
      (run calls first).state.voice? part = some u ∧ u.events = v.events ++ es.toArray ∧
      r'.Begins factor' u ∧ last.state.voice? part = some (u.ramping r') ∧
      Loudness.after ⟨r.startValue, some r⟩ es = .ok ⟨r'.startValue, u.dynamics.ramp⟩ ∧
      ((∃ e ∈ es, e.what.begins = true ∧ r.Over e.tick) → r'.startValue = r.endValue) ∧
      ((∀ e ∈ es, e.what.begins = false) → r'.startValue = r.startValue) := by
  obtain ⟨v, r, -, ramp, playsFirst⟩ := Call.cresc_begins begins
  obtain ⟨u, r', playsLast, ramp', playsAfter⟩ := Call.cresc_begins next
  obtain ⟨es, gained, hears⟩ :=
    run_heard playsFirst graceful between playsLast ramp'.isOpen
  have hears : Loudness.after ⟨r.startValue, some r⟩ es =
      .ok ⟨r'.startValue, u.dynamics.ramp⟩ := by
    rw [ramp.startValue, ramp'.startValue]
    exact hears
  refine ⟨v, r, u, r', es, ramp, playsFirst, playsLast, gained, ramp', playsAfter, hears, ?_, ?_⟩
  · rintro ⟨e, here, begins, past⟩
    rcases Loudness.after_ramp hears with ⟨-, done⟩ | ⟨before, -⟩
    · exact congrArg Loudness.volume done
    · exact absurd past (before e here begins)
  · intro silent
    have same := hears.symm.trans (Loudness.after_silent silent)
    exact congrArg Loudness.volume (Except.ok.inj same)

end Sessions

/-! ## §6. Two crescendos. -/

/-- A new band of one string. -/
def swellStart : Except Fault (Desk (Band Script)) :=
  Session.begin [] [("strings", .list [.whole 40])]

/-- Half the volume, over one measure. -/
def fade : Call :=
  .move .master (.cresc (.number (.float (.ofQuotient 1 2))) (.whole 1) (.datum (.text "linear")))

/-- Silence until the ramp is over, and a stroke after that. -/
def struckCalls : List Call :=
  [.move .master (.rest (.whole 2)),
   .move .master (.play (.pattern ⟨[⟨1, [⟨1, 80⟩]⟩]⟩) [.list [.whole 3]])]

/-- Silence alone. -/
def silentCalls : List Call := [.move .master (.rest (.whole 4))]

/-- Two fades with some calls between them, all of which go well, and no crescendo among them.
The ramp of the first is over when that of the second begins. -/
structure Fades (calls : List Call) (desk first last : Desk (Band Script))
    (r r' : VolumeRamp Datum) : Prop where
  created : swellStart = .ok desk
  begins : fade.perform.start desk = (.ok (), first)
  flawless : Session.Flawless calls first
  between : ∀ m ∈ Session.succeeded .master calls first, m.isCresc = false
  next : fade.perform.start (Session.run calls first) = (.ok (), last)
  ramp : first.state.master.dynamics.ramp = some r
  ramp' : last.state.master.dynamics.ramp = some r'
  past : r.Over r'.startTick

theorem over_of_seen {r : VolumeRamp Datum} {tick : Datum}
    (seen : (Scalar.le r.endTick tick).toOption = some true) : r.Over tick := by
  unfold VolumeRamp.Over
  cases compared : Scalar.le r.endTick tick with
  | ok past =>
    rw [compared] at seen
    rw [Option.some.inj seen]
  | error f =>
    rw [compared] at seen
    cases seen

/-- What is seen of two fades, and of their ramps, shows that there are such. -/
theorem exists_fades (calls : List Call)
    (look : Desk (Band Script) → VolumeRamp Datum → VolumeRamp Datum → Bool)
    (seen : (swellStart.toOption.map fun desk =>
      let first := fade.perform.start desk
      let last := fade.perform.start (Session.run calls first.2)
      ([first.1.toBool, last.1.toBool, decide (Session.Flawless calls first.2),
          (Session.succeeded .master calls first.2).all (!·.isCresc)],
        first.2.state.master.dynamics.ramp.map fun r =>
          last.2.state.master.dynamics.ramp.map fun r' =>
            ((Scalar.le r.endTick r'.startTick).toOption, look first.2 r r'))) =
      some ([true, true, true, true], some (some (some true, true)))) :
    ∃ desk first last r r', Fades calls desk first last r r' ∧ look first r r' = true := by
  obtain ⟨desk, created, seen⟩ := exists_ok_of_seen seen
  simp only [Prod.mk.injEq, List.cons.injEq, and_true] at seen
  obtain ⟨⟨well, well', flawless, between⟩, seen⟩ := seen
  obtain ⟨r, ramp, seen⟩ := Option.map_eq_some_iff.1 seen
  obtain ⟨r', ramp', seen⟩ := Option.map_eq_some_iff.1 seen
  simp only [Prod.mk.injEq] at seen
  obtain ⟨past, seen⟩ := seen
  obtain ⟨_, ran⟩ := exists_ok_of_toBool well
  obtain ⟨_, ran'⟩ := exists_ok_of_toBool well'
  have between : ∀ m ∈ Session.succeeded .master calls (fade.perform.start desk).2,
      m.isCresc = false := by
    intro m here
    have other := List.all_eq_true.1 between m here
    rwa [Bool.not_eq_true'] at other
  exact ⟨desk, _, _, r, r', ⟨created, Prod.ext ran rfl, of_decide_eq_true flawless, between,
    Prod.ext ran' rfl, ramp, ramp', over_of_seen past⟩, seen⟩

/-- Whether a note has started since some point, after the end of a ramp. -/
def startsAfter (r : VolumeRamp Datum) (before now : Voice) : Bool :=
  (now.events.toList.drop before.events.size).any fun e =>
    e.what.begins && (Scalar.le r.endTick e.tick).toOption == some true

/-- After the stroke the second fade begins where the first ended. -/
theorem fade_counted :
    ∃ desk first last r r', Fades struckCalls desk first last r r' ∧
      r'.startValue = r.endValue := by
  obtain ⟨desk, first, last, r, r', fades, starts⟩ := exists_fades struckCalls
    (fun first r _ =>
      startsAfter r first.state.master (Session.run struckCalls first).state.master)
    (by decide +kernel)
  obtain ⟨v, r₁, u, r₂, es, -, plays, playsNext, gained, -, plays', -, counted, -⟩ :=
    Session.crescendo_start fades.begins fades.flawless.graceful fades.between fades.next
  have start : first.state.master = v.ramping r₁ := Option.some.inj plays
  have now : (Session.run struckCalls first).state.master = u := Option.some.inj playsNext
  have stop : last.state.master = u.ramping r₂ := Option.some.inj plays'
  obtain rfl : r₁ = r := by
    have ramp := fades.ramp
    rw [start] at ramp
    exact Option.some.inj ramp
  obtain rfl : r₂ = r' := by
    have ramp := fades.ramp'
    rw [stop] at ramp
    exact Option.some.inj ramp
  have since : u.events.toList.drop v.events.size = es := by
    rw [gained, Array.toList_append, ← Array.length_toList, List.drop_left]
  unfold startsAfter at starts
  rw [now, start] at starts
  change (u.events.toList.drop v.events.size).any _ = true at starts
  rw [since] at starts
  obtain ⟨e, here, starts⟩ := List.any_eq_true.1 starts
  obtain ⟨begins, past⟩ := Bool.and_eq_true_iff.1 starts
  have met : ∃ e ∈ es, e.what.begins = true ∧ r₁.Over e.tick :=
    ⟨e, here, begins, over_of_seen (beq_iff_eq.1 past)⟩
  exact ⟨desk, first, last, r₁, r₂, fades, counted met⟩

/-- After silence it begins where the first began: the fade that was over is forgotten. -/
theorem fade_forgotten :
    ∃ desk first last r r', Fades silentCalls desk first last r r' ∧
      r'.startValue ≠ r.endValue := by
  obtain ⟨desk, first, last, r, r', fades, seen⟩ := exists_fades silentCalls
    (fun _ r r' => r'.startValue.asNumber.toOption != r.endValue.asNumber.toOption)
    (by decide +kernel)
  refine ⟨desk, first, last, r, r', fades, fun same => ?_⟩
  rw [same, bne_self_eq_false] at seen
  cases seen

end Plectrum
