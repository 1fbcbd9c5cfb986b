/-
  Plectrum.Proofs.ShiftedMeasures
  ───────────────────────────────
  **A measure sounds the same wherever it is played.**

  Two voices of the same settings, on which nothing strays, play the same pattern at two places in
  time.  If as much sounds on them and they are as loud, they do the same, so many ticks apart: the
  clocks differ by a number of ticks, and if it is even, so do the nearest ticks of all written
  times.  What they played before does not matter, for a last strike holds no strike back; and the
  start does not hold one back either, because a clock is not before it.

  Main results:
    * `Play.apart_note` — a note is recorded on both, so many ticks apart;
    * `Play.apart_group` — and so is all that a group does;
    * `Play.endShifted_play` — and so is a whole play, with the clocks at its end;
    * `Session.measures_apart` — at any two points of two sessions.
-/
import Plectrum.Proofs.BeatClock
import Plectrum.Proofs.EqualVolumes

namespace Plectrum

/-! ## §1. Voices apart in time. -/

/-- The event some ticks later. -/
def Event.movedBy (d : Int) (e : Event) : Event := ⟨.whole (e.wholeTick + d), e.what⟩

/-- Volumes that give any force that is a double the same velocity, or none. -/
def Datum.AsLoudAs (volume volume' : Datum) : Prop :=
  ∀ x : Binary64, (volume.asNumber >>= Play.scaledVelocity (.float x)).toOption =
    (volume'.asNumber >>= Play.scaledVelocity (.float x)).toOption

/-- Both are numbers, and they are equal. -/
def Datum.SameNumber (volume volume' : Datum) : Prop :=
  ∃ p ∈ volume.asNumber.toOption, ∃ q ∈ volume'.asNumber.toOption,
    (p.IsReal ∧ q.IsReal) ∧ p.same q = true

instance (volume volume' : Datum) : Decidable (volume.SameNumber volume') :=
  inferInstanceAs (Decidable (∃ p ∈ volume.asNumber.toOption, _))

/-- Equal volumes do. -/
theorem Datum.AsLoudAs.of_sameNumber {volume volume' : Datum}
    (equal : volume.SameNumber volume') : volume.AsLoudAs volume' := by
  have read : ∀ (volume : Datum), ∀ p ∈ volume.asNumber.toOption, volume = .number p := by
    intro volume p told
    cases volume with
    | number q => exact congrArg Datum.number (Option.some.inj told)
    | _ => cases told
  obtain ⟨p, told, q, told', ⟨real, real'⟩, same⟩ := equal
  cases read volume p told
  cases read volume' q told'
  exact fun x => Play.scaledVelocity_same x real real' same

/-- Two voices on which the same has been played, some ticks apart, since they had some events.
Both go on in the same way: nothing strays, no strike is held back, and no ramp is active. -/
structure Voice.Apart (d : Int) (before before' : List Event) (v w : Voice) : Prop where
  config : w.config = v.config
  roots : w.roots = v.roots
  finished : w.finished = v.finished
  sounding : w.sounding = v.sounding
  steady : v.config.IsSteady
  resolution : v.config.ticks.integer? = some v.config.beatTicks
  positive : 0 < v.config.beatTicks
  measure : v.measure = .whole v.config.measureTicks ∧ w.measure = .whole v.config.measureTicks
  clock : ∃ c : Int, (v.clock = .whole c ∧ 0 ≤ c) ∧ w.clock = .whole (c + d) ∧ 0 ≤ c + d
  prompt : v.lastStrike.Prompt
  prompt' : w.lastStrike.Prompt
  rampless : v.dynamics.ramp = none
  rampless' : w.dynamics.ramp = none
  loud : v.dynamics.volume.AsLoudAs w.dynamics.volume
  events : ∃ es : List Event, (∀ e ∈ es, e.tick = .whole e.wholeTick) ∧
    v.events.toList = before ++ es ∧ w.events.toList = before' ++ es.map (Event.movedBy d)

namespace Play

variable {γ α β : Type} {d : Int} {before before' : List Event}

/-- Two players whose voices are some ticks apart. -/
abbrev Shifted (d : Int) (before before' : List Event) (p p' : Player γ) : Prop :=
  p.voice.Apart d before before' p'.voice

/-! ## §2. Notes. -/

/-- What comes after a look at both voices. -/
theorem apart_voice_bind {next : Voice → Play γ α} {next' : Voice → Play γ β} {W : α → β → Prop}
    (h : ∀ v w : Voice, v.Apart d before before' w →
      Act.Parallel (Shifted d before before') W (next v) (next' w)) :
    Act.Parallel (Shifted d before before') W (voice >>= next) (voice >>= next') :=
  fun desk desk' related => h _ _ related desk desk' related

theorem apart_requireOpen :
    Act.Parallel (Shifted d before before') Eq (requireOpen : Play γ Unit) requireOpen := by
  unfold requireOpen
  refine apart_voice_bind fun v w apart => ?_
  rw [apart.finished]
  split
  · exact .throw _ _
  · exact .pure rfl

theorem apart_record (n : Int) (what : Happening) :
    Act.Parallel (Shifted d before before') Eq (record (.whole n) what : Play γ Unit)
      (record (.whole (n + d)) what) := by
  refine .update fun p p' apart => ?_
  obtain ⟨es, ticks, events, events'⟩ := apart.events
  refine { apart with events := ⟨es ++ [⟨.whole n, what⟩], ?_, ?_, ?_⟩ }
  · exact List.forall_mem_append.2 ⟨ticks, List.forall_mem_singleton.2 rfl⟩
  · rw [Array.toList_push, events, List.append_assoc]
  · rw [Array.toList_push, events', List.append_assoc, List.map_append]
    rfl

/-- Asked for their volumes, both tell what they have. -/
theorem apart_loudness (tick tick' : Datum) :
    Act.Parallel (Shifted d before before') Datum.AsLoudAs
      (onDynamics (Dynamics.loudnessAt tick) : Play γ Datum)
      (onDynamics (Dynamics.loudnessAt tick')) := by
  have told : ∀ (desk : Desk (Player γ)) tick, desk.state.voice.dynamics.ramp = none →
      (onDynamics (Dynamics.loudnessAt tick) : Play γ Datum).start desk =
        (.ok desk.state.voice.dynamics.volume, desk) := by
    intro desk tick none_
    have volume : desk.state.voice.dynamics.volumeAt tick =
        .ok (desk.state.voice.dynamics.volume, desk.state.voice.dynamics) := by
      unfold Dynamics.volumeAt
      rw [none_]
    have asked : (Dynamics.loudnessAt tick).start ⟨desk.state.voice.dynamics, desk.journal⟩ =
        (.ok desk.state.voice.dynamics.volume, ⟨desk.state.voice.dynamics, desk.journal⟩) := by
      unfold Dynamics.loudnessAt
      rw [Act.start_bind, Act.start_state]
      dsimp only
      rw [Act.start_bind, Act.start_lift, volume]
      rfl
    unfold onDynamics Act.onPart
    rw [Act.start_ofStart, asked]
  intro desk desk' apart
  rw [told desk tick apart.rampless, told desk' tick' apart.rampless']
  exact ⟨apart.loud, apart⟩

/-- A note that is ended, or started with a force that is a double, is recorded on both. -/
theorem apart_note (n : Int) (pitch force : Quantity)
    (kind : force.le (.whole 0) = true ∨ ∃ x, force = .float x) :
    Act.Parallel (Shifted d before before') Eq
      (note (.whole n) (.number pitch) (.number force) : Play γ Unit)
      (note (.whole (n + d)) (.number pitch) (.number force)) := by
  -- The volume is read as a number and scales the force in one step.
  have merge : ∀ (volume : Datum) (next : Int → Play γ Unit),
      (liftM volume.asNumber >>= fun q => liftM (scaledVelocity force q) >>= next) =
        (liftM (volume.asNumber >>= scaledVelocity force) >>= next : Play γ Unit) := by
    intro volume next
    cases volume.asNumber <;> rfl
  unfold note
  refine .bind_same apart_requireOpen fun _ => apart_voice_bind fun v w apart => ?_
  have channel : w.channel = v.channel := by
    unfold Voice.channel
    rw [apart.config]
  rw [channel]
  refine .lift_bind fun force' same => ?_
  cases same
  split
  · exact apart_record n _
  · next above =>
    obtain ⟨x, rfl⟩ := kind.resolve_left above
    refine .bind (apart_loudness _ _) fun volume volume' loud => ?_
    rw [merge, merge]
    exact .bind_same (.lift (.of_toOption (loud x))) fun scaled => apart_record n _

/-! ## §3. Strikes. -/

theorem apart_setSounding (index : Nat) (sounds : Option Quantity) :
    Act.Parallel (Shifted d before before') Eq (setSounding index sounds : Play γ Unit)
      (setSounding index sounds) :=
  .update fun _ _ apart =>
    { apart with sounding := congrArg (·.set index sounds) apart.sounding }

/-- What sounds on a string is the same on both, so the same note is ended. -/
theorem apart_cut (n : Int) (index : Nat) :
    Act.Parallel (Shifted d before before') Eq (cut n index : Play γ Unit) (cut (n + d) index) := by
  unfold cut
  refine apart_voice_bind fun v w apart => ?_
  rw [apart.sounding]
  split
  · exact apart_note n _ _ (.inl rfl)
  · exact .pure rfl

/-- Without a spread of velocities, the force of a velocity above zero is a double. -/
theorem strayed_float {spread : Quantity} (none_ : spread.isZero = true) {velocity : Int}
    (above : 0 < velocity) (stray : Binary64) :
    Yields (strayed spread velocity stray) fun force => ∃ x, force = .float x := by
  unfold strayed
  rw [if_pos (Quantity.lt_whole_of_isZero none_ above)]
  show Yields (Quantity.onFloats Binary64.add (.whole velocity) (.float stray)) _
  exact .bind fun x _ => .bind fun y _ => .pure ⟨_, rfl⟩

theorem apart_muteOrSound (n : Int) (index : Nat) (pitch : Quantity) (velocity : Int)
    (stray : Binary64) :
    Act.Parallel (Shifted d before before') Eq
      (muteOrSound n index pitch velocity stray true : Play γ Unit)
      (muteOrSound (n + d) index pitch velocity stray true) := by
  unfold muteOrSound
  split
  · exact apart_setSounding index none
  · next above =>
    unfold sound
    refine apart_voice_bind fun v w apart => ?_
    rw [apart.config]
    refine .lift_bind fun force strays => ?_
    -- Equal volumes may be of two kinds, and scale only a double alike.
    have double := strayed_float apart.steady.2 (Int.not_le.1 above) stray force strays
    exact .bind_same (apart_note n _ _ (.inr double)) fun _ => apart_setSounding index _

theorem apart_stroke (n : Int) (stray : Binary64) (frets : List (Option Int)) (s : Stroke) :
    Act.Parallel (Shifted d before before') Eq (stroke n stray frets s : Play γ Unit)
      (stroke (n + d) stray frets s) := by
  unfold stroke
  refine apart_voice_bind fun v w apart => ?_
  have count : w.stringCount = v.stringCount := congrArg List.length apart.roots
  rw [apart.roots, count]
  split
  · split
    · exact .throw _ _
    · exact .pure rfl
  · split
    · refine .lift_bind fun pitch _ => ?_
      exact .bind_same (apart_cut n _) fun _ => apart_muteOrSound n _ _ _ _
    · exact .pure rfl

/-! ## §4. Groups and measures. -/

section Measures

variable [ChanceSource γ] {desk : Desk (Player γ)}

/-- Where nothing strays and no strike is held back, a group is struck at the tick nearest to its
time, or at the start. -/
theorem start_group_prompt {frets : List (Option Int)} {g : Group} {nominal : Quantity} {n : Int}
    (steady : desk.state.voice.config.IsSteady) (prompt : desk.state.voice.lastStrike.Prompt)
    (time : offsetTick desk.state.voice g.offset = .ok nominal) (rounds : nominal.nearest = .ok n) :
    (group frets g).start desk =
      (g.strokes.forM (stroke (max 0 n) .zero frets)).start (landedAt desk nominal (max 0 n)) := by
  have lands := start_humanize_landing steady (prompt.landing rounds)
  have still : (landedAt desk nominal (max 0 n)).state.voice.config.IsSteady := steady
  unfold group
  show (liftM (offsetTick desk.state.voice g.offset) >>= _ : Play γ Unit).start desk = _
  rw [Act.start_bind, Act.start_lift, time]
  dsimp only
  rw [Act.start_bind, lands]
  dsimp only
  rw [Act.start_bind, start_jitter_steady still]

/-- A group after the downbeat does the same on both: an even number of ticks takes along what is
rounded, and no time is before the start. -/
theorem apart_group (even : Even d) (frets : List (Option Int)) {g : Group} (after : 1 ≤ g.offset) :
    Act.Parallel (Shifted d before before') Eq (group frets g : Play γ Unit) (group frets g) := by
  intro desk desk' apart
  obtain ⟨c, ⟨clock, start⟩, clock', start'⟩ := apart.clock
  let beats : Rat := (g.offset - 1) * desk.state.voice.config.beatTicks
  have forward : 0 ≤ beats :=
    mul_nonneg (sub_nonneg.2 after) (Int.cast_nonneg apart.positive.le)
  -- Times after the downbeat are not before the start, so nothing is held at it.
  have rounded : ∀ c : Int, 0 ≤ c → max 0 (nearestInt (c + beats)) = nearestInt (c + beats) := by
    intro c start
    have ahead : ((0 : Int) : Rat) ≤ c + beats := add_nonneg (Int.cast_nonneg start) forward
    exact max_eq_right ((isNearest_intCast 0).mono (nearestInt_isNearest _) ahead)
  have time : offsetTick desk.state.voice g.offset = .ok (.ratio (c + beats)) :=
    offsetTick_exact apart.resolution clock g.offset
  have time' : offsetTick desk'.state.voice g.offset = .ok (.ratio ((c + d : Int) + beats)) :=
    offsetTick_exact (apart.config ▸ apart.resolution) clock' g.offset
  -- Only an even number of ticks keeps the choice at a half.
  have shifted : nearestInt ((c + d : Int) + beats) = nearestInt (c + beats) + d := by
    rw [← nearestInt_add_even _ even]
    congr 1
    push_cast
    ring
  rw [start_group_prompt apart.steady apart.prompt time rfl,
    start_group_prompt (apart.config ▸ apart.steady) apart.prompt' time' rfl,
    rounded c start, rounded (c + d) start', shifted]
  have prompt : (⟨.ratio (c + beats), nearestInt (c + beats)⟩ : LastStrike).Prompt :=
    rounded c start ▸ LastStrike.prompt_of_nearest rfl
  have prompt' : (⟨.ratio ((c + d : Int) + beats), nearestInt (c + beats) + d⟩ :
      LastStrike).Prompt := by
    rw [← shifted, ← rounded (c + d) start']
    exact LastStrike.prompt_of_nearest rfl
  exact Act.Parallel.forM (fun s _ => apart_stroke _ .zero frets s) _ _
    { apart with prompt, prompt' }

/-- A measure takes both clocks along. -/
theorem apart_playMeasure (even : Even d) {pattern : Pattern}
    (after : ∀ g ∈ pattern.groups, 1 ≤ g.offset) (frets : List (Option Int)) :
    Act.Parallel (Shifted d before before') Eq (playMeasure pattern frets : Play γ Unit)
      (playMeasure pattern frets) := by
  unfold playMeasure
  refine .bind_same (.forM fun g here => apart_group even frets (after g here)) fun _ => ?_
  refine apart_voice_bind fun v w apart => ?_
  obtain ⟨c, ⟨clock, start⟩, clock', start'⟩ := apart.clock
  have forward := Config.measureTicks_nonneg apart.positive.le
  rw [clock, clock', apart.measure.1, apart.measure.2]
  refine .bind (V := fun q q' => q = .whole (c + v.config.measureTicks) ∧
    q' = .whole (c + d + v.config.measureTicks)) (.lift ⟨rfl, rfl⟩) ?_
  rintro _ _ ⟨rfl, rfl⟩
  refine .update fun p p' apart => ?_
  have moved : c + d + v.config.measureTicks = c + v.config.measureTicks + d := by omega
  exact { apart with clock := ⟨_, ⟨rfl, by omega⟩, congrArg Quantity.whole moved, by omega⟩ }

omit [ChanceSource γ] in
/-- A warning does not look at the clock. -/
theorem apart_warnBeyondMeasure (pattern : Pattern) :
    Act.Parallel (Shifted d before before') Eq (warnBeyondMeasure pattern : Play γ Unit)
      (warnBeyondMeasure pattern) := by
  unfold warnBeyondMeasure
  refine apart_voice_bind fun v w apart => ?_
  have name : w.name = v.name := congrArg Config.name apart.config
  have beats : w.beats = v.beats := congrArg (·.signature.beats) apart.config
  rw [name, beats]
  dsimp only
  split
  · exact .lift_bind fun reached _ => .report _ _ _
  · exact .pure rfl

/-- Measures without the report at their end. -/
def measuresOf (pattern : Pattern) (parsed : List (List (Option Int))) : Play γ Unit := do
  warnBeyondMeasure pattern
  changeVoice fun v => { v with skip := .whole 0 }
  parsed.forM (playMeasure pattern)

theorem apart_measuresOf (even : Even d) {pattern : Pattern}
    (after : ∀ g ∈ pattern.groups, 1 ≤ g.offset) (parsed : List (List (Option Int))) :
    Act.Parallel (Shifted d before before') Eq (measuresOf pattern parsed : Play γ Unit)
      (measuresOf pattern parsed) :=
  .bind_same (apart_warnBeyondMeasure pattern) fun _ =>
    .bind_same (.update fun _ _ apart => { apart with }) fun _ =>
      .forM fun frets _ => apart_playMeasure even after frets

end Measures

/-! ## §5. Reports. -/

/-- Two acts that do the same some ticks apart, and both go well or both fail as long as the clocks
that they end at can be written. -/
def EndShifted (d : Int) (before before' : List Event) (act act' : Play γ Unit) : Prop :=
  ∀ desk desk', Shifted d before before' desk.state desk'.state →
    let done := act.start desk
    let done' := act'.start desk'
    Shifted d before before' done.2.state done'.2.state ∧
      (done.2.state.voice.clock.isWritable = true → done'.2.state.voice.clock.isWritable = true →
        Act.BothEnd Eq done.1 done'.1)

/-- Acts that go on where others ended. -/
theorem EndShifted.bind {act : Play γ α} {act' : Play γ β} {next : α → Play γ Unit}
    {next' : β → Play γ Unit} {V : α → β → Prop}
    (first : Act.Parallel (Shifted d before before') V act act')
    (then_ : ∀ a b, V a b → EndShifted d before before' (next a) (next' b)) :
    EndShifted d before before' (act >>= next) (act' >>= next') := by
  intro desk desk' apart
  rw [Act.start_bind, Act.start_bind]
  have here := first desk desk' apart
  revert here
  cases act.start desk with
  | mk outcome later =>
    cases act'.start desk' with
    | mk outcome' later' =>
      rintro ⟨ends, apart⟩
      cases outcome with
      | error f =>
        cases outcome' with
        | error g => exact ⟨apart, fun _ _ => True.intro⟩
        | ok b => exact ends.elim
      | ok a =>
        cases outcome' with
        | error g => exact ends.elim
        | ok b => exact then_ a b ends later later' apart

/-- What is reported of some measures. -/
def playedReport (v : Voice) (count : Nat) : Wording :=
  [.shown v.name, ": played ", count, " measure(s), clock ", v.clock]

theorem playedReport_isWritable {v : Voice} (short : v.clock.isWritable = true) (count : Nat) :
    (playedReport v count).isWritable = (v.name.isWritable && Quantity.isShort count) := by
  show (v.name.isWritable && (true && (Quantity.isShort count &&
    (true && (v.clock.isWritable && true))))) = _
  rw [short]
  simp only [Bool.true_and, Bool.and_true]

/-- The report on measures differs in the clock, and whether it can be written does in nothing
else. -/
theorem endShifted_report (count : Nat) :
    EndShifted d before before'
      (voice >>= fun v => Act.report .debug .instrument (playedReport v count) : Play γ Unit)
      (voice >>= fun v => Act.report .debug .instrument (playedReport v count)) := by
  have reported : ∀ desk : Desk (Player γ), (voice >>= fun v =>
      Act.report .debug .instrument (playedReport v count) : Play γ Unit).start desk = _ :=
    fun desk => Act.start_report .debug .instrument (playedReport desk.state.voice count) desk
  intro desk desk' apart
  have name : desk'.state.voice.name = desk.state.voice.name := congrArg Config.name apart.config
  -- The wordings differ in nothing but the clock.
  have same : desk.state.voice.clock.isWritable = true →
      desk'.state.voice.clock.isWritable = true →
      (playedReport desk'.state.voice count).isWritable =
        (playedReport desk.state.voice count).isWritable := by
    intro short short'
    rw [playedReport_isWritable short, playedReport_isWritable short', name]
  rw [reported, reported]
  cases written : (playedReport desk.state.voice count).isWritable with
  | false =>
    cases written' : (playedReport desk'.state.voice count).isWritable with
    | false => exact ⟨apart, fun _ _ => True.intro⟩
    | true =>
      exact ⟨apart, fun short short' =>
        nomatch (written'.symm.trans (same short short')).trans written⟩
  | true =>
    cases written' : (playedReport desk'.state.voice count).isWritable with
    | false =>
      exact ⟨apart, fun short short' =>
        nomatch (written'.symm.trans (same short short')).trans written⟩
    | true => exact ⟨apart, fun _ _ => rfl⟩

variable [ChanceSource γ]

/-- A pattern that is played over chords does the same on both. -/
theorem endShifted_play (even : Even d) {pattern : Pattern}
    (after : ∀ g ∈ pattern.groups, 1 ≤ g.offset) (chords : List Datum) :
    EndShifted d before before' (play (.pattern pattern) chords : Play γ Unit)
      (play (.pattern pattern) chords) := by
  have parsed_ : ∀ parsed, (playMeasures pattern parsed : Play γ Unit) =
      measuresOf pattern parsed >>= fun _ => voice >>= fun v =>
        Act.report .debug .instrument (playedReport v parsed.length) := by
    intro parsed
    unfold playMeasures measuresOf
    simp only [bind_assoc]
    rfl
  unfold play
  refine .bind apart_requireOpen fun _ _ _ => ?_
  refine .bind (V := fun v w => v.Apart d before before' w)
    (fun _ _ apart => ⟨apart, apart⟩) fun v w apart => ?_
  rw [apart.roots]
  refine .bind (.lift (.refl _)) fun parsed _ same => ?_
  subst same
  rw [parsed_]
  exact .bind (apart_measuresOf even after parsed) fun _ _ _ => endShifted_report _

end Play

/-! ## §6. Sessions. -/

/-- Voices on which as much sounds, as loud: without a ramp, and both open or both finished. -/
structure Voice.Alike (v w : Voice) : Prop where
  finished : w.finished = v.finished
  sounding : w.sounding = v.sounding
  rampless : v.dynamics.ramp = none ∧ w.dynamics.ramp = none
  volume : v.dynamics.volume.SameNumber w.dynamics.volume

/-- Two voices have had the same events since they were two others, some ticks apart. -/
def Voice.EventsApart (d : Int) (v w v' w' : Voice) : Prop :=
  ∃ es : List Event, (∀ e ∈ es, e.tick = .whole e.wholeTick) ∧
    v'.events.toList = v.events.toList ++ es ∧
    w'.events.toList = w.events.toList ++ es.map (Event.movedBy d)

/-- What two voices have come to by the same music, some ticks apart: the same events, the same that
sounds, and clocks that are as far apart. -/
structure Voice.GrownApart (d : Int) (v w v' w' : Voice) : Prop where
  events : v.EventsApart d w v' w'
  sounding : w'.sounding = v'.sounding
  clock : ∃ c : Int, v'.clock = .whole c ∧ w'.clock = .whole (c + d)

theorem Voice.Apart.grownApart {d : Int} {v w v' w' : Voice}
    (apart : v'.Apart d v.events.toList w.events.toList w') : v.GrownApart d w v' w' := by
  obtain ⟨c, ⟨clock, -⟩, clock', -⟩ := apart.clock
  exact ⟨apart.events, apart.sounding, c, clock, clock'⟩

/-- Where two voices of one instrument are alike, and nothing strays on them, they are as far apart
as their clocks. -/
theorem Voice.Alike.apart {v w : Voice} {c c' : Int} (alike : v.Alike w)
    (config : w.config = v.config) (roots : w.roots = v.roots) (steady : v.config.IsSteady)
    (onBeat : v.OnBeat) (onBeat' : w.OnBeat) (prompt : v.Prompt) (prompt' : w.Prompt)
    (clock : v.clock = .whole c) (clock' : w.clock = .whole c') :
    v.Apart (c' - c) v.events.toList w.events.toList w := by
  have fromStart : ∀ {x : Voice} {n : Int}, x.OnBeat → x.clock = .whole n → 0 ≤ n := by
    intro x n onBeat now
    obtain ⟨b, start, here⟩ := onBeat.clock
    cases now.symm.trans here
    exact Int.mul_nonneg start onBeat.positive.le
  have moved : c + (c' - c) = c' := by omega
  refine
    { config, roots, steady
      finished := alike.finished
      sounding := alike.sounding
      resolution := onBeat.resolution
      positive := onBeat.positive
      measure := ⟨onBeat.measure, ?_⟩
      clock := ⟨c, ⟨clock, fromStart onBeat clock⟩, ?_⟩
      prompt := prompt steady.1
      prompt' := prompt' (config ▸ steady.1)
      rampless := alike.rampless.1
      rampless' := alike.rampless.2
      loud := .of_sameNumber alike.volume
      events := ⟨[], List.forall_mem_nil _, (List.append_nil _).symm, (List.append_nil _).symm⟩ }
  · rw [← config]
    exact onBeat'.measure
  · rw [moved]
    exact ⟨clock', fromStart onBeat' clock'⟩

/-- At every two points of sessions of declared calls, whatever their outcomes: two parts of one
instrument, whose resolution and lead-in are whole, have whole clocks, and at an even resolution an
even number of ticks lies between them.  If it is even, the parts are alike, and nothing strays on
them, then both play a pattern that does not begin before the downbeat in the same way, so many
ticks apart.  Both go well or both fail, as far as the clocks can be written. -/
theorem Session.measures_apart {γ : Type} [ChanceSource γ] {band band' : Band γ}
    (created : band.Created) (created' : band'.Created) {calls calls' : List Call}
    (declared : ∀ call ∈ calls, call.Declared) (declared' : ∀ call ∈ calls', call.Declared)
    (journal journal' : Journal) {part part' : Part} {v w : Voice}
    (plays : (run calls ⟨band, journal⟩).state.voice? part = some v)
    (plays' : (run calls' ⟨band', journal'⟩).state.voice? part' = some w)
    (config : w.config = v.config) (roots : w.roots = v.roots) (whole : v.config.Whole) :
    ∃ c c' : Int, v.clock = .whole c ∧ w.clock = .whole c' ∧
      (Even v.config.beatTicks → Even (c' - c)) ∧
      (Even (c' - c) → v.config.IsSteady → v.Alike w → ∀ (pattern : Pattern) (chords : List Datum),
        (∀ g ∈ pattern.groups, 1 ≤ g.offset) →
        let played := (Call.move part (.play (.pattern pattern) chords)).perform.start
          (run calls ⟨band, journal⟩)
        let played' := (Call.move part' (.play (.pattern pattern) chords)).perform.start
          (run calls' ⟨band', journal'⟩)
        ∃ v' w', played.2.state.voice? part = some v' ∧
          played'.2.state.voice? part' = some w' ∧ v.GrownApart (c' - c) w v' w' ∧
          (v'.clock.isWritable = true → w'.clock.isWritable = true →
            Act.BothEnd Eq played.1 played'.1)) := by
  have onBeat := throughout_onBeat created declared journal part v plays whole
  have onBeat' := throughout_onBeat created' declared' journal' part' w plays' (config ▸ whole)
  have prompt := throughout_prompt created calls journal part v plays
  have prompt' := throughout_prompt created' calls' journal' part' w plays'
  obtain ⟨b, -, clock⟩ := onBeat.clock
  obtain ⟨b', -, clock'⟩ := onBeat'.clock
  refine ⟨_, _, clock, clock', fun even => onBeat.even onBeat' config even clock clock', ?_⟩
  intro even steady alike pattern chords after played played'
  have apart := alike.apart config roots steady onBeat onBeat' prompt prompt' clock clock'
  obtain ⟨apart, ends⟩ := Play.endShifted_play even after chords
    ⟨⟨v, (run calls ⟨band, journal⟩).state.chance⟩, (run calls ⟨band, journal⟩).journal⟩
    ⟨⟨w, (run calls' ⟨band', journal'⟩).state.chance⟩, (run calls' ⟨band', journal'⟩).journal⟩ apart
  have here : played = _ := Perform.start_on plays _
  have there : played' = _ := Perform.start_on plays' _
  rw [here, there]
  exact ⟨_, _, Band.voice_played_self plays _, Band.voice_played_self plays' _, apart.grownApart,
    ends⟩

/-- A new band of one string. -/
def stringBand : Except Fault (Desk (Band Script)) :=
  Session.begin [] [("strings", .list [.whole 40])]

/-- A string is struck half a tick after the downbeat, and muted on the last beat. -/
def lateStroke : Pattern := ⟨[⟨1 + 1 / 384, [⟨1, 80⟩]⟩, ⟨4, [⟨1, 0⟩]⟩]⟩

/-- The late stroke on the open string. -/
def lateMeasure : Call := .move .master (.play (.pattern lateStroke) [.list [.whole 0]])

/-- A measure of silence. -/
def silentMeasure : Call := .move .master (.rest (.whole 1))

/-- The late stroke sounds the same after a silent measure, and after two played ones and a silent
one. -/
theorem lateStroke_apart :
    ∃ (desk : Desk (Band Script)) (v' w' : Voice), stringBand = .ok desk ∧
      let now := Session.run [silentMeasure] desk
      let now' := Session.run [lateMeasure, lateMeasure, silentMeasure] desk
      (lateMeasure.perform.start now).2.state.voice? .master = some v' ∧
      (lateMeasure.perform.start now').2.state.voice? .master = some w' ∧
      v'.events.toList.map Event.wholeTick = [768, 1344] ∧
      now.state.master.GrownApart 1536 now'.state.master v' w' := by
  have seen : (stringBand.toOption.map fun desk =>
      let now := Session.run [silentMeasure] desk
      let v := now.state.master
      let w := (Session.run [lateMeasure, lateMeasure, silentMeasure] desk).state.master
      (decide (v.config.ticks = .whole 192 ∧ v.config.lead = none ∧ v.config.IsSteady),
        decide (v.clock = .whole 768 ∧ w.clock = .whole 2304 ∧ w.roots = v.roots),
        decide (w.finished = v.finished ∧ w.sounding = v.sounding ∧
          (v.dynamics.ramp.isNone = true ∧ w.dynamics.ramp.isNone = true) ∧
          v.dynamics.volume.SameNumber w.dynamics.volume),
        (lateMeasure.perform.start now).2.state.master.events.toList.map Event.wholeTick)) =
      some (true, true, true, [768, 1344]) := by
    decide +kernel
  obtain ⟨desk, begun, seen⟩ := exists_ok_of_seen seen
  simp only [Prod.mk.injEq, decide_eq_true_eq, Option.isNone_iff_eq_none] at seen
  obtain ⟨⟨resolution, lead, steady⟩, ⟨clock, clock', roots⟩, ⟨finished, sounding, rampless,
    volume⟩, ticks⟩ := seen
  let calls' := [lateMeasure, lateMeasure, silentMeasure]
  have settings : ∃ v, desk.state.voice? .master = some v ∧ v.config = desk.state.master.config :=
    ⟨_, rfl, rfl⟩
  obtain ⟨_, ⟨⟩, config⟩ := Session.run_config [silentMeasure] settings
  obtain ⟨_, ⟨⟩, config'⟩ := Session.run_config calls' settings
  have declared : ∀ call ∈ [silentMeasure], call.Declared := List.forall_mem_singleton.2 True.intro
  have declared' : ∀ call ∈ calls', call.Declared := by
    intro call among
    simp only [calls', List.mem_cons, List.not_mem_nil, or_false] at among
    rcases among with rfl | rfl | rfl <;> exact True.intro
  have whole : (Session.run [silentMeasure] desk).state.master.config.Whole := by
    refine ⟨?_, fun beats leads => ?_⟩
    · rw [resolution]
      rfl
    · cases lead.symm.trans leads
  have created := Session.begin_created _ _ desk begun
  have plays : (Session.run [silentMeasure] desk).state.voice? .master = some _ := rfl
  have plays' : (Session.run calls' desk).state.voice? .master = some _ := rfl
  obtain ⟨c, c', here, there, -, same⟩ := Session.measures_apart created created declared declared'
    desk.journal desk.journal plays plays' (config'.trans config.symm) roots whole
  cases clock.symm.trans here
  cases clock'.symm.trans there
  obtain ⟨v', w', played, played', grown, -⟩ := same (by decide) steady
    ⟨finished, sounding, rampless, volume⟩ lateStroke [.list [.whole 0]] (by decide +kernel)
  cases played
  exact ⟨desk, _, w', begun, rfl, played', ticks, grown⟩

/-- A new band of one string and one tick for each beat, after a quarter of a beat. -/
def quarterLead : Except Fault (Desk (Band Script)) :=
  Session.begin [] [("strings", .list [.whole 40]), ("ticks", .whole 1),
    ("lead", .number (.float (.ofQuotient 1 4)))]

/-- The string is struck a little more than a quarter of a beat after the downbeat, and muted on the
second beat. -/
def justPastHalf : Pattern :=
  ⟨[⟨12500000000000001 / 10000000000000000, [⟨1, 80⟩]⟩, ⟨2, [⟨1, 0⟩]⟩]⟩

/-- After a fraction of a tick a time is rounded to a double, and four ticks later to another one:
what was just past a half is on it, and sounds a tick early. -/
theorem justPastHalf_early :
    ∃ desk, quarterLead = .ok desk ∧
      let measure : Call := .move .master (.play (.pattern justPastHalf) [.list [.whole 0]])
      let now := Session.run [measure] desk
      let v := desk.state.master
      let w := now.state.master
      v.clock = .float (.ofQuotient 1 4) ∧ w.clock = .float (.ofQuotient 17 4) ∧
      w.config = v.config ∧ w.roots = v.roots ∧ v.config.IsSteady ∧ v.Alike w ∧
      (∀ g ∈ justPastHalf.groups, 1 ≤ g.offset) ∧
      (measure.perform.start desk).1 = .ok () ∧ (measure.perform.start now).1 = .ok () ∧
      ¬v.EventsApart 4 w w (Session.run [measure] now).state.master := by
  let measure : Call := .move .master (.play (.pattern justPastHalf) [.list [.whole 0]])
  have seen : (quarterLead.toOption.map fun desk =>
      let now := Session.run [measure] desk
      let v := desk.state.master
      let w := now.state.master
      (decide (v.clock = .float (.ofQuotient 1 4) ∧ w.clock = .float (.ofQuotient 17 4) ∧
          w.roots = v.roots ∧ v.config.IsSteady),
        decide (w.finished = v.finished ∧ w.sounding = v.sounding ∧
          (v.dynamics.ramp.isNone = true ∧ w.dynamics.ramp.isNone = true) ∧
          v.dynamics.volume.SameNumber w.dynamics.volume),
        [(measure.perform.start desk).1, (measure.perform.start now).1].map Except.toBool,
        [v, w, (Session.run [measure] now).state.master].map fun v =>
          v.events.toList.map Event.wholeTick)) =
      some (true, true, [true, true], [[], [1, 1], [1, 1, 4, 5]]) := by
    decide +kernel
  obtain ⟨desk, begun, seen⟩ := exists_ok_of_seen seen
  simp only [Prod.mk.injEq, decide_eq_true_eq, Option.isNone_iff_eq_none, List.map_cons,
    List.cons.injEq] at seen
  obtain ⟨⟨clock, clock', roots, steady⟩, ⟨finished, sounding, rampless, volume⟩,
    ⟨played, played', -⟩, before, first, second, -⟩ := seen
  obtain ⟨⟨⟩, played⟩ := exists_ok_of_toBool played
  obtain ⟨⟨⟩, played'⟩ := exists_ok_of_toBool played'
  have settings : ∃ v, desk.state.voice? .master = some v ∧ v.config = desk.state.master.config :=
    ⟨_, rfl, rfl⟩
  obtain ⟨_, ⟨⟩, config⟩ := Session.run_config [measure] settings
  refine ⟨desk, begun, clock, clock', config, roots, steady,
    ⟨finished, sounding, rampless, volume⟩, by decide +kernel, played, played', ?_⟩
  rintro ⟨es, -, events, events'⟩
  have ticks : es.map Event.wholeTick = [1, 1] := by
    rw [events, List.map_append, before] at first
    exact first
  -- Four ticks later, both events would be on the fifth tick.
  have later : (es.map (Event.movedBy 4)).map Event.wholeTick = [5, 5] := by
    have moved := congrArg (List.map (· + 4)) ticks
    rw [List.map_map] at moved ⊢
    exact moved
  rw [events', List.map_append, first, later] at second
  exact absurd second (by decide)

end Plectrum
