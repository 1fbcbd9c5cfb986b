/-
  Plectrum.Proofs.Overruns
  ────────────────────────
  **When music in order cannot be finished.**

  At the end each note that still sounds is stopped at the clock.  A strike near the end
  of the last measure may have strayed beyond the clock, and then the stop would go back
  in time.  This is the one way in which music that is written in order fails to be
  finished for its order; without a spread of time it never happens.
-/
import Mathlib.Data.List.ReduceOption
import Plectrum.Proofs.Sessions
import Plectrum.Proofs.TimeOrder

namespace Plectrum

/-! ## §1. Mistimed music. -/

section Mistimed

variable {α β : Type} {result : Except Fault α} {next : α → Except Fault β}

/-- A computation that fails with a fault of timing. -/
def Mistimed (result : Except Fault α) : Prop := ∃ f, result = .error f ∧ f.kind = .timing

theorem Technical.not_mistimed (h : Technical result) : ¬Mistimed result := by
  rintro ⟨f, failed, timing⟩
  have technical := (h f failed).not_musical
  rw [timing] at technical
  cases technical

theorem mistimed_bind :
    Mistimed (result >>= next) ↔ Mistimed result ∨ ∃ a, result = .ok a ∧ Mistimed (next a) := by
  cases result with
  | ok a =>
    constructor
    · intro later
      exact .inr ⟨a, rfl, later⟩
    · rintro (⟨f, failed, -⟩ | ⟨_, ⟨rfl⟩, later⟩)
      · cases failed
      · exact later
  | error f =>
    constructor
    · rintro ⟨g, ⟨rfl⟩, timing⟩
      exact .inl ⟨f, rfl, timing⟩
    · rintro (⟨g, ⟨rfl⟩, timing⟩ | ⟨_, some_, -⟩)
      · exact ⟨f, rfl, timing⟩
      · cases some_

theorem mistimed_technical_bind (h : Technical result) :
    Mistimed (result >>= next) ↔ ∃ a, result = .ok a ∧ Mistimed (next a) := by
  rw [mistimed_bind]
  exact or_iff_right h.not_mistimed

end Mistimed

/-! ## §2. Deltas of events that climb. -/

namespace Timeline

/-- The delta of one event at a whole tick. -/
theorem deltasFrom_cons {now n : Int} {e : Event} (here : e.StandsAt n) (events : List Event) :
    deltasFrom (.whole now) (e :: events) =
      if n < now then .error (.backwards (.whole now) (.whole (n - now)) e.what.kindName (.whole n))
      else (fun ds => (Quantity.whole (n - now), e) :: ds) <$> deltasFrom (.whole n) events := by
  rw [deltasFrom, here]
  show (if (Quantity.whole n).lt (.whole now) = true then _
    else deltasFrom (.whole n) events >>= fun ds => pure ((Quantity.whole (n - now), e) :: ds)) = _
  simp only [Quantity.lt_whole, decide_eq_true_eq]
  split
  · rfl
  · rw [bind_pure_comp]

/-- Events that climb have deltas, and the events after them go on from where they end. -/
theorem deltasFrom_append {a b : Int} {events : List Event}
    (climbs : Climbs Event.StandsAt a events b) (rest : List Event) :
    ∃ ds, deltasFrom (.whole a) (events ++ rest) = (ds ++ ·) <$> deltasFrom (.whole b) rest := by
  induction climbs with
  | nil a => exact ⟨[], (id_map' _).symm⟩
  | @cons a b c e events here after _ ih =>
    obtain ⟨ds, settled⟩ := ih
    refine ⟨(.whole (b - a), e) :: ds, ?_⟩
    rw [List.cons_append, deltasFrom_cons here, if_neg (Int.not_lt.2 after), settled,
      Functor.map_map]
    rfl

/-- Events that climb have deltas. -/
theorem deltasFrom_climbs {a b : Int} {events : List Event}
    (climbs : Climbs Event.StandsAt a events b) : ∃ ds, deltasFrom (.whole a) events = .ok ds := by
  obtain ⟨ds, settled⟩ := deltasFrom_append climbs []
  rw [List.append_nil] at settled
  exact ⟨_, settled⟩

end Timeline

/-! ## §3. Faults of tracks. -/

namespace Message

theorem technical_checkChannel (channel : Datum) : Technical (checkChannel channel) := by
  refine (MidiFile.technical_integer channel).bind fun n => ?_
  split
  · exact .pure _
  · exact .error rfl

theorem technical_checkData (value : Datum) : Technical (checkData value) := by
  refine (MidiFile.technical_integer value).bind fun n => ?_
  split
  · exact .pure _
  · exact .error rfl

theorem technical_checkAttribute (low high : Nat) (value : Datum) :
    Technical (checkAttribute low high value) := by
  refine (MidiFile.technical_integer value).bind fun n => ?_
  split
  · exact .pure _
  · exact .error rfl

theorem technical_checkText (d : Datum) : Technical (checkText d) := by
  unfold checkText
  split
  · exact .ok _
  · exact .error rfl

theorem technical_checkDelta (delta : Datum) : Technical (checkDelta delta) :=
  (Datum.technical_asNumber delta).bind fun _ => .pure _

theorem technical_checkDenominator (denominator : Datum) :
    Technical (checkDenominator denominator) := by
  refine (technical_checkAttribute _ _ denominator).bind fun _ => ?_
  refine (MidiFile.technical_integer denominator).bind fun n => ?_
  split
  · exact .error rfl
  · exact .pure _

theorem technical_check (delta : Datum) (what : Happening) : Technical (check delta what) := by
  have note : ∀ channel pitch velocity, Technical (do
      checkDelta delta
      checkChannel channel
      checkData pitch
      checkData velocity) := fun _ _ _ =>
    (technical_checkDelta delta).bind fun _ => (technical_checkChannel _).bind fun _ =>
      (technical_checkData _).bind fun _ => technical_checkData _
  have text : ∀ d, Technical (do
      checkText d
      checkDelta delta) := fun _ =>
    (technical_checkText _).bind fun _ => technical_checkDelta delta
  cases what with
  | noteOn channel pitch velocity => exact note _ _ _
  | noteOff channel pitch velocity => exact note _ _ _
  | programChange channel program =>
    exact (technical_checkDelta delta).bind fun _ => (technical_checkChannel _).bind fun _ =>
      technical_checkData _
  | setTempo microseconds =>
    exact (technical_checkAttribute _ _ _).bind fun _ => technical_checkDelta delta
  | timeSignature signature =>
    refine (MidiFile.technical_signatureParts signature).bind fun parts => ?_
    exact (technical_checkAttribute _ _ _).bind fun _ =>
      (technical_checkDenominator _).bind fun _ => technical_checkDelta delta
  | trackName name => exact text name
  | text content => exact text content
  | unknown kind => exact .error rfl

/-- Events become messages unless a value does not fit. -/
theorem technical_ofEvent (delta : Datum) (e : Event) : Technical (ofEvent delta e) :=
  (technical_check delta e.what).bind fun _ => (Datum.technical_asNumber delta).bind fun _ =>
    .pure _

end Message

/-- A track whose deltas are settled fails only where a value does not fit. -/
theorem Track.technical_ofEvents {events : List Event} {ds : List (Quantity × Event)}
    (settled : Timeline.deltas events = .ok ds) : Technical (ofEvents events) := by
  unfold ofEvents
  rw [settled]
  exact .mapM (fun d => Message.technical_ofEvent _ _) ds

/-- A track of events that climb from zero fails only where a value does not fit. -/
theorem Track.technical_climbs {events : List Event} {b : Int}
    (climbs : Climbs Event.StandsAt 0 events b) : Technical (ofEvents events) := by
  obtain ⟨ds, settled⟩ := Timeline.deltasFrom_climbs climbs
  exact technical_ofEvents settled

/-! ## §4. Overruns. -/

/-- Whether a voice has been played beyond its clock while a note still sounds: the stop of
that note, at the clock, would go back in time. -/
def Voice.overruns (v : Voice) : Bool :=
  v.sounding.any Option.isSome && v.events.back?.any fun e =>
    match e.tick with
    | .number q => v.clock.lt q
    | _ => false

/-- Some string sounds exactly if there is a pitch that sounds. -/
theorem Bank.any_isSome_iff (bank : Bank) :
    bank.any Option.isSome = true ↔ bank.reduceOption ≠ [] := by
  rw [List.any_eq_true]
  constructor
  · rintro ⟨sounding, onString, isSome⟩
    obtain ⟨pitch, rfl⟩ := Option.isSome_iff_exists.1 isSome
    exact List.ne_nil_of_mem (List.reduceOption_mem_iff.2 onString)
  · intro some_
    obtain ⟨pitch, sounding⟩ := List.exists_mem_of_ne_nil _ some_
    exact ⟨some pitch, List.reduceOption_mem_iff.1 sounding, rfl⟩

section Voices

variable {v : Voice} {c last : Int}

theorem Voice.overruns_iff (clock : v.clock = .whole c) (begun : 0 ≤ c)
    (climbs : Climbs Event.StandsAt 0 v.events.toList last) :
    v.overruns = true ↔ v.sounding.reduceOption ≠ [] ∧ c < last := by
  unfold overruns
  rw [Bool.and_eq_true, Bank.any_isSome_iff v.sounding]
  refine and_congr_right fun _ => ?_
  rw [← Array.getLast?_toList]
  obtain ⟨empty, rfl⟩ | ⟨e, back, stands⟩ := climbs.getLast
  · rw [empty]
    constructor
    · intro none_
      cases none_
    · intro early
      omega
  · rw [back]
    show (match e.tick with | .number q => v.clock.lt q | _ => false) = true ↔ _
    rw [stands, clock]
    show (Quantity.whole c).lt (.whole last) = true ↔ _
    rw [Quantity.lt_whole, decide_eq_true_eq]

/-- A fault of order among ticks that doubles reach can be written, and so is one of timing. -/
theorem Fault.kind_backwards {now tick : Int} (what : Happening) (ordered : 0 ≤ tick)
    (after : tick < now) (near : now ≤ farthestTick)
    (known : what.kindName.isWritable = true) :
    (Fault.backwards (.whole now) (.whole (tick - now)) what.kindName (.whole tick)).kind =
      .timing := by
  have short : ∀ n : Int, n.natAbs ≤ farthestTick → (Datum.whole n).isWritable = true := by
    intro n within
    have room : farthestTick < tenTo Text.digitLimit := twoTo_lt_tenTo (by decide) (by decide)
    show Quantity.isShort n.natAbs = true
    unfold Quantity.isShort
    exact decide_eq_true (Nat.lt_of_le_of_lt within room)
  have writable : (Fault.backwards (.whole now) (.whole (tick - now)) what.kindName
      (.whole tick)).wording.isWritable = true := by
    show (true && ((Datum.whole now).isWritable && (true && ((Datum.whole (tick - now)).isWritable &&
      (true && (what.kindName.isWritable && (true && ((Datum.whole tick).isWritable &&
      (true && true))))))))) = true
    rw [short now (by omega), short (tick - now) (by omega), short tick (by omega), known]
    rfl
  unfold kind
  rw [if_pos writable]
  rfl

/-- The note track of a voice whose events climb fails for its order if and only if the voice
overruns its clock. -/
theorem Voice.noteTrack_mistimed (clock : v.clock = .whole c) (begun : 0 ≤ c)
    (climbs : Climbs Event.StandsAt 0 v.events.toList last)
    (near : c < last → last ≤ farthestTick) :
    Mistimed (Track.ofEvents v.noteTrackEvents) ↔ v.overruns = true := by
  have closing : ∀ e ∈ v.closingEvents, e.StandsAt c := by
    intro e here
    rw [closingEvents_eq, List.mem_map] at here
    obtain ⟨pitch, -, rfl⟩ := here
    exact congrArg Datum.number clock
  have played : Climbs Event.StandsAt 0
      ([.at 0 (.trackName v.trackName), .at 0 (.programChange v.channel (.whole v.patch))]
        ++ v.events.toList) last :=
    .cons rfl (le_refl 0) (.cons rfl (le_refl 0) climbs)
  rw [overruns_iff clock begun climbs]
  by_cases early : v.sounding.reduceOption ≠ [] ∧ c < last
  · refine iff_of_true ?_ early
    obtain ⟨sounds, before⟩ := early
    obtain ⟨pitch, pitches, some_⟩ := List.exists_cons_of_ne_nil sounds
    have stops := v.closingEvents_eq
    rw [some_, List.map_cons] at stops
    obtain ⟨ds, settled⟩ := Timeline.deltasFrom_append played v.closingEvents
    rw [stops, Timeline.deltasFrom_cons (closing _ (stops ▸ List.mem_cons_self)), if_pos before]
      at settled
    refine ⟨_, ?_, Fault.kind_backwards (.noteOff v.channel (.number pitch) (.whole 0)) begun before
      (near before) rfl⟩
    unfold noteTrackEvents Track.ofEvents Timeline.deltas
    rw [stops, settled]
    rfl
  · refine iff_of_false ?_ early
    have settles : ∃ b, Climbs Event.StandsAt last v.closingEvents b := by
      by_cases silent : v.sounding.reduceOption = []
      · rw [closingEvents_eq, silent]
        exact ⟨last, .nil last⟩
      · have after : last ≤ c := Int.not_lt.1 fun before => early ⟨silent, before⟩
        obtain ⟨b, -, stops⟩ := Climbs.upTo closing after
        exact ⟨b, stops⟩
    obtain ⟨b, stops⟩ := settles
    exact (Track.technical_climbs (played.append stops)).not_mistimed

end Voices

/-! ## §5. Songs. -/

section Songs

variable {v : Voice} {beats : Nat} {t : Int}

theorem technical_microsecondsPerBeat (bpm : Datum) : Technical (microsecondsPerBeat bpm) :=
  (Datum.technical_computed Quantity.technical_div _ _).bind fun _ =>
    (Datum.technical_times _ _).bind fun _ =>
    (Datum.technical_computed Quantity.technical_div _ _).bind fun _ =>
    (Datum.technical_asNumber _).bind fun _ => Quantity.technical_nearest _

theorem Voice.technical_controlEvents (v : Voice) (named : Bool) :
    Technical (v.controlEvents named) :=
  (technical_microsecondsPerBeat _).bind fun _ => .pure _

/-- Without changes of tempo the control track stays at the start. -/
theorem Voice.Metered.technical_control (h : v.Metered beats t) {named : Bool}
    {events : List Event} (made : v.controlEvents named = .ok events) :
    Technical (Track.ofEvents events) := by
  have start : Yields (v.controlEvents named) fun events => ∀ e ∈ events, e.StandsAt 0 := by
    unfold controlEvents
    rw [h.tempoChanges]
    refine .bind fun first _ => .pure ?_
    cases named <;> simp [Event.StandsAt, Event.at]
  exact Track.technical_climbs (Climbs.level (start events made))

/-- Clicks climb, from any tick before the first. -/
theorem Voice.clicks_climbs {beat last : Quantity} (resolution : beat.integer? = some t)
    (positive : 0 < t) (most : Nat) {a n : Int} (after : a ≤ n) :
    Yields (clicks last beat most (.whole n)) fun events =>
      ∃ b, Climbs Event.StandsAt a events b := by
  have all : Yields (clicks last beat most (.whole n)) fun events =>
      ∀ a m, Quantity.whole n = .whole m → a ≤ m → ∃ b, Climbs Event.StandsAt a events b := by
    refine yields_clicks (P := fun tick events =>
      ∀ a m, tick = .whole m → a ≤ m → ∃ b, Climbs Event.StandsAt a events b)
      (fun _ a _ _ _ => ⟨a, .nil a⟩) ?_ most _
    rintro _ off next rest stops goes later a m rfl after
    cases stops
    rw [Quantity.add_of_integer (m := m) rfl resolution] at goes
    cases goes
    -- A click is over when the next one begins, at the latest.
    obtain ⟨b, climbs⟩ := later (m + 1) (m + t) rfl (by omega)
    exact ⟨b, .cons rfl after (.cons rfl (by omega) climbs)⟩
  exact fun events made => all events made a n rfl after

theorem Voice.technical_clicks (last beat : Quantity) (most : Nat) (tick : Quantity) :
    Technical (clicks last beat most tick) := by
  induction most generalizing tick with
  | zero =>
    unfold clicks
    split
    · exact .error rfl
    · exact .ok _
  | succ most ih =>
    unfold clicks
    split
    · exact (Quantity.technical_add _ _).bind fun _ => (Quantity.technical_add _ _).bind fun _ =>
        (ih _).bind fun _ => .pure _
    · exact .ok _

theorem Voice.technical_metronomeEvents (v : Voice) : Technical v.metronomeEvents := by
  have ends : ∀ lead, Technical (v.metronomeEnd lead) := by
    intro lead
    unfold metronomeEnd
    split
    · exact Quantity.technical_mul _ _
    · exact Quantity.technical_sub _ _
  unfold metronomeEvents
  split
  · exact .pure _
  · exact (ends _).bind fun _ => (technical_clicks _ _ _ _).bind fun _ => .pure _

/-- The metronome of a whole resolution is in order. -/
theorem Voice.Metered.technical_metronome (h : v.Metered beats t) {clicks : Option (List Event)}
    (made : v.metronomeEvents = .ok clicks) : Technical (clicks.mapM Track.ofEvents) := by
  have climbs : Yields v.metronomeEvents fun clicks =>
      ∀ events ∈ clicks, ∃ b, Climbs Event.StandsAt 0 events b := by
    unfold metronomeEvents
    split
    · exact .pure fun events none_ => nomatch none_
    · refine .bind fun last _ => .bind fun beats beatsHere => .pure ?_
      rintro _ ⟨rfl⟩
      obtain ⟨b, climbs⟩ := clicks_climbs h.resolution h.positive _ (le_refl 0) beats beatsHere
      exact ⟨b, .cons rfl (le_refl 0) (.cons rfl (le_refl 0) climbs)⟩
  cases clicks with
  | none => exact .ok _
  | some events =>
    obtain ⟨b, climbs⟩ := climbs _ made events rfl
    exact .map some (Track.technical_climbs climbs)

theorem Voice.InTime.noteTrack_mistimed (h : v.InTime beats t) :
    Mistimed (Track.ofEvents v.noteTrackEvents) ↔ v.overruns = true := by
  obtain ⟨c, latest, clock, begun, past, timed⟩ := h.pulse
  obtain ⟨last, reached, climbs⟩ := timed.climbs
  refine Voice.noteTrack_mistimed clock begun climbs fun before => ?_
  cases still : v.config.timeSpread.isZero with
  | true =>
    have within := timed.steady still c begun past
    omega
  | false => exact le_trans reached (timed.near still)

/-- Without a spread of time, music in order does not overrun. -/
theorem Voice.InTime.not_overruns (h : v.InTime beats t)
    (still : v.config.timeSpread.isZero = true) : v.overruns = false := by
  obtain ⟨c, latest, clock, begun, past, timed⟩ := h.pulse
  obtain ⟨last, reached, climbs⟩ := timed.climbs
  rw [← Bool.not_eq_true, Voice.overruns_iff clock begun climbs]
  rintro ⟨-, before⟩
  have within := timed.steady still c begun past
  omega

variable {γ : Type}

/-- The control track of a song can be built. -/
def Voice.BuildsControl (v : Voice) (named : Bool) : Prop :=
  ∃ events control, v.controlEvents named = .ok events ∧ Track.ofEvents events = .ok control

/-- The song of a master alone is mistimed if and only if its control track can be built,
and its notes overrun. -/
theorem Band.song_mistimed {band : Band γ} (alone : band.auxiliaries = [])
    (inTime : band.master.InTime beats t) (named : Bool) :
    Mistimed (band.song named) ↔
      band.master.BuildsControl named ∧ band.master.overruns = true := by
  rw [← inTime.noteTrack_mistimed]
  unfold song Voice.BuildsControl
  rw [mistimed_technical_bind (band.master.technical_controlEvents named)]
  constructor
  · rintro ⟨events, made, mistimed⟩
    obtain ⟨control, controlMade, mistimed⟩ :=
      (mistimed_technical_bind (inTime.technical_control made)).1 mistimed
    refine ⟨⟨events, control, made, controlMade⟩, ?_⟩
    rcases mistimed_bind.1 mistimed with notes | ⟨notes, -, mistimed⟩
    · exact notes
    · obtain ⟨clicks, clicksMade, mistimed⟩ :=
        (mistimed_technical_bind band.master.technical_metronomeEvents).1 mistimed
      obtain ⟨metronome, -, mistimed⟩ :=
        (mistimed_technical_bind (inTime.technical_metronome clicksMade)).1 mistimed
      rw [alone] at mistimed
      exact ((Technical.ok _).not_mistimed mistimed).elim
  · rintro ⟨⟨events, control, made, controlMade⟩, notes⟩
    refine ⟨events, made, ?_⟩
    refine (mistimed_technical_bind (inTime.technical_control made)).2 ⟨control, controlMade, ?_⟩
    exact mistimed_bind.2 (.inl notes)

/-- An open master is finished if its song is built, up to faults of saving. -/
theorem Perform.ensures_finish_open {band : Band γ} (master : band.master.auxiliary = false)
    (isOpen : band.master.finished = false) (midi attribution : Datum) :
    let song := band.song (namesMaker attribution band.master.config.attribution)
    (finish .master midi attribution).Ensures band (fun _ _ => ∃ s, song = .ok s)
      fun f _ => song = .error f ∨ f.Technical ∧ ∃ s, song = .ok s := by
  intro song
  refine (ensures_finish .master midi attribution).mono ?_ ?_
  · rintro _ _ ⟨v, ⟨rfl⟩, -, ⟨finished, -⟩ | ⟨-, s, folder, -, built, -⟩⟩
    · rw [isOpen] at finished
      cases finished
    · exact ⟨s, built⟩
  · rintro f _ (⟨refused, -⟩ | ⟨v, ⟨rfl⟩, -, -, ⟨failed, -⟩ | ⟨technical, s, folder, built, -⟩⟩)
    · have closed := refused _ rfl
      rw [master, isOpen] at closed
      cases closed <;> contradiction
    · exact .inl failed
    · exact .inr ⟨technical, s, built⟩

/-- Finishing an open master is mistimed exactly when its song is. -/
theorem Perform.finish_mistimed {band : Band γ} {journal : Journal}
    (master : band.master.auxiliary = false) (isOpen : band.master.finished = false)
    (midi attribution : Datum) :
    Mistimed ((finish .master midi attribution).start ⟨band, journal⟩).1 ↔
      Mistimed (band.song (namesMaker attribution band.master.config.attribution)) := by
  have contract := ensures_finish_open master isOpen midi attribution
  constructor
  · rintro ⟨f, failed, timing⟩
    rcases contract.of_error failed with song | ⟨technical, -⟩
    · exact ⟨f, song, timing⟩
    · have musical := technical.not_musical
      rw [timing] at musical
      cases musical
  · rintro ⟨f, song, timing⟩
    cases outcome : ((finish .master midi attribution).start ⟨band, journal⟩).1 with
    | ok returned =>
      obtain ⟨s, built⟩ := contract.of_ok outcome
      rw [song] at built
      cases built
    | error g =>
      rcases contract.of_error outcome with same | ⟨-, s, built⟩
      · rw [song] at same
        cases same
        exact ⟨f, rfl, timing⟩
      · rw [song] at built
        cases built

end Songs

/-! ## §6. Sessions in order. -/

/-- Settings whose resolution and lead-in are whole numbers. -/
structure Config.Whole (c : Config) : Prop where
  ticks : c.ticks.integer?.isSome = true
  lead : ∀ beats, c.lead = some beats → beats.integer?.isSome = true

namespace Quantity

variable {q : Quantity} {n : Int}

theorem pos_of_integer (whole : q.integer? = some n) (positive : q.le (.whole 0) = false) :
    0 < n := by
  by_contra nonpositive
  have le : q.le (.whole 0) = true := by
    refine le_of_places (place_of_integer whole) rfl ?_
    exact_mod_cast not_lt.1 nonpositive
  rw [le] at positive
  cases positive

theorem nonneg_of_integer (whole : q.integer? = some n) (nonnegative : q.lt (.whole 0) = false) :
    0 ≤ n := by
  unfold lt at nonnegative
  rw [place_of_integer whole] at nonnegative
  have ordered : ¬((n : Rat) < ((0 : Int) : Rat)) := of_decide_eq_false nonnegative
  exact_mod_cast not_lt.1 ordered

end Quantity

section Sessions

variable {γ : Type} {v : Voice}

/-- The lead-in of whole beats ends at a whole tick. -/
theorem Voice.leadIn_whole {config : Config} (whole : config.Whole) (inBounds : config.InBounds) :
    Yields (leadIn config) fun clock => ∃ c : Int, clock = .whole c ∧ 0 ≤ c := by
  obtain ⟨t, resolution⟩ := Option.isSome_iff_exists.1 whole.ticks
  unfold leadIn
  split
  · exact .pure ⟨0, rfl, le_refl 0⟩
  · next beats leads =>
    split
    · exact .pure ⟨0, rfl, le_refl 0⟩
    · obtain ⟨b, count⟩ := Option.isSome_iff_exists.1 (whole.lead beats leads)
      rw [Quantity.mul_of_integer count resolution]
      refine .pure ⟨0 + b * t, rfl, ?_⟩
      have forward := Quantity.nonneg_of_integer count (inBounds.lead beats leads)
      have positive := Quantity.pos_of_integer resolution inBounds.ticks
      have product := Int.mul_nonneg forward positive.le
      omega

/-- At the start no tempo has changed. -/
theorem Dynamics.start_tempoChanges (bpm volume : Datum) :
    Yields (Dynamics.start bpm volume) fun d => d.tempoChanges = #[] := by
  unfold start
  refine .bind fun stopped _ => ?_
  split
  · exact .bind fun _ failed => nomatch failed
  · exact .pure rfl

/-- A new master is in time. -/
theorem Voice.New.inTime (h : v.New) (master : v.auxiliary = false) (whole : v.config.Whole) :
    ∃ t, v.InTime v.beats t := by
  obtain ⟨options, config, tuning, auxiliary, accepted, -, created⟩ := h
  have fresh := Voice.create_fresh config tuning auxiliary v created
  have inBounds := Config.ofOptions_inBounds options config accepted
  obtain rfl := fresh.config
  obtain ⟨t, resolution⟩ := Option.isSome_iff_exists.1 whole.ticks
  obtain ⟨c, clock, begun⟩ := leadIn_whole whole inBounds v.clock fresh.clock
  have measure := fresh.measure
  unfold Config.ticksPerMeasure at measure
  rw [Quantity.mul_of_integer (m := v.beats) rfl resolution] at measure
  have tempo := Dynamics.start_tempoChanges _ _ _ fresh.dynamics
  have positive := Quantity.pos_of_integer resolution inBounds.ticks
  have silent : v.Timed ((0 : Int) : Rat) := by
    refine ⟨?_, ⟨0, ?_, ?_⟩, fun _ => ?_, fun _ n start _ => ?_⟩
    · rw [fresh.lastStrike]
      rfl
    · rw [fresh.lastStrike]
    · rw [fresh.events]
      exact .nil 0
    · rw [fresh.lastStrike]
      exact Int.natCast_nonneg _
    · rw [fresh.lastStrike]
      exact start
  refine ⟨t, ⟨rfl, resolution, positive, (Except.ok.inj measure).symm, tempo, master,
    fresh.finished⟩, c, _, clock, begun, Int.cast_le.2 begun, silent⟩

variable [ChanceSource γ]

/-- Moves in order, if all go well, keep a master in time. -/
theorem Session.run_inTime {desk : Desk (Band γ)} {beats : Nat} {t : Int} {moves : List Move}
    (flawless : Flawless (moves.map (.move .master)) desk)
    (inOrder : ∀ m ∈ moves, m.InOrder beats) (alone : desk.state.auxiliaries = [])
    (inTime : desk.state.master.InTime beats t) :
    let now := run (moves.map (.move .master)) desk
    now.state.auxiliaries = [] ∧ now.state.master.InTime beats t := by
  induction moves generalizing desk with
  | nil => exact ⟨alone, inTime⟩
  | cons m moves ih =>
    obtain ⟨well, rest⟩ := flawless
    have contract : (Call.perform (.move .master m)).Ensures desk.state
        (fun _ b => b.auxiliaries = [] ∧ b.master.InTime beats t) fun _ _ => True := by
      refine Perform.ensures_on (fun _ _ => True.intro) fun v plays => ?_
      cases plays
      refine (m.ensures_inTime inTime (inOrder m List.mem_cons_self)).mono ?_
        fun _ _ _ => True.intro
      intro _ q moved
      exact ⟨alone, moved⟩
    cases outcome : ((Call.perform (.move .master m)).start desk).1 with
    | error f =>
      change ((Call.perform (.move .master m)).start desk).1.toBool = true at well
      rw [outcome] at well
      cases well
    | ok _ =>
      obtain ⟨alone, moved⟩ := contract.of_ok outcome
      exact ih rest (fun m' here => inOrder m' (List.mem_cons_of_mem _ here)) alone moved

/-- Music that is written in order fails to be finished for its order exactly when it
overruns the clock, provided that its control track can be built.  Without a spread of time
it never overruns. -/
theorem Session.in_order_finish {band : Band γ} (created : band.Created)
    (whole : band.master.config.Whole) {moves : List Move}
    (inOrder : ∀ m ∈ moves, m.InOrder band.master.beats) {journal : Journal}
    (flawless : Flawless (moves.map (.move .master)) ⟨band, journal⟩)
    (midi attribution : Datum) :
    let now := run (moves.map (.move .master)) ⟨band, journal⟩
    let v := now.state.master
    (Mistimed ((Perform.finish .master midi attribution).start now).1 ↔
      v.BuildsControl (Perform.namesMaker attribution v.config.attribution) ∧
        v.overruns = true) ∧
    (v.config.timeSpread.isZero = true → v.overruns = false) := by
  intro now v
  obtain ⟨new, master, alone⟩ := created.new
  obtain ⟨t, inTime⟩ := new.inTime master whole
  obtain ⟨alone, inTime⟩ := run_inTime flawless inOrder alone inTime
  refine ⟨?_, inTime.not_overruns⟩
  rw [← Band.song_mistimed alone inTime]
  exact Perform.finish_mistimed inTime.auxiliary inTime.isOpen midi attribution

end Sessions

/-! ## §7. A strike after the end. -/

/-- A new band of one string.  Its strikes may stray by ten ticks, and the first one strays
by five. -/
def lateBand : Except Fault (Desk (Band Script)) :=
  Session.begin [.ofInt 5] [("strings", .list [.whole 40]), ("rtime", .whole 10)]

/-- One stroke, two ticks before the end of a measure. -/
def lateMove : Move := .play (.pattern ⟨[⟨499 / 100, [⟨1, 80⟩]⟩]⟩) [.list [.whole 0]]

theorem lateMove_inOrder : ∀ m ∈ [lateMove], m.InOrder 4 := by
  intro m here
  rw [List.mem_singleton] at here
  subst here
  show Pattern.InMeasure _ 4
  decide +kernel

/-- The desk after the stroke. -/
def lateDesk (desk : Desk (Band Script)) : Desk (Band Script) :=
  Session.run ([lateMove].map (.move .master)) desk

/-- How finishing after the stroke fails. -/
def lateFault? (desk : Desk (Band Script)) : Option FaultKind :=
  match ((Perform.finish .master .null .null).start (lateDesk desk)).1 with
  | .ok _ => none
  | .error f => some f.kind

theorem late_recorded :
    ∃ desk, lateBand = .ok desk ∧ desk.state.master.beats = 4 ∧
      desk.state.master.config.Whole ∧
      Session.Flawless ([lateMove].map (.move .master)) desk ∧
      lateFault? desk = some .timing := by
  have seen : (lateBand.toOption.map fun desk =>
      (desk.state.master.beats, desk.state.master.config.ticks.integer?.isSome,
        desk.state.master.config.lead,
        decide (Session.Flawless ([lateMove].map (.move .master)) desk), lateFault? desk)) =
      some (4, true, none, true, some .timing) := by
    decide +kernel
  obtain ⟨desk, created, seen⟩ := exists_ok_of_seen seen
  simp only [Prod.mk.injEq] at seen
  obtain ⟨beats, ticks, lead, flawless, fault⟩ := seen
  refine ⟨desk, created, beats, ⟨ticks, ?_⟩, of_decide_eq_true flawless, fault⟩
  intro count leads
  rw [lead] at leads
  cases leads

theorem mistimed_of_lateFault {desk : Desk (Band Script)} (fault : lateFault? desk = some .timing) :
    Mistimed ((Perform.finish .master .null .null).start (lateDesk desk)).1 := by
  unfold lateFault? at fault
  split at fault
  · cases fault
  · next f failed =>
    injection fault with timing
    exact ⟨f, failed, timing⟩

/-- So music in order cannot always be finished. -/
theorem late_unfinished :
    ∃ desk, lateBand = .ok desk ∧ (∀ m ∈ [lateMove], m.InOrder desk.state.master.beats) ∧
      Session.Flawless ([lateMove].map (.move .master)) desk ∧
      Mistimed ((Perform.finish .master .null .null).start
        (Session.run ([lateMove].map (.move .master)) desk)).1 := by
  obtain ⟨desk, created, beats, -, flawless, fault⟩ := late_recorded
  exact ⟨desk, created, beats.symm ▸ lateMove_inOrder, flawless, mistimed_of_lateFault fault⟩

/-- The stroke overruns the clock. -/
theorem late_overruns :
    ∃ desk, lateBand = .ok desk ∧ (∀ m ∈ [lateMove], m.InOrder desk.state.master.beats) ∧
      Session.Flawless ([lateMove].map (.move .master)) desk ∧
      (Session.run ([lateMove].map (.move .master)) desk).state.master.overruns = true := by
  obtain ⟨desk, created, beats, whole, flawless, fault⟩ := late_recorded
  have inOrder : ∀ m ∈ [lateMove], m.InOrder desk.state.master.beats :=
    beats.symm ▸ lateMove_inOrder
  have finish := Session.in_order_finish (Session.begin_created _ _ desk created) whole inOrder
    flawless .null .null
  exact ⟨desk, created, inOrder, flawless, (finish.1.1 (mistimed_of_lateFault fault)).2⟩

end Plectrum
