/-
  Plectrum.Proofs.FinishOrder
  ───────────────────────────
  **When finishing reports a fault of timing.**

  Finishing makes the control track, the notes of the master, the metronome, and the notes of
  each auxiliary, and the first track that fails decides.  Where all ticks are whole and all
  recorded values fit the format, a track fails for a step back and for nothing else, and the
  metronome never does.  So finishing an open master goes wrong in time if and only if the
  changes of tempo or the notes of some voice go back; to the notes of a voice belongs its
  clock if a string still sounds.  What is left besides are numbers that are too long to be
  written: in the report of a step back, and in the one on a song that has been built.

  Main results:
    * `Band.stepBack?_eq_none_iff` — no step back is order in every list of ticks;
    * `Band.song_settles` — a song can be built, or reports the first step back;
    * `Session.finish_order` — the outcome of finishing, at every point of every session.
-/
import Plectrum.Proofs.Playable

namespace Plectrum

/-! ## §1. Order. -/

namespace Voice

/-- The ticks at which changes of tempo are queued, in the order of queueing. -/
def tempoTicks (v : Voice) : List Int :=
  v.dynamics.tempoChanges.toList.map fun change => change.tick.int?.getD 0

end Voice

namespace Band

variable {γ : Type} {band : Band γ}

/-- A band whose changes of tempo stand in order, as do the notes of each of its voices. -/
structure InOrder (band : Band γ) : Prop where
  tempo : (0 :: band.master.tempoTicks).Pairwise (· ≤ ·)
  notes : ∀ v ∈ band.master :: band.auxiliaries, (0 :: v.noteTicks).Pairwise (· ≤ ·)

instance (band : Band γ) : Decidable band.InOrder :=
  decidable_of_iff ((0 :: band.master.tempoTicks).Pairwise (· ≤ ·) ∧
      ∀ v ∈ band.master :: band.auxiliaries, (0 :: v.noteTicks).Pairwise (· ≤ ·))
    ⟨fun h => ⟨h.1, h.2⟩, fun h => ⟨h.tempo, h.notes⟩⟩

/-- The first step back of a band, in the order in which its tracks are made. -/
def stepBack? (band : Band γ) : Option StepBack :=
  (Timeline.stepBack? 0 band.master.tempoTicks).or
    ((band.master :: band.auxiliaries).findSome? Voice.stepBack?)

/-- A band has no step back if and only if it is in order. -/
theorem stepBack?_eq_none_iff : band.stepBack? = none ↔ band.InOrder := by
  unfold stepBack?
  rw [Option.or_eq_none_iff, Timeline.stepBack?_eq_none_iff, List.findSome?_eq_none_iff]
  constructor
  · rintro ⟨tempo, notes⟩
    exact ⟨tempo, fun v here => Timeline.stepBack?_eq_none_iff.1 (notes v here)⟩
  · rintro ⟨tempo, notes⟩
    exact ⟨tempo, fun v here => Timeline.stepBack?_eq_none_iff.2 (notes v here)⟩

end Band

/-! ## §2. What is recorded. -/

/-- A voice of declared settings, whose recorded events are at whole ticks and fit the format. -/
structure Voice.InFormat (v : Voice) : Prop where
  declared : v.config.Declared
  ticks : WholeTicks v.events.toList
  events : ∀ e ∈ v.events, e.what.Fits

instance (v : Voice) : Decidable v.InFormat :=
  decidable_of_iff (v.config.Declared ∧ WholeTicks v.events.toList ∧
      ∀ e ∈ v.events.toList, e.what.Fits)
    ⟨fun ⟨declared, ticks, events⟩ => ⟨declared, ticks, fun e here => events e here.val⟩,
      fun h => ⟨h.declared, h.ticks, fun e here => h.events e ⟨here⟩⟩⟩

/-- A band whose recorded values fit the format, at whole ticks. -/
structure Band.InFormat {γ : Type} (band : Band γ) : Prop where
  tempoTicks : band.master.TempoOnGrid
  tempo : ∃ first, microsecondsPerBeat band.master.dynamics.initialBpm = .ok first ∧
    0 ≤ first ∧ first ≤ Message.maxTempo
  changes : ∀ change ∈ band.master.dynamics.tempoChanges.toList,
    0 ≤ change.microseconds ∧ change.microseconds ≤ Message.maxTempo
  beats : band.master.beats ≤ 255
  voices : ∀ v ∈ band.master :: band.auxiliaries, v.InFormat

instance {γ : Type} (band : Band γ) : Decidable band.InFormat :=
  have : Decidable (∃ first, microsecondsPerBeat band.master.dynamics.initialBpm = .ok first ∧
      0 ≤ first ∧ first ≤ Message.maxTempo) :=
    match microsecondsPerBeat band.master.dynamics.initialBpm with
    | .ok first => decidable_of_iff (0 ≤ first ∧ first ≤ Message.maxTempo)
        ⟨fun fits => ⟨first, rfl, fits⟩, fun ⟨_, same, fits⟩ => Except.ok.inj same ▸ fits⟩
    | .error _ => isFalse fun ⟨_, same, _⟩ => nomatch same
  decidable_of_iff (band.master.TempoOnGrid ∧
      (∃ first, microsecondsPerBeat band.master.dynamics.initialBpm = .ok first ∧
        0 ≤ first ∧ first ≤ Message.maxTempo) ∧
      (∀ change ∈ band.master.dynamics.tempoChanges.toList,
        0 ≤ change.microseconds ∧ change.microseconds ≤ Message.maxTempo) ∧
      band.master.beats ≤ 255 ∧ ∀ v ∈ band.master :: band.auxiliaries, v.InFormat)
    ⟨fun ⟨tempoTicks, tempo, changes, beats, voices⟩ => ⟨tempoTicks, tempo, changes, beats, voices⟩,
      fun h => ⟨h.tempoTicks, h.tempo, h.changes, h.beats, h.voices⟩⟩

/-! ## §3. Songs. -/

namespace Voice

variable {v : Voice}

/-- To a running clock the control track is its changes of tempo. -/
theorem controlEvents_stepBack? (named : Bool) :
    Yields (v.controlEvents named) fun events =>
      Timeline.stepBack? 0 (Event.wholeTicks events) = Timeline.stepBack? 0 v.tempoTicks := by
  unfold controlEvents
  refine .bind fun first _ => .pure ?_
  have changes : Event.wholeTicks (v.dynamics.tempoChanges.toList.map fun change =>
      ⟨change.tick, .setTempo (.whole change.microseconds)⟩) = v.tempoTicks := by
    unfold Event.wholeTicks
    rw [List.map_map]
    rfl
  rw [← changes]
  unfold Event.wholeTicks
  rw [List.map_append]
  cases named <;> rfl

end Voice

namespace Band

variable {γ : Type} {band : Band γ}

/-- The control track of a band in format is there, unless there is a step back in it. -/
theorem InFormat.control_settles (h : band.InFormat) (tuned : band.master.Tuned) (named : Bool) :
    ∃ events, band.master.controlEvents named = .ok events ∧
      Settles (Track.ofEvents events) (Timeline.stepBack? 0 band.master.tempoTicks) := by
  obtain ⟨first, tempo, bounds⟩ := h.tempo
  obtain ⟨events, made⟩ : ∃ events, band.master.controlEvents named = .ok events := by
    unfold Voice.controlEvents
    rw [tempo]
    exact ⟨_, rfl⟩
  obtain ⟨whole, -⟩ := band.master.controlEvents_score h.tempoTicks named events made
  obtain ⟨first', tempo', fits⟩ :=
    band.master.controlEvents_fit_iff tuned.inBounds.signature.2 named events made
  obtain rfl : first = first' := Except.ok.inj (tempo.symm.trans tempo')
  refine ⟨events, made, ?_⟩
  rw [← band.master.controlEvents_stepBack? named events made]
  exact Track.ofEvents_settles whole (fits.2 ⟨bounds, h.beats, h.changes⟩)

/-- A song of whole ticks and values that fit can be built, or reports the first step back. -/
theorem song_settles (inFormat : band.InFormat)
    (tuned : ∀ v ∈ band.master :: band.auxiliaries, v.Tuned)
    (clocked : ∀ v ∈ band.master :: band.auxiliaries, v.Clocked) (named : Bool) :
    band.master.BuildsMetronome ∧ Settles (band.song named) band.stepBack? := by
  have notes : ∀ v ∈ band.master :: band.auxiliaries,
      Settles (Track.ofEvents v.noteTrackEvents) v.stepBack? := by
    intro v here
    obtain ⟨declared, ticks, events⟩ := inFormat.voices v here
    obtain ⟨c, clock⟩ := (clocked v here).clock
    refine Voice.noteTrack_settles ⟨?_, ticks⟩ ((tuned v here).noteTrack_fits declared events)
    rw [clock]
    rfl
  obtain ⟨master, others⟩ := List.forall_mem_cons.1 notes
  have tuned := tuned band.master List.mem_cons_self
  have clocked := clocked band.master List.mem_cons_self
  obtain ⟨events, made, control⟩ := inFormat.control_settles tuned named
  obtain ⟨c, clock⟩ := clocked.clock
  obtain ⟨k, skip⟩ := clocked.skip
  have metronome : band.master.BuildsMetronome :=
    Voice.buildsMetronome (inFormat.voices _ List.mem_cons_self).declared.toWhole
      tuned.inBounds.ticks clock skip
  refine ⟨metronome, ?_⟩
  obtain ⟨clicks, clickTrack, clicksMade, clickTrackMade⟩ := metronome
  have all : (band.master :: band.auxiliaries).findSome? Voice.stepBack? =
      band.master.stepBack?.or ((band.auxiliaries.findSome? Voice.stepBack?).or none) := by
    rw [List.findSome?_cons, Option.or_none]
    cases band.master.stepBack? <;> rfl
  unfold song stepBack?
  rw [all, made]
  refine control.bind fun _ _ => master.bind fun _ _ => ?_
  rw [clicksMade]
  show Settles (clicks.mapM Track.ofEvents >>= _) _
  rw [clickTrackMade]
  exact (Settles.mapM others).bind fun _ _ => ⟨_, rfl⟩

/-- The number of tracks that the song of a band has. -/
def trackCount (band : Band γ) : Nat :=
  2 + (if band.master.config.lead.isSome then 1 else 0) + band.auxiliaries.length

theorem song_trackCount (named : Bool) :
    Yields (band.song named) fun song => song.tracks.length = band.trackCount := by
  intro song built
  obtain ⟨-, -, -, metronomeEvents, metronomeMade, othersMade⟩ := band.song_builds named song built
  unfold trackCount
  rw [← band.master.metronomeEvents_isSome _ metronomeEvents, List.length_cons, List.length_cons,
    List.length_append, othersMade.length_eq]
  cases metronomeMade with
  | none =>
    simp only [Option.toList_none, List.length_nil, Option.isSome_none, Bool.false_eq_true,
      if_false]
    omega
  | some =>
    simp only [Option.toList_some, List.length_singleton, Option.isSome_some, if_true]
    omega

end Band

/-! ## §4. Finishing. -/

section Finish

variable {γ : Type} {band : Band γ}

/-- An open master whose song can be built, or reports a step back, finishes the same way, as
long as what is reported of the song can be written. -/
theorem Perform.finish_settled (family : band.Family) (isOpen : band.master.finished = false)
    {midi attribution : Datum}
    (unsaved : (chosenFile midi band.master.config.midi).isNothing = true)
    (settles : Settles (band.song (namesMaker attribution band.master.config.attribution))
      band.stepBack?) (journal : Journal) :
    let outcome := ((finish .master midi attribution).start ⟨band, journal⟩).1
    (Mistimed outcome ↔ ∃ s, band.stepBack? = some s ∧ s.isWritable = true) ∧
    ((∃ song, outcome = .ok (some song)) ↔
      band.stepBack? = none ∧ (band.master.farewell band.trackCount).isWritable = true) ∧
    ∀ f, outcome = .error f → ∀ s, band.stepBack? = some s → s.Reported f := by
  intro outcome
  cases back : band.stepBack? with
  | some s =>
    rw [back] at settles
    obtain ⟨f, failed, reported⟩ := settles
    have fails : outcome = .error f := by
      show ((finish .master midi attribution).start ⟨band, journal⟩).1 = _
      rw [finish_unbuilt family isOpen failed]
    have timing : f.kind = .timing ↔ s.isWritable = true := by
      rw [reported.kind]
      cases s.isWritable <;> decide
    rw [fails]
    refine ⟨⟨?_, ?_⟩,
      iff_of_false (fun ⟨_, made⟩ => nomatch made) (fun ⟨none_, _⟩ => nomatch none_), ?_⟩
    · rintro ⟨_, ⟨rfl⟩, kind⟩
      exact ⟨s, rfl, timing.1 kind⟩
    · rintro ⟨_, ⟨rfl⟩, writable⟩
      exact ⟨f, rfl, timing.2 writable⟩
    · rintro _ ⟨rfl⟩ _ ⟨rfl⟩
      exact reported
  | none =>
    rw [back] at settles
    obtain ⟨song, built⟩ := settles
    have count := band.song_trackCount _ song built
    refine ⟨iff_of_false ?_ (fun ⟨_, never, _⟩ => nomatch never), ?_,
      fun _ _ _ never => nomatch never⟩
    · -- Once the song is built, only numbers are left to fail.
      exact Technical.not_mistimed fun f failed =>
        ((finish_built family isOpen midi built).of_error failed).1
    · rw [and_iff_right rfl, ← count]
      refine (finish_ok_iff family.master isOpen unsaved journal).trans ⟨?_, fun written =>
        ⟨song, built, written⟩⟩
      rintro ⟨song', built', written⟩
      rwa [Except.ok.inj (built.symm.trans built')]

end Finish

/-- What finishing an open master without a file comes to, at every point of every session of
declared calls at which the recorded ticks are whole and the recorded values fit the format.  The
metronome can be built.  There is no step back if and only if the changes of tempo, and the notes
of each voice with the clock if a string still sounds, are in order from zero on.  Then a song is
returned, as long as the report on it can be written.  Otherwise the first step back is reported,
which is a fault of timing if and only if its numbers can be written. -/
theorem Session.finish_order {γ : Type} [ChanceSource γ] {band : Band γ}
    (created : band.Created) {calls : List Call} (declared : ∀ call ∈ calls, call.Declared)
    (journal : Journal) :
    let now := run calls ⟨band, journal⟩
    now.state.InFormat → now.state.master.finished = false → ∀ midi attribution,
      (Perform.chosenFile midi now.state.master.config.midi).isNothing = true →
      let outcome := ((Perform.finish .master midi attribution).start now).1
      now.state.master.BuildsMetronome ∧
      (now.state.stepBack? = none ↔ now.state.InOrder) ∧
      (Mistimed outcome ↔ ∃ s, now.state.stepBack? = some s ∧ s.isWritable = true) ∧
      ((∃ song, outcome = .ok (some song)) ↔ now.state.InOrder ∧
        (now.state.master.farewell now.state.trackCount).isWritable = true) ∧
      ∀ f, outcome = .error f → ∀ s, now.state.stepBack? = some s → s.Reported f := by
  intro now inFormat isOpen midi attribution unsaved outcome
  have tuned := (throughout_tuned created calls journal).forall_mem
  have clocked : ∀ v ∈ now.state.master :: now.state.auxiliaries, v.Clocked := fun v here =>
    (clocked created declared journal).forall_mem v here (inFormat.voices v here).declared.toWhole
  obtain ⟨metronome, settles⟩ := Band.song_settles inFormat tuned clocked
    (Perform.namesMaker attribution now.state.master.config.attribution)
  have family : now.state.Family := (Band.Family.of_created created).run calls
  obtain ⟨mistimed, returns, reported⟩ :=
    Perform.finish_settled family isOpen unsaved settles now.journal
  rw [Band.stepBack?_eq_none_iff] at returns
  exact ⟨metronome, Band.stepBack?_eq_none_iff, mistimed, returns, reported⟩

/-! ## §5. Notes in the wrong order. -/

/-- An auxiliary joins, and gets two notes by hand, the second of which is before the first. -/
def crossedCalls : List Call :=
  [.join .master [("strings", .list [.whole 50])],
    .move (.auxiliary 0) (.note (.whole 10) (.whole 60) (.whole 80)),
    .move (.auxiliary 0) (.note (.whole 5) (.whole 60) (.whole 0))]

/-- The desk after them. -/
def crossed (desk : Desk (Band Script)) : Desk (Band Script) := Session.run crossedCalls desk

/-- The band is in format, and finishing it is a fault of timing. -/
theorem crossed_mistimed :
    ∃ desk, pairStart = .ok desk ∧ (crossed desk).state.InFormat ∧
      (crossed desk).state.stepBack? = some ⟨10, 5⟩ ∧ ¬(crossed desk).state.InOrder ∧
      Mistimed ((Perform.finish .master .null .null).start (crossed desk)).1 := by
  have seen : (pairStart.toOption.map fun desk =>
      let band := (crossed desk).state
      (decide band.InFormat, band.stepBack?, band.master.finished,
        (Perform.chosenFile .null band.master.config.midi).isNothing)) =
      some (true, some ⟨10, 5⟩, false, true) := by
    decide +kernel
  obtain ⟨desk, accepted, seen⟩ := exists_ok_of_seen seen
  simp only [Prod.mk.injEq] at seen
  obtain ⟨inFormat, back, isOpen, unsaved⟩ := seen
  have inFormat : (crossed desk).state.InFormat := of_decide_eq_true inFormat
  have declared : ∀ call ∈ crossedCalls, call.Declared :=
    List.forall_mem_cons.2 ⟨True.intro, List.forall_mem_cons.2 ⟨True.intro,
      List.forall_mem_singleton.2 True.intro⟩⟩
  obtain ⟨-, inOrder, mistimed, -, -⟩ := Session.finish_order
    (Session.begin_created _ _ desk accepted) declared desk.journal inFormat isOpen .null .null
    unsaved
  have short : (⟨10, 5⟩ : StepBack).isWritable = true := by decide +kernel
  refine ⟨desk, accepted, inFormat, back, fun ordered => ?_, mistimed.2 ⟨_, back, short⟩⟩
  have none_ := inOrder.2 ordered
  change (crossed desk).state.stepBack? = none at none_
  rw [back] at none_
  cases none_

/-- Where the ticks are too long to be written, finishing music out of order is no fault of
timing. -/
theorem vast_unfinished :
    ∃ desk f, vastStart = .ok desk ∧ desk.state.Created ∧
      (Session.run vastCalls desk).state.InFormat ∧
      ¬(Session.run vastCalls desk).state.InOrder ∧
      ((Perform.finish .master .null .null).start (Session.run vastCalls desk)).1 = .error f ∧
      f.kind = .value := by
  have seen : (vastStart.toOption.map fun desk =>
      let now := Session.run vastCalls desk
      (decide now.state.InFormat, decide now.state.InOrder,
        faultKind? ((Perform.finish .master .null .null).start now).1)) =
      some (true, false, some .value) := by
    decide +kernel
  obtain ⟨desk, accepted, seen⟩ := exists_ok_of_seen seen
  simp only [Prod.mk.injEq] at seen
  obtain ⟨inFormat, inOrder, kind⟩ := seen
  obtain ⟨f, failed, kind⟩ := exists_error_of_kind kind
  exact ⟨desk, f, accepted, Session.begin_created _ _ desk accepted, of_decide_eq_true inFormat,
    of_decide_eq_false inOrder, failed, kind⟩

end Plectrum
