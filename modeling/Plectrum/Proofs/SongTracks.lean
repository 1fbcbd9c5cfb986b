/-
  Plectrum.Proofs.SongTracks
  ──────────────────────────
  **A finished song is the music of its band.**

  Finishing loses nothing, doubles nothing and moves nothing.  The tracks stand in one
  order: control, the notes of the master, the metronome if there is a lead-in, the notes
  of each auxiliary in the order of joining.  Each follows its score, which is written
  down here without the code that makes tracks.
-/
import Plectrum.Proofs.Sessions
import Plectrum.Proofs.Tracks

namespace Plectrum

/-! ## §1. Scores. -/

namespace Voice

/-- What happens on the control track, and when. -/
def controlScore (v : Voice) (named : Bool) (firstTempo : Int) : List (Int × Happening) :=
  (if named then [(0, .text (.text attributionText))] else [])
    ++ [(0, .setTempo (.whole firstTempo)),
        (0, .timeSignature (.list [.whole v.beats, .whole v.config.signature.unit]))]
    ++ v.dynamics.tempoChanges.toList.map fun change =>
        (change.tick.int?.getD 0, .setTempo (.whole change.microseconds))

/-- What happens on the note track, and when: strings that still sound end at the clock. -/
def noteScore (v : Voice) : List (Int × Happening) :=
  [(0, .trackName v.trackName), (0, .programChange v.channel (.whole v.patch))]
    ++ v.events.toList.map (fun e => (e.tick.int?.getD 0, e.what))
    ++ v.sounding.reduceOption.map fun pitch =>
        (v.clock.integer?.getD 0, .noteOff v.channel (.number pitch) (.whole 0))

/-! ## §2. Whole ticks. -/

/-- A voice whose clock and events are at whole ticks. -/
structure OnGrid (v : Voice) : Prop where
  clock : v.clock.integer?.isSome = true
  events : WholeTicks v.events.toList

instance (v : Voice) : Decidable v.OnGrid :=
  decidable_of_iff (v.clock.integer?.isSome = true ∧ WholeTicks v.events.toList)
    ⟨fun h => ⟨h.1, h.2⟩, fun h => ⟨h.clock, h.events⟩⟩

variable {v : Voice}

theorem OnGrid.notes (h : v.OnGrid) : WholeTicks v.noteTrackEvents := by
  have closing : WholeTicks v.closingEvents := by
    intro e here
    rw [closingEvents_eq, List.mem_map] at here
    obtain ⟨pitch, -, rfl⟩ := here
    exact h.clock
  exact .append (.append (.cons rfl (.cons rfl .nil)) h.events) closing

/-- The events of the note track are its score. -/
theorem moments_notes (v : Voice) : v.noteTrackEvents.map Event.moment = v.noteScore := by
  unfold noteTrackEvents noteScore
  rw [closingEvents_eq, List.map_append, List.map_append, List.map_map]
  rfl

/-- The note track follows its score. -/
theorem noteTrack_follows (h : v.OnGrid) {track : Track}
    (made : Track.ofEvents v.noteTrackEvents = .ok track) : track.Follows v.noteScore := by
  have follows := Track.ofEvents_follows h.notes track made
  rwa [moments_notes] at follows

/-- The tempo changes of a voice are at whole ticks. -/
def TempoOnGrid (v : Voice) : Prop :=
  ∀ change ∈ v.dynamics.tempoChanges.toList, (change.tick.int?).isSome = true

instance (v : Voice) : Decidable v.TempoOnGrid :=
  inferInstanceAs (Decidable (∀ change ∈ v.dynamics.tempoChanges.toList, _))

/-- The events of the control track are its score. -/
theorem controlEvents_score (onGrid : v.TempoOnGrid) (named : Bool) :
    Yields (v.controlEvents named) fun events => WholeTicks events ∧
      ∃ first, microsecondsPerBeat v.dynamics.initialBpm = .ok first ∧
        events.map Event.moment = v.controlScore named first := by
  unfold controlEvents
  refine .bind fun first tempo => .pure ⟨?_, first, tempo, ?_⟩
  · refine .append (.append ?_ (.cons rfl (.cons rfl .nil))) ?_
    · cases named with
      | true => exact .cons rfl .nil
      | false => exact .nil
    · intro e here
      obtain ⟨change, inChanges, rfl⟩ := List.mem_map.1 here
      exact onGrid change inChanges
  · unfold controlScore
    rw [List.map_append, List.map_append, List.map_map]
    cases named <;> rfl

/-- The clicks of a metronome are at whole ticks. -/
theorem clicks_onGrid {beat last : Quantity} (whole : beat.integer?.isSome = true) (most : Nat)
    {tick : Quantity} {n : Int} (start : tick.integer? = some n) :
    Yields (clicks last beat most tick) WholeTicks := by
  obtain ⟨b, length⟩ := Option.isSome_iff_exists.1 whole
  have onGrid : Yields (clicks last beat most tick) fun events =>
      ∀ n, tick.integer? = some n → WholeTicks events := by
    refine yields_clicks (P := fun tick events => ∀ n, tick.integer? = some n → WholeTicks events)
      (fun _ _ _ => .nil) ?_ most tick
    intro tick off next rest stops goes later n start
    rw [Quantity.add_of_integer start (n := 1) rfl] at stops
    cases stops
    rw [Quantity.add_of_integer start length] at goes
    cases goes
    have here : (Datum.int? (.number tick)).isSome = true := Option.isSome_of_eq_some start
    exact .append (.cons here (.cons rfl .nil)) (later _ rfl)
  exact fun events made => onGrid events made n start

theorem metronomeEvents_onGrid (whole : v.config.ticks.integer?.isSome = true) :
    Yields v.metronomeEvents fun clicks => ∀ events ∈ clicks, WholeTicks events := by
  unfold metronomeEvents
  split
  · refine .pure ?_
    intro events none_
    cases none_
  · refine .bind fun last _ => ?_
    refine .bind fun beats beatsHere => .pure ?_
    rintro _ ⟨rfl⟩
    exact .append (.cons rfl (.cons rfl .nil)) (clicks_onGrid whole _ rfl beats beatsHere)

end Voice

/-! ## §3. Songs. -/

/-- A band whose music is all at whole ticks. -/
structure Band.OnGrid {γ : Type} (band : Band γ) : Prop where
  resolution : band.master.config.ticks.integer?.isSome = true
  tempo : band.master.TempoOnGrid
  master : band.master.OnGrid
  auxiliaries : ∀ v ∈ band.auxiliaries, v.OnGrid

instance {γ : Type} (band : Band γ) : Decidable band.OnGrid :=
  decidable_of_iff (band.master.config.ticks.integer?.isSome = true ∧ band.master.TempoOnGrid ∧
      band.master.OnGrid ∧ ∀ v ∈ band.auxiliaries, v.OnGrid)
    ⟨fun h => ⟨h.1, h.2.1, h.2.2.1, h.2.2.2⟩,
      fun h => ⟨h.resolution, h.tempo, h.master, h.auxiliaries⟩⟩

variable {γ : Type}

/-- A song whose tracks, in order, follow the scores of a band. -/
def Song.Follows (song : Song) (band : Band γ) (named : Bool) : Prop :=
  ∃ (first : Int) (control notes : Track) (metronome : Option Track) (others : List Track),
    song = ⟨band.master.config.ticks, control :: notes :: (metronome.toList ++ others)⟩ ∧
    microsecondsPerBeat band.master.dynamics.initialBpm = .ok first ∧
    control.Follows (band.master.controlScore named first) ∧
    notes.Follows band.master.noteScore ∧
    (metronome.isSome = true ↔ band.master.config.lead.isSome = true) ∧
    (∀ track, metronome = some track → ∃ events,
      band.master.metronomeEvents = .ok (some events) ∧
        track.Follows (events.map Event.moment)) ∧
    List.Forall₂ (fun v track => track.Follows v.noteScore) band.auxiliaries others

/-- A song that is built of whole ticks follows its band. -/
theorem Band.Builds.follows {band : Band γ} {named : Bool} {song : Song}
    (h : band.Builds named song) (onGrid : band.OnGrid) : song.Follows band named := by
  obtain ⟨controlEvents, controlMade, notesMade, metronomeEvents, metronomeMade, othersMade⟩ := h
  obtain ⟨wholeControl, first, tempo, score⟩ :=
    band.master.controlEvents_score onGrid.tempo named _ controlEvents
  have control := Track.ofEvents_follows wholeControl _ controlMade
  rw [score] at control
  refine ⟨first, _, _, _, _, rfl, tempo, control, Voice.noteTrack_follows onGrid.master notesMade,
    ?_, ?_, ?_⟩
  · rw [← band.master.metronomeEvents_isSome _ metronomeEvents]
    cases metronomeMade <;> exact Iff.rfl
  · rintro track rfl
    cases metronomeMade with
    | some made =>
      have whole := band.master.metronomeEvents_onGrid onGrid.resolution _ metronomeEvents _ rfl
      exact ⟨_, metronomeEvents, Track.ofEvents_follows whole track made⟩
  · have each := (List.forall₂_and_left _ _).2 ⟨onGrid.auxiliaries, othersMade⟩
    exact each.imp fun v track here => Voice.noteTrack_follows here.1 here.2

namespace Perform

end Perform

/-! ## §4. A song of two voices. -/

/-- The song that finishing returns, if it returns one. -/
def finishedSong (desk : Desk (Band Script)) : Option Song :=
  ((Perform.finish .master .null .null).start desk).1.toOption.join

end Plectrum
