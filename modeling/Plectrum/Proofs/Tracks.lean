/-
  Plectrum.Proofs.Tracks
  ──────────────────────
  **A track is its list of events.**

  Making a track settles the ticks between events, and then checks each message.
  Nothing is dropped, put in or moved on the way: the messages happen as the events do,
  one for one, and their deltas add up to the ticks of the events again.
-/
import Plectrum.Band.Song
import Plectrum.Proofs.Settings

namespace Plectrum

/-! ## §1. Whole ticks. -/

namespace Quantity

/-- A quantity that is written as a whole number counts as that number. -/
theorem plain_of_integer {q : Quantity} {n : Int} (h : q.integer? = some n) : q.plain = .whole n := by
  cases q with
  | whole m => cases h; rfl
  | truth b => cases h; rfl
  | ratio r => cases h
  | float x => cases h

theorem place_of_integer {q : Quantity} {n : Int} (h : q.integer? = some n) :
    q.place? = some (.value n) := by
  cases q with
  | whole m => cases h; rfl
  | truth b => cases h; rfl
  | ratio r => cases h
  | float x => cases h

variable {p q : Quantity} {m n : Int}

/-- Quantities that are written as whole numbers are compared as these. -/
theorem le_of_integer (hp : p.integer? = some m) (hq : q.integer? = some n) :
    p.le q = decide (m ≤ n) := by
  unfold le
  rw [place_of_integer hp, place_of_integer hq]
  exact le_whole m n

theorem lt_of_integer (hp : p.integer? = some m) (hq : q.integer? = some n) :
    p.lt q = decide (m < n) := by
  unfold lt
  rw [place_of_integer hp, place_of_integer hq]
  exact lt_whole m n

theorem sub_of_integer (hp : p.integer? = some m) (hq : q.integer? = some n) :
    p.sub q = .ok (.whole (m - n)) := by
  unfold sub
  rw [plain_of_integer hp, plain_of_integer hq]

theorem add_of_integer (hp : p.integer? = some m) (hq : q.integer? = some n) :
    p.add q = .ok (.whole (m + n)) := by
  unfold add
  rw [plain_of_integer hp, plain_of_integer hq]

theorem mul_of_integer (hp : p.integer? = some m) (hq : q.integer? = some n) :
    p.mul q = .ok (.whole (m * n)) := by
  unfold mul
  rw [plain_of_integer hp, plain_of_integer hq]

end Quantity

/-- Events at whole ticks. -/
def WholeTicks (events : List Event) : Prop := ∀ e ∈ events, (e.tick.int?).isSome = true

instance (events : List Event) : Decidable (WholeTicks events) :=
  inferInstanceAs (Decidable (∀ e ∈ events, (e.tick.int?).isSome = true))

namespace WholeTicks

variable {e : Event} {events events' : List Event}

theorem nil : WholeTicks [] := by
  intro e here
  cases here

theorem cons (first : (e.tick.int?).isSome = true) (rest : WholeTicks events) :
    WholeTicks (e :: events) := by
  intro f here
  rcases List.mem_cons.1 here with rfl | here
  · exact first
  · exact rest f here

theorem append (h : WholeTicks events) (h' : WholeTicks events') :
    WholeTicks (events ++ events') := by
  intro e here
  rcases List.mem_append.1 here with here | here
  · exact h e here
  · exact h' e here

end WholeTicks

/-- The whole tick of an event. -/
def Event.wholeTick (e : Event) : Int := e.tick.int?.getD 0

/-- The number of a tick that is whole. -/
theorem Event.tick_eq {e : Event} (h : (e.tick.int?).isSome = true) :
    ∃ q : Quantity, e.tick = .number q ∧ q.integer? = some e.wholeTick := by
  unfold wholeTick
  cases tick : e.tick with
  | number q =>
    rw [tick] at h
    obtain ⟨n, whole⟩ := Option.isSome_iff_exists.1 h
    refine ⟨q, rfl, ?_⟩
    change q.integer? = some (q.integer?.getD 0)
    change q.integer? = some n at whole
    rw [whole]
    rfl
  | _ =>
    rw [tick] at h
    cases h

/-! ## §2. Deltas and absolute ticks. -/

namespace Timeline

/-- Deltas keep the events, whatever their ticks are. -/
theorem deltasFrom_kept (now : Quantity) (events : List Event) :
    Yields (deltasFrom now events) fun ds => ds.map Prod.snd = events := by
  induction events generalizing now with
  | nil =>
    unfold deltasFrom
    exact .pure rfl
  | cons e events ih =>
    unfold deltasFrom
    refine .bind fun tick _ => ?_
    refine .bind fun delta _ => ?_
    refine .check fun _ => ?_
    refine .bind fun ds tail => .pure ?_
    exact congrArg (e :: ·) (ih tick ds tail)

/-- Deltas of whole ticks add up to the ticks again. -/
theorem deltasFrom_sums {events : List Event} (whole : WholeTicks events) {now : Quantity}
    {n : Int} (start : now.integer? = some n) :
    Yields (deltasFrom now events) fun ds =>
      absoluteFrom (.whole n) (ds.map fun d => .number d.1) =
        .ok (events.map fun e => .whole e.wholeTick) := by
  induction events generalizing now n with
  | nil =>
    unfold deltasFrom
    exact .pure rfl
  | cons e events ih =>
    obtain ⟨q, tick, same⟩ := Event.tick_eq (whole e List.mem_cons_self)
    have rest : WholeTicks events := fun f here => whole f (List.mem_cons_of_mem _ here)
    unfold deltasFrom
    rw [tick]
    refine .bind fun q' here => ?_
    cases here
    refine .bind fun delta passed => ?_
    rw [Quantity.sub_of_integer same start] at passed
    cases passed
    refine .check fun _ => ?_
    refine .bind fun ds tail => .pure ?_
    have sums := ih rest same ds tail
    have sum : (Quantity.whole n).add (.whole (e.wholeTick - n)) = .ok (.whole e.wholeTick) := by
      have back : n + (e.wholeTick - n) = e.wholeTick := by omega
      rw [Quantity.add_of_integer rfl rfl, back]
    show ((Quantity.whole n).add (.whole (e.wholeTick - n)) >>= fun tick =>
      absoluteFrom tick (ds.map fun d => .number d.1) >>= fun ticks => .ok (tick :: ticks)) = _
    rw [sum]
    show (absoluteFrom (.whole e.wholeTick) (ds.map fun d => .number d.1) >>= fun ticks =>
      .ok (.whole e.wholeTick :: ticks)) = _
    rw [sums]
    rfl

end Timeline

/-! ## §3. Tracks. -/

theorem Message.ofEvent_eq (delta : Quantity) (e : Event) :
    Yields (Message.ofEvent (.number delta) e) fun m => m = ⟨delta, e.what⟩ := by
  unfold Message.ofEvent
  refine .bind fun _ _ => ?_
  refine .bind fun same here => .pure ?_
  cases here
  rfl

namespace Track

/-- The messages of a track are the deltas and the happenings of its events. -/
theorem ofEvents_eq (events : List Event) :
    Yields (ofEvents events) fun track =>
      ∃ ds, Timeline.deltas events = .ok ds ∧ track = ds.map fun d => ⟨d.1, d.2.what⟩ := by
  unfold ofEvents
  refine .bind fun ds settled track made => ⟨ds, settled, ?_⟩
  have each := Yields.mapM (fun d _ => Message.ofEvent_eq d.1 d.2) track made
  clear made settled
  induction each with
  | nil => rfl
  | cons here _ ih => rw [here, ih, List.map_cons]

/-- In a track the same things happen as in its events, in the same order. -/
theorem ofEvents_what (events : List Event) :
    Yields (ofEvents events) fun track => track.map Message.what = events.map Event.what := by
  intro track made
  obtain ⟨ds, settled, rfl⟩ := ofEvents_eq events track made
  have kept := Timeline.deltasFrom_kept _ events ds settled
  rw [List.map_map, ← kept, List.map_map]
  rfl

/-- A track that follows a score of whole ticks and happenings: the same things happen in
the same order, and its deltas add up to the ticks. -/
structure Follows (track : Track) (score : List (Int × Happening)) : Prop where
  what : track.map Message.what = score.map Prod.snd
  ticks : Timeline.absolute (track.map fun m => .number m.delta) =
    .ok (score.map fun moment => .whole moment.1)

end Track

/-- What happens in an event, with its whole tick. -/
def Event.moment (e : Event) : Int × Happening := (e.wholeTick, e.what)

/-- A track of events at whole ticks follows them. -/
theorem Track.ofEvents_follows {events : List Event} (whole : WholeTicks events) :
    Yields (Track.ofEvents events) fun track => track.Follows (events.map Event.moment) := by
  intro track made
  refine ⟨?_, ?_⟩
  · rw [ofEvents_what events track made, List.map_map]
    rfl
  · obtain ⟨ds, settled, rfl⟩ := ofEvents_eq events track made
    rw [List.map_map, List.map_map]
    exact Timeline.deltasFrom_sums whole (n := 0) rfl ds settled

/-! ## §4. Songs. -/

/-- The notes that still sound end one after the other, from the lowest string up. -/
theorem Voice.closingEvents_eq (v : Voice) :
    v.closingEvents = v.sounding.reduceOption.map fun pitch =>
      ⟨.number v.clock, .noteOff v.channel (.number pitch) (.whole 0)⟩ := by
  unfold closingEvents List.reduceOption
  rw [List.map_filterMap]
  rfl

/-- What happens in a control track: its maker is named if that is asked for, and then there are
a tempo, the time signature, and the changes of tempo. -/
theorem Voice.controlEvents_what {P : Happening → Prop} (v : Voice) (named : Bool) :
    Yields (v.controlEvents named) fun events => ∃ first,
      microsecondsPerBeat v.dynamics.initialBpm = .ok first ∧
      ((∀ e ∈ events, P e.what) ↔ (named = true → P (.text (.text attributionText))) ∧
        P (.setTempo (.whole first)) ∧
        P (.timeSignature (.list [.whole v.beats, .whole v.config.signature.unit])) ∧
        ∀ c ∈ v.dynamics.tempoChanges.toList, P (.setTempo (.whole c.microseconds))) := by
  unfold controlEvents
  refine .bind fun first tempo => .pure ⟨first, tempo, ?_⟩
  have maker : (∀ e ∈ (if named then [Event.at 0 (.text (.text attributionText))] else []),
      P e.what) ↔ (named = true → P (.text (.text attributionText))) := by
    cases named with
    | true => simp [Event.at]
    | false => simp
  rw [List.forall_mem_append, List.forall_mem_append, maker, List.forall_mem_cons,
    List.forall_mem_singleton, List.forall_mem_map, and_assoc, and_assoc]
  rfl

/-- What is so of no clicks, and of a click if it is so of those from the next beat on, is so of
all clicks. -/
theorem Voice.yields_clicks {last beat : Quantity} {P : Quantity → List Event → Prop}
    (silent : ∀ tick, P tick [])
    (step : ∀ tick off next rest, tick.add clickTicks = .ok off → tick.add beat = .ok next →
      P next rest → P tick (click tick off ++ rest)) (most : Nat) (tick : Quantity) :
    Yields (clicks last beat most tick) (P tick) := by
  induction most generalizing tick with
  | zero => exact .ite_error fun _ => .pure (silent tick)
  | succ most ih =>
    unfold clicks
    split
    · refine .bind fun off stops => .bind fun next goes => .bind fun rest made => .pure ?_
      exact step tick off next rest stops goes (ih next rest made)
    · exact .pure (silent tick)

/-- What holds of the start and the end of a click holds throughout a metronome. -/
theorem Voice.clicks_what {P : Happening → Prop}
    (start : P (.noteOn metronomeChannel clickPitch clickVelocity))
    (stop : P (.noteOff metronomeChannel clickPitch (.whole 0))) (last beat : Quantity) (most : Nat)
    (tick : Quantity) : Yields (clicks last beat most tick) fun events => ∀ e ∈ events, P e.what := by
  refine yields_clicks (P := fun _ events => ∀ e ∈ events, P e.what)
    (fun _ _ here => nomatch here) ?_ most tick
  intro tick off next rest _ _ later
  exact List.forall_mem_cons.2 ⟨start, List.forall_mem_cons.2 ⟨stop, later⟩⟩

/-- There are clicks if there is a lead-in. -/
theorem Voice.metronomeEvents_isSome (v : Voice) :
    Yields v.metronomeEvents fun clicks => clicks.isSome = v.config.lead.isSome := by
  unfold metronomeEvents
  split
  · next silent =>
    rw [silent]
    exact .pure rfl
  · next lead leads =>
    rw [leads]
    exact .bind fun _ _ => .bind fun _ _ => .pure rfl

variable {γ : Type} {band : Band γ} {named : Bool} {song : Song}

/-- How the song of a band is built: each track is made of its events, and the tracks are
put in order. -/
inductive Band.Builds (band : Band γ) (named : Bool) : Song → Prop where
  | mk {events : List Event} {clicks : Option (List Event)} {control notes : Track}
      {metronome : Option Track} {others : List Track}
      (controlEvents : band.master.controlEvents named = .ok events)
      (controlMade : Track.ofEvents events = .ok control)
      (notesMade : Track.ofEvents band.master.noteTrackEvents = .ok notes)
      (metronomeEvents : band.master.metronomeEvents = .ok clicks)
      (metronomeMade : Option.Rel (fun es track => Track.ofEvents es = .ok track) clicks metronome)
      (othersMade : List.Forall₂ (fun v track => Track.ofEvents (Voice.noteTrackEvents v) = .ok track)
        band.auxiliaries others) :
    Builds band named
      ⟨band.master.config.ticks, control :: notes :: (metronome.toList ++ others)⟩

theorem Band.song_builds (band : Band γ) (named : Bool) :
    Yields (band.song named) (band.Builds named) := by
  unfold song
  refine .bind fun events controlEvents => ?_
  refine .bind fun control controlMade => ?_
  refine .bind fun notes notesMade => ?_
  refine .bind fun clicks metronomeEvents => ?_
  refine .bind fun metronome metronomeMade => ?_
  refine .bind fun others othersMade => .pure ?_
  refine .mk controlEvents controlMade notesMade metronomeEvents ?_ ?_
  · cases clicks with
    | none =>
      cases metronomeMade
      exact .none
    | some es =>
      cases made : Track.ofEvents es with
      | error f =>
        rw [Option.mapM_some, made] at metronomeMade
        cases metronomeMade
      | ok track =>
        rw [Option.mapM_some, made] at metronomeMade
        cases metronomeMade
        exact .some made
  · exact Yields.mapM (fun v _ track made => made) others othersMade

/-- The note track of a part among the tracks of a song: those of auxiliaries come after the
metronome, if there is one. -/
def Song.noteTrack? (song : Song) (leads : Bool) : Part → Option Track
  | .master => song.tracks[1]?
  | .auxiliary i => song.tracks[(if leads then 3 else 2) + i]?

/-- Each part has its note track, made of its events. -/
theorem Band.Builds.noteTrack (h : band.Builds named song) {part : Part} {v : Voice}
    (plays : band.voice? part = some v) :
    ∃ track, song.noteTrack? band.master.config.lead.isSome part = some track ∧
      Track.ofEvents v.noteTrackEvents = .ok track := by
  obtain ⟨-, -, notes, metronomeEvents, metronome, others⟩ := h
  cases part with
  | master =>
    cases plays
    exact ⟨_, rfl, notes⟩
  | auxiliary i =>
    obtain ⟨inBand, voice⟩ := List.getElem?_eq_some_iff.1 plays
    have inSong := inBand
    rw [others.length_eq] at inSong
    have made := others.get inBand inSong
    rw [List.get_eq_getElem, List.get_eq_getElem, voice] at made
    refine ⟨_, ?_, made⟩
    have leads := band.master.metronomeEvents_isSome _ metronomeEvents
    unfold Song.noteTrack?
    dsimp only
    rw [← leads, Nat.add_comm]
    cases metronome <;> exact List.getElem?_eq_getElem inSong

end Plectrum
