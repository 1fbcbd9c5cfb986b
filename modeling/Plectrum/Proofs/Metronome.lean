/-
  Plectrum.Proofs.Metronome
  ─────────────────────────
  **The metronome clicks on every beat, and does not count the silence at the end.**

  The clicks stand at the multiples of a beat from zero on, as long as these come before the end
  of the piece or of the lead-in, and each ends one tick after it began.  Silence moves the clock
  and the count of silent ticks by the same, so it does not move the end of the piece.  What it
  moves in a song are the ends of the notes that still sound: they stand at the clock, and of
  their deltas only the first grows.

  Main results:
    * `Voice.metronomeEvents_eq` — all events of a metronome;
    * `Voice.noteTrack_rested` — what silence makes of a note track;
    * `Band.song_rested` — and of a song;
    * `Session.metronome_beats` — both, up to finishing after some measures of silence.
-/
import Plectrum.Proofs.FinishOrder
import Plectrum.Proofs.Saves
import Plectrum.Proofs.SteadyStrikes

namespace Plectrum

/-! ## §1. Clicks. -/

namespace Voice

variable {v : Voice} {lead last beat : Quantity} {t : Int} {r : Rat}

/-- How many beats begin before an end. -/
def beatsBefore (last : Rat) (t : Int) : Nat := (last / t).ceil.toNat

theorem lt_beatsBefore_iff (positive : 0 < t) (k : Nat) :
    k < beatsBefore r t ↔ ((k * t : Int) : Rat) < r := by
  have above : (0 : Rat) < t := Int.cast_pos.2 positive
  unfold beatsBefore
  rw [Int.lt_toNat, Rat.lt_ceil_iff, lt_div_iff₀ above, Int.cast_mul]

/-- The clicks of some beats, from a beat on. -/
def clicksOf (t : Int) (first count : Nat) : List Event :=
  (List.range' first count).flatMap fun k : Nat => click (.whole (k * t)) (.whole (k * t + 1))

/-- Where there is room for them, there are clicks on all beats before the end. -/
theorem clicks_eq (ends : last.place? = some (.value r)) (resolution : beat.integer? = some t)
    (positive : 0 < t) {most first count : Nat} (room : count ≤ most)
    (all : first + count = beatsBefore r t) :
    clicks last beat most (.whole (first * t)) = .ok (clicksOf t first count) := by
  have before : ∀ n : Int, (Quantity.whole n).lt last = decide ((n : Rat) < r) := by
    intro n
    unfold Quantity.lt
    rw [ends]
    rfl
  induction count generalizing most first with
  | zero =>
    -- No beat is left before the end.
    have beyond : ¬ ((first * t : Int) : Rat) < r := by
      rw [← lt_beatsBefore_iff positive, ← all]
      exact Nat.lt_irrefl first
    exact clicks_past ((before _).trans (decide_eq_false beyond)) most
  | succ count ih =>
    obtain ⟨most, rfl⟩ := Nat.exists_eq_succ_of_ne_zero (Nat.ne_zero_of_lt room)
    have begins : ((first * t : Int) : Rat) < r := by
      rw [← lt_beatsBefore_iff positive, ← all]
      omega
    have next : (first * t : Int) + t = (first + 1 : Nat) * t := by
      rw [Nat.cast_succ, Int.add_mul, Int.one_mul]
    have rest : clicks last beat most (.whole ((first + 1 : Nat) * t)) =
        .ok (clicksOf t (first + 1) count) := ih (by omega) (by omega)
    rw [clicks_next ((before _).trans (decide_eq_true begins))
      (Quantity.add_of_integer (m := first * t) rfl (n := 1) rfl)
      (Quantity.add_of_integer (m := first * t) rfl resolution), next, rest]
    rfl

/-- There is always room for them. -/
theorem beatsBefore_le_clickLimit (ends : last.place? = some (.value r))
    (resolution : beat.integer? = some t) (positive : 0 < t) :
    beatsBefore r t ≤ clickLimit last beat := by
  have above : (0 : Rat) < t := Int.cast_pos.2 positive
  unfold clickLimit beatsBefore
  rw [ends, Quantity.place_of_integer resolution]
  dsimp only
  rw [if_pos above]
  omega

/-- How the track of a metronome starts. -/
def metronomeStart : List Event :=
  [.at 0 (.trackName (.text metronomeName)), .at 0 (.programChange metronomeChannel metronomeKit)]

/-- All events of a metronome. -/
theorem metronomeEvents_eq (leads : v.config.lead = some lead)
    (resolution : v.config.ticks.integer? = some t) (positive : 0 < t)
    (ended : v.metronomeEnd lead = .ok last) (ends : last.place? = some (.value r)) :
    v.metronomeEvents = .ok (some (metronomeStart ++ clicksOf t 0 (beatsBefore r t))) := by
  have made := clicks_eq ends resolution positive
    (beatsBefore_le_clickLimit ends resolution positive) (Nat.zero_add _)
  rw [Nat.cast_zero, Int.zero_mul] at made
  unfold metronomeEvents
  rw [leads]
  dsimp only
  rw [ended]
  show (clicks last v.config.ticks (clickLimit last v.config.ticks) (.whole 0) >>= _) = _
  rw [made]
  rfl

/-- No event of a metronome is before another one that precedes it, not even where a beat is a
tick. -/
theorem metronome_inOrder (positive : 0 < t) (count : Nat) :
    (metronomeStart ++ clicksOf t 0 count).Pairwise fun e f => e.wholeTick ≤ f.wholeTick := by
  have within : ∀ k : Nat, ∀ e ∈ click (.whole (k * t)) (.whole (k * t + 1)),
      (k : Int) * t ≤ e.wholeTick ∧ e.wholeTick ≤ k * t + 1 := by
    intro k e inside
    rcases List.mem_cons.1 inside with rfl | inside
    · exact ⟨le_refl _, Int.le_add_one (le_refl _)⟩
    · rw [List.mem_singleton.1 inside]
      exact ⟨Int.le_add_one (le_refl _), le_refl _⟩
  have start : ∀ e ∈ metronomeStart, e.wholeTick = 0 := by decide
  have forward : ∀ e ∈ clicksOf t 0 count, 0 ≤ e.wholeTick := by
    intro e inside
    obtain ⟨k, -, inside⟩ := List.mem_flatMap.1 inside
    exact (Int.mul_nonneg (Int.natCast_nonneg k) positive.le).trans (within k e inside).1
  refine List.pairwise_append.2 ⟨?_, List.pairwise_flatMap.2 ⟨fun k _ => ?_, ?_⟩, ?_⟩
  · exact List.pairwise_pair.2 (le_refl 0)
  · exact List.pairwise_pair.2 (Int.le_add_one (le_refl _))
  · refine List.Pairwise.imp ?_ (List.pairwise_lt_range' (s := 0) (n := count))
    intro k l less e here f there
    -- A click is over a tick later, when the next beat begins at the earliest.
    have beats : ((k : Int) + 1) * t ≤ l * t :=
      Int.mul_le_mul_of_nonneg_right (by exact_mod_cast less) positive.le
    rw [Int.add_mul, Int.one_mul] at beats
    have first := (within k e here).2
    have second := (within l f there).1
    omega
  · intro e here f there
    rw [start e here]
    exact forward f there

/-- A metronome that clicks on all beats of some ticks before an end, each click for one tick, and
does nothing else; and all of that in order. -/
def ClicksOnBeats (v : Voice) (t : Int) (r : Rat) : Prop :=
  ∃ n : Nat, (∀ k : Nat, k < n ↔ ((k * t : Int) : Rat) < r) ∧
    v.metronomeEvents = .ok (some (metronomeStart ++ clicksOf t 0 n)) ∧
    (metronomeStart ++ clicksOf t 0 n).Pairwise fun e f => e.wholeTick ≤ f.wholeTick

theorem clicksOnBeats (leads : v.config.lead = some lead)
    (resolution : v.config.ticks.integer? = some t) (positive : 0 < t)
    (ended : v.metronomeEnd lead = .ok last) (ends : last.place? = some (.value r)) :
    v.ClicksOnBeats t r :=
  ⟨beatsBefore r t, lt_beatsBefore_iff positive,
    metronomeEvents_eq leads resolution positive ended ends, metronome_inOrder positive _⟩

end Voice

/-! ## §2. Deltas, up to the last events. -/

namespace Timeline

/-- The tick from which deltas go on after some events. -/
def lastTick : Quantity → List Event → Quantity
  | now, [] => now
  | _, ⟨.number tick, _⟩ :: events => lastTick tick events
  | now, _ :: events => lastTick now events

/-- The deltas of events that are followed by others. -/
theorem deltasFrom_followed (now : Quantity) (events later : List Event) :
    deltasFrom now (events ++ later) =
      deltasFrom now events >>= fun first =>
        (first ++ ·) <$> deltasFrom (lastTick now events) later := by
  induction events generalizing now with
  | nil => exact (id_map' _).symm
  | cons e events ih =>
    obtain ⟨tick, what⟩ := e
    rw [List.cons_append, deltasFrom, deltasFrom]
    cases tick with
    | number tick =>
      show (tick.sub now >>= fun delta => _) = (tick.sub now >>= fun delta => _) >>= _
      rw [ih, bind_assoc]
      congr 1
      funext delta
      split
      · rfl
      · show (_ >>= fun ds => _) = _
        simp only [bind_assoc, map_eq_pure_bind, pure_bind, List.cons_append]
        rfl
    | _ => rfl

/-- After whole ticks there is a whole tick. -/
theorem lastTick_whole {events : List Event} (whole : WholeTicks events) {now : Quantity}
    (start : now.integer?.isSome = true) : (lastTick now events).integer?.isSome = true := by
  induction events generalizing now with
  | nil => exact start
  | cons e events ih =>
    obtain ⟨tick, what⟩ := e
    obtain ⟨here, rest⟩ := List.forall_mem_cons.1 whole
    cases tick with
    | number tick => exact ih rest here
    | _ => cases here

/-- Where events stand at one tick, only the first has a delta. -/
theorem deltasFrom_together {now : Quantity} {n c : Int} (start : now.integer? = some n)
    (e : Event) (events : List Event) (here : e.StandsAt c) (there : ∀ f ∈ events, f.StandsAt c) :
    deltasFrom now (e :: events) =
      if c < n then .error (.backwards now (.whole (c - n)) e.what.kindName (.whole c))
      else .ok ((.whole (c - n), e) :: events.map fun f => (.whole 0, f)) := by
  have level : deltasFrom (.whole c) events = .ok (events.map fun f => (.whole 0, f)) := by
    induction events with
    | nil => rfl
    | cons f events ih =>
      obtain ⟨first, rest⟩ := List.forall_mem_cons.1 there
      rw [deltasFrom_cons first, if_neg (Int.lt_irrefl c), ih rest, Int.sub_self]
      rfl
  rw [deltasFrom, here]
  show ((Quantity.whole c).sub now >>= fun delta => _) = _
  rw [Quantity.sub_of_integer rfl start]
  show (if (Quantity.whole c).lt now = true then _
    else deltasFrom (.whole c) events >>= fun ds => _) = _
  rw [Quantity.lt_of_integer rfl start, level]
  simp only [decide_eq_true_eq]
  rfl

end Timeline

/-! ## §3. Silence at the end. -/

namespace Voice

variable {v : Voice} {c k x : Int}

/-- A voice with another clock and another count of silent ticks. -/
def restedTo (v : Voice) (clock skip : Int) : Voice :=
  { v with clock := .whole clock, skip := .whole skip }

/-- Silence moves the clock and the count of silent ticks alike, so the metronome stays. -/
theorem metronomeEvents_rested (clock : v.clock = .whole c) (skip : v.skip = .whole k) (x : Int) :
    (v.restedTo (c + x) (k + x)).metronomeEvents = v.metronomeEvents := by
  have ends : ∀ lead, (v.restedTo (c + x) (k + x)).metronomeEnd lead = v.metronomeEnd lead := by
    intro lead
    have same : c + x - (k + x) = c - k := by omega
    have silent : v.clock.sub v.skip = .ok (.whole (c - k)) := by
      rw [clock, skip]
      rfl
    have rested : (Quantity.whole (c + x)).sub (.whole (k + x)) = .ok (.whole (c - k)) :=
      congrArg (fun n => Except.ok (Quantity.whole n)) same
    unfold metronomeEnd
    rw [silent]
    show (if v.config.metronome.isNothing then lead.mul v.config.ticks
      else (Quantity.whole (c + x)).sub (.whole (k + x))) = _
    rw [rested]
  unfold metronomeEvents
  simp only [ends]
  rfl

/-- Note tracks of a voice that differ in the wait before the first of its closing notes, if there
are any. -/
def ClosesLater (v : Voice) (ticks : Int) (notes notes' : Track) : Prop :=
  match v.closingEvents with
  | [] => notes' = notes
  | closing :: _ => ∃ (before after : Track) (delta : Int),
      before.length = 2 + v.events.size ∧
      notes = before ++ ⟨.whole delta, closing.what⟩ :: after ∧
      notes' = before ++ ⟨.whole (delta + ticks), closing.what⟩ :: after

/-- The end of a note that sounds at a tick. -/
def closingAt (v : Voice) (tick : Int) (pitch : Quantity) : Event :=
  ⟨.whole tick, .noteOff v.channel (.number pitch) (.whole 0)⟩

theorem closingEvents_whole (clock : v.clock = .whole c) :
    v.closingEvents = v.sounding.reduceOption.map (v.closingAt c) := by
  rw [closingEvents_eq, clock]
  rfl

/-- All that stands before the closing notes. -/
def openEvents (v : Voice) : List Event :=
  [.at 0 (.trackName v.trackName), .at 0 (.programChange v.channel (.whole v.patch))]
    ++ v.events.toList

theorem openEvents_length (v : Voice) : v.openEvents.length = 2 + v.events.size := by
  unfold openEvents
  rw [List.length_append, Array.length_toList]
  rfl

/-- The deltas of a note track that has notes to close. -/
theorem deltas_closing {l : Int}
    (last : (Timeline.lastTick (.whole 0) v.openEvents).integer? = some l) (tick : Int)
    (pitch : Quantity) (pitches : List Quantity) :
    Timeline.deltas (v.openEvents ++ (pitch :: pitches).map (v.closingAt tick)) =
      Timeline.deltasFrom (.whole 0) v.openEvents >>= fun first =>
        if tick < l then
          .error (.backwards (Timeline.lastTick (.whole 0) v.openEvents) (.whole (tick - l))
            (v.closingAt tick pitch).what.kindName (.whole tick))
        else
          .ok (first ++ (.whole (tick - l), v.closingAt tick pitch) ::
            pitches.map fun p => (.whole 0, v.closingAt tick p)) := by
  have together := Timeline.deltasFrom_together last (v.closingAt tick pitch)
    (pitches.map (v.closingAt tick)) rfl (List.forall_mem_map.2 fun _ _ => rfl)
  unfold Timeline.deltas
  rw [Timeline.deltasFrom_followed, List.map_cons, together, List.map_map]
  congr 1
  funext first
  split <;> rfl

/-- More silence makes the first closing note wait longer, and changes nothing else in a note
track. -/
theorem noteTrack_rested (clock : v.clock = .whole c) (ticks : WholeTicks v.events.toList)
    (forward : 0 ≤ x) (skip : Int) :
    Yields (Track.ofEvents v.noteTrackEvents) fun notes => ∃ notes',
      Track.ofEvents (v.restedTo (c + x) skip).noteTrackEvents = .ok notes' ∧
        v.ClosesLater x notes notes' := by
  let w := v.restedTo (c + x) skip
  have mine : v.noteTrackEvents = v.openEvents ++ v.sounding.reduceOption.map (v.closingAt c) :=
    congrArg (v.openEvents ++ ·) (closingEvents_whole clock)
  have yours : w.noteTrackEvents =
      v.openEvents ++ v.sounding.reduceOption.map (v.closingAt (c + x)) :=
    congrArg (v.openEvents ++ ·) (closingEvents_whole (v := w) rfl)
  intro notes made
  unfold ClosesLater
  rw [closingEvents_whole clock]
  rw [mine] at made
  change ∃ notes', Track.ofEvents w.noteTrackEvents = .ok notes' ∧ _
  rw [yours]
  cases sounding : v.sounding.reduceOption with
  | nil =>
    rw [sounding] at made
    exact ⟨notes, made, rfl⟩
  | cons pitch pitches =>
    rw [sounding] at made
    have opening : WholeTicks v.openEvents := .append (.cons rfl (.cons rfl .nil)) ticks
    have start : (Quantity.whole 0).integer?.isSome = true := rfl
    obtain ⟨l, last⟩ := Option.isSome_iff_exists.1 (Timeline.lastTick_whole opening start)
    -- The closing notes stand at one tick, so only the first of them waits.
    have settles := fun tick => deltas_closing last tick pitch pitches
    obtain ⟨ds, settled, rfl⟩ := Track.ofEvents_eq _ notes made
    obtain ⟨first, begins, settled⟩ := bind_ok ((settles c).symm.trans settled)
    by_cases early : c < l
    · rw [if_pos early] at settled
      cases settled
    rw [if_neg early] at settled
    cases settled
    have later : Timeline.deltas (v.openEvents ++ (pitch :: pitches).map (v.closingAt (c + x))) =
        .ok (first ++ (.whole (c + x - l), v.closingAt (c + x) pitch) ::
          pitches.map fun p => (.whole 0, v.closingAt (c + x) p)) := by
      rw [settles, begins]
      show (if c + x < l then _ else _) = _
      rw [if_neg (by omega)]
    have fits : ∀ e ∈ v.openEvents ++ (pitch :: pitches).map (v.closingAt (c + x)),
        e.what.Fits := by
      have before := (Track.ofEvents_ok_iff.1 ⟨_, made⟩).2
      rw [List.forall_mem_append, List.forall_mem_map] at before ⊢
      exact before
    obtain ⟨notes', made'⟩ := Track.ofEvents_ok_iff.2 ⟨⟨_, later⟩, fits⟩
    obtain ⟨ds', settled', rfl⟩ := Track.ofEvents_eq _ notes' made'
    cases later.symm.trans settled'
    refine ⟨_, made', first.map fun d => ⟨d.1, d.2.what⟩,
      pitches.map fun p => ⟨.whole 0, (v.closingAt c p).what⟩, c - l, ?_, ?_, ?_⟩
    · rw [List.length_map, ← v.openEvents_length, ← Timeline.deltasFrom_kept _ _ first begins,
        List.length_map]
    · rw [List.map_append, List.map_cons, List.map_map]
      rfl
    · have wait : c + x - l = c - l + x := by omega
      rw [wait, List.map_append, List.map_cons, List.map_map]
      rfl

end Voice

/-! ## §4. Songs after silence. -/

/-- Songs that differ in the wait before the first closing note of a master, if it has any: the
control track, the metronome and the tracks of the auxiliaries are the same. -/
def Song.ClosesLater (v : Voice) (ticks : Int) (song song' : Song) : Prop :=
  ∃ (control notes notes' : Track) (others : List Track),
    song = ⟨v.config.ticks, control :: notes :: others⟩ ∧
    song' = ⟨v.config.ticks, control :: notes' :: others⟩ ∧
    v.ClosesLater ticks notes notes'

section Songs

variable {γ : Type} {band : Band γ} {c k x : Int}

/-- A band whose master has another clock and another count of silent ticks. -/
def Band.restedTo (band : Band γ) (clock skip : Int) (chance : Option γ) : Band γ :=
  { band with master := band.master.restedTo clock skip, chance }

/-- More silence lets the notes that still sound close later, and changes nothing else in a song. -/
theorem Band.song_rested (clock : band.master.clock = .whole c) (skip : band.master.skip = .whole k)
    (ticks : WholeTicks band.master.events.toList) (forward : 0 ≤ x) (chance : Option γ)
    (named : Bool) :
    Yields (band.song named) fun song => ∃ song',
      (band.restedTo (c + x) (k + x) chance).song named = .ok song' ∧
        song.ClosesLater band.master x song' := by
  intro song built
  unfold Band.song at built
  obtain ⟨events, controlEvents, built⟩ := bind_ok built
  obtain ⟨control, controlMade, built⟩ := bind_ok built
  obtain ⟨notes, notesMade, built⟩ := bind_ok built
  obtain ⟨clicks, metronomeEvents, built⟩ := bind_ok built
  obtain ⟨metronome, metronomeMade, built⟩ := bind_ok built
  obtain ⟨others, othersMade, built⟩ := bind_ok built
  obtain ⟨notes', notesMade', later⟩ :=
    Voice.noteTrack_rested clock ticks forward (k + x) notes notesMade
  rw [← Voice.metronomeEvents_rested clock skip x] at metronomeEvents
  refine ⟨⟨band.master.config.ticks, control :: notes' :: (metronome.toList ++ others)⟩, ?_,
    control, notes, notes', metronome.toList ++ others, (Except.ok.inj built).symm, rfl, later⟩
  show (band.master.controlEvents named >>= _) = _
  rw [controlEvents]
  show (Track.ofEvents events >>= _) = _
  rw [controlMade]
  show (Track.ofEvents (band.master.restedTo (c + x) (k + x)).noteTrackEvents >>= _) = _
  rw [notesMade']
  show ((band.master.restedTo (c + x) (k + x)).metronomeEvents >>= _) = _
  rw [metronomeEvents]
  show (clicks.mapM Track.ofEvents >>= _) = _
  rw [metronomeMade]
  show (band.auxiliaries.mapM (fun v => Track.ofEvents v.noteTrackEvents) >>= _) = _
  rw [othersMade]
  rfl

/-- Of such songs, the later one can be written if the other can and it is not too long. -/
theorem Song.ClosesLater.written {v : Voice} {song song' : Song}
    (later : song.ClosesLater v x song') (forward : 0 ≤ x)
    (written : (MidiFile.write song).2 = none) :
    (MidiFile.write song').2 = none ↔ ∀ track ∈ song'.tracks, MidiFile.Short track := by
  obtain ⟨control, notes, notes', others, rfl, rfl, later⟩ := later
  obtain ⟨header, each⟩ := MidiFile.write_unfailing_iff.1 written
  have same : MidiFile.header ⟨v.config.ticks, control :: notes' :: others⟩ =
      MidiFile.header ⟨v.config.ticks, control :: notes :: others⟩ := rfl
  rw [MidiFile.write_unfailing_iff, same, and_iff_right header]
  obtain ⟨controlFits, each⟩ := List.forall_mem_cons.1 each
  obtain ⟨⟨content, notesFit, -⟩, othersFit⟩ := List.forall_mem_cons.1 each
  have notesFit' : ∃ content', MidiFile.trackBytes none notes' = .ok content' := by
    unfold Voice.ClosesLater at later
    cases closing : v.closingEvents with
    | nil =>
      rw [closing] at later
      exact ⟨content, later ▸ notesFit⟩
    | cons e es =>
      rw [closing] at later
      obtain ⟨before, after, delta, -, rfl, rfl⟩ := later
      have waits := MidiFile.trackBytes_deltas ⟨content, notesFit⟩ ⟨.whole delta, e.what⟩
        (List.mem_append_right before List.mem_cons_self)
      have start : 0 ≤ delta := MidiFile.deltaBytes_whole_ok_iff.1 waits
      exact MidiFile.trackBytes_waiting
        (MidiFile.deltaBytes_whole_ok_iff.2 (Int.add_nonneg start forward)) ⟨content, notesFit⟩
  have writes : ∀ track ∈ control :: notes' :: others,
      ∃ content, MidiFile.trackBytes none track = .ok content := by
    refine List.forall_mem_cons.2 ⟨?_, List.forall_mem_cons.2 ⟨notesFit', ?_⟩⟩
    · exact controlFits.imp fun _ fits => fits.1
    · exact fun track here => (othersFit track here).imp fun _ fits => fits.1
  refine forall₂_congr fun track here => ⟨?_, fun short => ?_⟩
  · rintro ⟨content, made, short⟩ _ made'
    cases made.symm.trans made'
    exact short
  · obtain ⟨content, made⟩ := writes track here
    exact ⟨content, made, short content made⟩

/-- An open master that finishing would return a song of returns, after more silence, the song with
that silence: as long as the clock can still be written and, where a file is chosen, no track is
too long for it. -/
theorem Perform.finish_rested (family : band.Family) (isOpen : band.master.finished = false)
    (clock : band.master.clock = .whole c) (skip : band.master.skip = .whole k)
    (ticks : WholeTicks band.master.events.toList) (forward : 0 ≤ x) {midi attribution : Datum}
    {song : Song} {journal : Journal}
    (returned : ((finish .master midi attribution).start ⟨band, journal⟩).1 = .ok (some song))
    (chance : Option γ) (journal' : Journal) :
    ∃ song', song.ClosesLater band.master x song' ∧ ∀ s,
      ((finish .master midi attribution).start
          ⟨band.restedTo (c + x) (k + x) chance, journal'⟩).1 = .ok (some s) ↔
        s = song' ∧ (Quantity.whole (c + x)).isWritable = true ∧
        ((chosenFile midi band.master.config.midi).isNothing = false →
          ∀ track ∈ song'.tracks, MidiFile.Short track) := by
  obtain ⟨built, writable, saved⟩ := (finish_returns_iff family.master isOpen journal).1 returned
  obtain ⟨song', built', closes⟩ := band.song_rested clock skip ticks forward chance _ song built
  have count : song'.tracks.length = song.tracks.length := by
    obtain ⟨control, notes, notes', others, rfl, rfl, -⟩ := closes
    rfl
  have named : band.master.Named := family.named .master _ rfl
  -- As many tracks are reported, so only the clock can make the report too long.
  have report : ((band.master.restedTo (c + x) (k + x)).farewell song'.tracks.length).isWritable =
      (Quantity.whole (c + x)).isWritable := by
    rw [Voice.farewell_isWritable named, Bool.and_eq_true] at writable
    rw [Voice.farewell_isWritable (v := band.master.restedTo (c + x) (k + x)) named, count,
      writable.1]
    exact Bool.true_and _
  have master : (band.restedTo (c + x) (k + x) chance).master.auxiliary = false := family.master
  have stillOpen : (band.restedTo (c + x) (k + x) chance).master.finished = false := isOpen
  refine ⟨song', closes, fun s => (finish_returns_iff master stillOpen journal').trans ?_⟩
  constructor
  · rintro ⟨made, reported, kept⟩
    obtain rfl : song' = s := Except.ok.inj (built'.symm.trans made)
    refine ⟨rfl, report.symm.trans reported, fun chosen => ?_⟩
    obtain ⟨_, received⟩ := saved chosen
    obtain ⟨_, received'⟩ := kept chosen
    exact (closes.written forward received.written).1 received'.written
  · rintro ⟨rfl, reported, short⟩
    refine ⟨built', report.trans reported, fun chosen => ?_⟩
    obtain ⟨_, received⟩ := saved chosen
    exact received.other ((closes.written forward received.written).2 (short chosen))

end Songs

/-! ## §5. Sessions. -/

section Sessions

variable {γ : Type} [ChanceSource γ] {band : Band γ}

/-- An open master keeps silent for as many measures as it is asked. -/
theorem Perform.ensures_rest {c k t : Int} (isOpen : band.master.finished = false)
    (clock : band.master.clock = .whole c) (skip : band.master.skip = .whole k)
    (measure : band.master.measure = .whole t) (n : Nat) :
    (Call.move .master (.rest (.whole n))).perform.Ensures band
      (fun _ b => ∃ chance, b = band.restedTo (c + t * n) (k + t * n) chance)
      fun _ _ => False := by
  refine ensures_on (fun missing => nomatch missing) fun v plays => ?_
  cases plays
  refine (Play.ensures_rests_exact (p := ⟨band.master, band.chance⟩) isOpen clock skip measure
    n).mono ?_ fun _ _ never => never
  intro _ q rested
  exact ⟨q.chance, congrArg (fun w => { band with master := w, chance := q.chance }) rested⟩

/-- What a metronome does.  A metronome whose end has a place clicks on all beats before it, each
time for one tick, and does nothing else; the end is that of the lead-in if the metronome is
turned off, and otherwise that of the piece without the silence at the end.  In a session of
declared calls, of voices whose resolution and lead-in are whole, there is such an end.  If
finishing would return a song then, and the recorded ticks are whole, silence goes well, and after
it finishing returns a song in which nothing has changed but the wait before the first of the
closing notes of the master, if there are any: it has grown by the measures of silence.  It does
so as long as the clock can be written and, where a file is chosen, no track is too long for it. -/
theorem Session.metronome_beats (created : band.Created) {calls : List Call}
    (declared : ∀ call ∈ calls, call.Declared) (journal : Journal) :
    (∀ (v : Voice) (lead last : Quantity) (t : Int) (r : Rat), v.config.lead = some lead →
      v.config.ticks.integer? = some t → 1 ≤ t →
      (if v.config.metronome.isNothing then lead.mul v.config.ticks else v.clock.sub v.skip) =
        .ok last →
      last.place? = some (.value r) → v.ClicksOnBeats t r) ∧
    let now := run calls ⟨band, journal⟩
    (∀ part v, now.state.voice? part = some v → v.config.Whole →
      ∀ lead, v.config.lead = some lead → ∃ last : Int,
        (if v.config.metronome.isNothing then lead.mul v.config.ticks else v.clock.sub v.skip) =
          .ok (.whole last) ∧ v.ClicksOnBeats v.config.beatTicks last) ∧
    let v := now.state.master
    v.config.Whole → WholeTicks v.events.toList → v.finished = false →
      ∀ midi attribution song,
        ((Perform.finish .master midi attribution).start now).1 = .ok (some song) →
      ∀ n : Nat,
        let silence : Call := .move .master (.rest (.whole n))
        let rested := run [silence] now
        (silence.perform.start now).1 = .ok () ∧
        ∃ song', song.ClosesLater v (n * v.config.measureTicks) song' ∧ ∀ s,
          ((Perform.finish .master midi attribution).start rested).1 = .ok (some s) ↔
            s = song' ∧ rested.state.master.clock.isWritable = true ∧
            ((Perform.chosenFile midi v.config.midi).isNothing = false →
              ∀ track ∈ song'.tracks, MidiFile.Short track) := by
  refine ⟨fun v lead last t r leads resolution positive ended ends =>
    Voice.clicksOnBeats leads resolution positive ended ends, ?_, ?_⟩
  · intro part v plays whole lead leads
    have clocked := clocked created declared journal part v plays whole
    obtain ⟨t, resolution, positive⟩ := clocked.resolution
    have beat : v.config.beatTicks = t := by
      unfold Config.beatTicks
      rw [resolution]
      rfl
    obtain ⟨c, clock⟩ := clocked.clock
    obtain ⟨k, skip⟩ := clocked.skip
    obtain ⟨last, ended⟩ := Voice.metronomeEnd_whole whole clock skip leads
    exact ⟨last, ended, beat ▸ Voice.clicksOnBeats leads resolution positive ended rfl⟩
  · intro v whole ticks isOpen midi attribution song returned n silence rested
    have clocked := clocked created declared journal .master v rfl whole
    obtain ⟨c, clock⟩ := clocked.clock
    obtain ⟨k, skip⟩ := clocked.skip
    have even := throughout_even created calls journal .master v rfl
    obtain ⟨positive, measure⟩ := even.measure whole.ticks
    have family : (run calls ⟨band, journal⟩).state.Family :=
      (Band.Family.of_created created).run calls
    have rests := Perform.ensures_rest isOpen clock skip measure n
    have goesWell : (silence.perform.start (run calls ⟨band, journal⟩)).1 = .ok () :=
      (rests.mono (fun _ _ _ => rfl) fun _ _ never => never).outcome_ok _
    obtain ⟨chance, later⟩ := rests.of_ok goesWell
    have forward : 0 ≤ v.config.measureTicks * n :=
      Int.mul_nonneg (Config.measureTicks_nonneg positive.le) (Int.natCast_nonneg n)
    obtain ⟨song', closes, returns⟩ := Perform.finish_rested family isOpen clock skip ticks forward
      returned chance rested.journal
    have same : rested = ⟨(run calls ⟨band, journal⟩).state.restedTo (c + v.config.measureTicks * n)
        (k + v.config.measureTicks * n) chance, rested.journal⟩ :=
      congrArg (fun b => (⟨b, rested.journal⟩ : Desk (Band γ))) later
    refine ⟨goesWell, song', Int.mul_comm _ _ ▸ closes, fun s => ?_⟩
    rw [same]
    exact returns s

end Sessions

/-! ## §6. A note that sounds on, and a lead-in that is no whole number. -/

/-- A new band of one string, after a beat. -/
def countedIn : Except Fault (Desk (Band Script)) :=
  Session.begin [] [("strings", .list [.whole 40]), ("lead", .whole 1)]

/-- One stroke on the open string. -/
def strokes : List Call :=
  [.move .master (.play (.pattern ⟨[⟨1, [⟨1, 80⟩]⟩]⟩) [.list [.whole 0]])]

/-- Some measures of silence. -/
def silentFor (measures : Nat) : Call := .move .master (.rest (.whole measures))

/-- After two measures of silence, an open string still sounds in the song, and ends two measures
later. -/
theorem strokes_close_later :
    ∃ desk song song', countedIn = .ok desk ∧
      let now := Session.run strokes desk
      let later := Session.run [silentFor 2] now
      now.state.master.ClicksOnBeats 192 960 ∧ now.state.master.closingEvents.length = 1 ∧
      ((Perform.finish .master .null .null).start now).1 = .ok (some song) ∧
      ((Perform.finish .master .null .null).start later).1 = .ok (some song') ∧
      song.ClosesLater now.state.master 1536 song' := by
  have seen : (countedIn.toOption.map fun desk =>
      let now := Session.run strokes desk
      let v := now.state.master
      ((Perform.finish .master .null .null).start now).1.toOption.join.map fun _ =>
        (decide (v.config.lead = some (.whole 1) ∧ v.config.metronome.isNothing = false ∧
            v.clock = .whole 960 ∧ v.skip = .whole 0 ∧ v.config.ticks = .whole 192 ∧
            v.config.measureTicks = 768),
          decide (WholeTicks v.events.toList ∧ v.finished = false ∧ v.closingEvents.length = 1),
          (Session.run [silentFor 2] now).state.master.clock.isWritable,
          (Perform.chosenFile .null v.config.midi).isNothing)) =
      some (some (true, true, true, true)) := by
    decide +kernel
  obtain ⟨desk, begun, seen⟩ := exists_ok_of_seen seen
  obtain ⟨song, returned, seen⟩ := exists_some_of_seen seen
  simp only [Prod.mk.injEq, decide_eq_true_eq] at seen
  obtain ⟨⟨leads, sounds, clock, skip, resolution, measure⟩, ⟨ticks, isOpen, closing⟩, short,
    unsaved⟩ := seen
  have whole : (Session.run strokes desk).state.master.config.Whole := by
    refine ⟨?_, fun lead leads' => ?_⟩
    · rw [resolution]
      rfl
    · cases leads.symm.trans leads'
      rfl
  have declared : ∀ call ∈ strokes, call.Declared := List.forall_mem_singleton.2 True.intro
  obtain ⟨clicks, -, silence⟩ := Session.metronome_beats (Session.begin_created _ _ desk begun)
    declared desk.journal
  obtain ⟨-, song', closes, returns⟩ := silence whole ticks isOpen .null .null song returned 2
  refine ⟨desk, song, song', begun, ?_, closing, returned, ?_, ?_⟩
  · refine clicks _ (.whole 1) (.whole 960) 192 960 leads ?_ (by decide) ?_ rfl
    · rw [resolution]
      rfl
    · rw [sounds, clock, skip]
      rfl
  · refine (returns song').2 ⟨rfl, short, fun chosen => ?_⟩
    cases chosen.symm.trans unsaved
  · rw [measure] at closes
    exact closes

/-- A new band of one string, after a beat and the least fraction of one. -/
def hairLead : Except Fault (Desk (Band Script)) :=
  Session.begin [] [("strings", .list [.whole 40]),
    ("lead", .number (.float (.ofQuotient 4503599627370497 4503599627370496)))]

/-- After a fraction of a tick, silence rounds the clock, and a click is lost. -/
theorem hairLead_loses_click :
    ∃ desk song song' clicks clicks', hairLead = .ok desk ∧
      ((Perform.finish .master .null .null).start desk).1 = .ok (some song) ∧
      ((Perform.finish .master .null .null).start (Session.run [silentFor 1] desk)).1 =
        .ok (some song') ∧
      song.tracks[2]? = some clicks ∧ song'.tracks[2]? = some clicks' ∧
      clicks.length = 6 ∧ clicks'.length = 4 := by
  have seen : (hairLead.toOption.map fun desk =>
      ((Perform.finish .master .null .null).start desk).1.toOption.join.map fun song =>
        song.tracks[2]?.map List.length) = some (some (some 6)) := by
    decide +kernel
  have seen' : (hairLead.toOption.map fun desk =>
      ((Perform.finish .master .null .null).start
        (Session.run [silentFor 1] desk)).1.toOption.join.map fun song =>
          song.tracks[2]?.map List.length) = some (some (some 4)) := by
    decide +kernel
  obtain ⟨desk, begun, seen⟩ := exists_ok_of_seen seen
  obtain ⟨_, begun', seen'⟩ := exists_ok_of_seen seen'
  cases begun.symm.trans begun'
  obtain ⟨song, returned, seen⟩ := exists_some_of_seen seen
  obtain ⟨song', returned', seen'⟩ := exists_some_of_seen seen'
  obtain ⟨clicks, third, six⟩ := Option.map_eq_some_iff.1 seen
  obtain ⟨clicks', third', four⟩ := Option.map_eq_some_iff.1 seen'
  exact ⟨desk, song, song', clicks, clicks', begun, returned, returned', third, third', six, four⟩

end Plectrum
