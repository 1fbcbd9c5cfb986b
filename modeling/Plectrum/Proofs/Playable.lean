/-
  Plectrum.Proofs.Playable
  ────────────────────────
  **Whatever is recorded can be played.**

  However a session goes, and wherever its calls fail, a voice records nothing that the
  format has no room for: whole ticks from zero on, pitches from 0 to 127, and forces that
  can be heard.  Strings only ever sound such pitches.  So the one thing that can keep a note
  track from being made is its order; and a report of that, like all reports, may itself fail
  when one of its numbers is too long to be written.

  Main results:
    * `Move.ensures_playable` — what a move that is no single note adds to a voice is playable,
      in whatever way the move ends;
    * `Session.throughout_tuned` — strings sound pitches at every point of every session;
    * `Session.recorded_playable` — without single notes all events are playable, and a note
      track fails only by reporting its first step back.
-/
import Plectrum.Proofs.Finality
import Plectrum.Proofs.Pitches
import Plectrum.Proofs.StepsBack
import Plectrum.Proofs.Walks
import Plectrum.Proofs.WholeClock

namespace Plectrum

/-! ## §1. Playable events. -/

/-- The start of a note that can be heard, or the end of one, from tick zero on. -/
inductive Event.Playable (channel : Datum) : Event → Prop where
  | start {tick : Int} {pitch : Quantity} {velocity : Int} (begun : 0 ≤ tick)
      (known : pitch.IsPitch) (low : 1 ≤ velocity) (high : velocity ≤ 127) :
    Playable channel (.start channel tick pitch velocity)
  | stop {tick : Int} {pitch : Quantity} (begun : 0 ≤ tick) (known : pitch.IsPitch) :
    Playable channel (.stop channel tick pitch)

/-- What has become of a voice that was played within range: it is what it was, its strings
sound pitches, and the events it has gained are playable. -/
structure Voice.PlayedOn (v w : Voice) : Prop where
  config : w.config = v.config
  tuning : w.tuning = v.tuning
  sounding : ∀ pitch, some pitch ∈ w.sounding → pitch.IsPitch
  events : ∃ es, w.events = v.events ++ es ∧ ∀ e ∈ es, e.Playable v.channel

namespace Voice.PlayedOn

variable {v w x : Voice}

theorem refl (sounding : ∀ pitch, some pitch ∈ v.sounding → pitch.IsPitch) : v.PlayedOn v := by
  refine ⟨rfl, rfl, sounding, #[], Array.append_empty.symm, ?_⟩
  exact fun e here => nomatch here

/-- What changes neither the strings nor the timeline changes nothing about this. -/
theorem same (h : v.PlayedOn w) (config : x.config = w.config) (tuning : x.tuning = w.tuning)
    (sounding : x.sounding = w.sounding) (events : x.events = w.events) : v.PlayedOn x := by
  refine ⟨config.trans h.config, tuning.trans h.tuning, ?_, ?_⟩
  · rw [sounding]
    exact h.sounding
  · rw [events]
    exact h.events

theorem quiet (h : v.PlayedOn w) (quiet : w.Quiet x) : v.PlayedOn x :=
  h.same quiet.config quiet.tuning quiet.sounding quiet.events

/-- A playable event may be recorded. -/
theorem extended (h : v.PlayedOn w) (d : Loudness) {e : Event} (playable : e.Playable v.channel) :
    v.PlayedOn (w.extended d w.sounding [e]) := by
  obtain ⟨es, gained, each⟩ := h.events
  refine ⟨h.config, h.tuning, h.sounding, es ++ #[e], ?_, ?_⟩
  · show w.events ++ #[e] = _
    rw [gained, Array.append_assoc]
  · intro f here
    obtain before | now := Array.mem_append.1 here
    · exact each f before
    · rw [List.mem_singleton.1 (Array.mem_def.1 now)]
      exact playable

/-- A string may sound a pitch from now on, or none. -/
theorem set (h : v.PlayedOn w) (index : Nat) {sounds : Option Quantity}
    (known : ∀ pitch, sounds = some pitch → pitch.IsPitch) :
    v.PlayedOn { w with sounding := w.sounding.set index sounds } := by
  refine ⟨h.config, h.tuning, fun pitch here => ?_, h.events⟩
  obtain before | now := List.mem_or_eq_of_mem_set here
  · exact h.sounding pitch before
  · exact known pitch now.symm

theorem channel (h : v.PlayedOn w) : w.channel = v.channel := by
  unfold Voice.channel
  rw [h.config]

theorem roots (h : v.PlayedOn w) : w.roots = v.roots := by
  unfold Voice.roots
  rw [h.tuning]

theorem stringCount (h : v.PlayedOn w) : w.stringCount = v.stringCount :=
  congrArg List.length h.roots

theorem tabStyle (h : v.PlayedOn w) : w.tabStyle = v.tabStyle := Voice.tabStyle_congr h.config

end Voice.PlayedOn

/-! ## §2. Strikes. -/

namespace Play

variable {γ : Type} {v : Voice} {tick : Int} {index : Nat} {pitch : Quantity}

/-- An act that keeps playing a voice within range. -/
abbrev InRange {α : Type} (v : Voice) (act : Play γ α) : Prop :=
  Act.Keeps (fun p : Player γ => v.PlayedOn p.voice) act

/-- What comes after a look at the voice may build on what has become of it. -/
theorem inRange_voice_bind {α : Type} {next : Voice → Play γ α}
    (h : ∀ w, v.PlayedOn w → InRange v (next w)) : InRange v (voice >>= next) :=
  fun p here => (ensures_voice_bind next).2 (h p.voice here p here)

/-- A note at a tick from zero on, of a pitch, is playable whatever its force. -/
theorem inRange_note (begun : 0 ≤ tick) (known : pitch.IsPitch) (force : Quantity) :
    InRange v (note (.whole tick) (.number pitch) (.number force) : Play γ Unit) := by
  intro p here
  cases isOpen : p.voice.finished with
  | true =>
    unfold note
    rw [ensures_requireOpen_bind, if_pos isOpen]
    exact here
  | false =>
    cases silent : force.le (.whole 0) with
    | true =>
      refine (ensures_note_stop isOpen _ _ silent).mono ?_ fun _ _ never => never.elim
      rintro _ _ rfl
      rw [here.channel]
      exact here.extended _ (.stop begun known)
    | false =>
      refine (ensures_note_start isOpen _ _ silent).mono ?_ ?_
      · rintro _ _ ⟨d, velocity, low, high, rfl⟩
        rw [here.channel]
        exact here.extended d (.start begun known low high)
      · rintro _ _ ⟨-, d, rfl⟩
        exact here.quiet (p.voice.quiet_extended d)

theorem inRange_setSounding (index : Nat) {sounds : Option Quantity}
    (known : ∀ pitch, sounds = some pitch → pitch.IsPitch) :
    InRange v (setSounding index sounds : Play γ Unit) := by
  intro p here
  unfold setSounding
  rw [ensures_changeVoice]
  exact here.set index known

/-- What is cut has sounded, so it is in range. -/
theorem inRange_cut (begun : 0 ≤ tick) : InRange v (cut tick index : Play γ Unit) := by
  unfold cut
  refine inRange_voice_bind fun w here => ?_
  split
  · next old sounds =>
    exact inRange_note begun (here.sounding old (List.mem_of_getElem? sounds)) _
  · exact .pure _

theorem inRange_muteOrSound (begun : 0 ≤ tick) (known : pitch.IsPitch) (velocity : Int)
    (stray : Binary64) (closes : Bool) :
    InRange v (muteOrSound tick index pitch velocity stray closes : Play γ Unit) := by
  unfold muteOrSound
  split
  · unfold mute
    have silence : InRange v (setSounding index none : Play γ Unit) :=
      inRange_setSounding index nofun
    split
    · exact .bind (inRange_note begun known _) fun _ => silence
    · exact silence
  · unfold sound
    refine inRange_voice_bind fun w _ => .bind (.lift _) fun force => ?_
    refine .bind (inRange_note begun known _) fun _ => ?_
    exact inRange_setSounding index fun _ same => Option.some.inj same ▸ known

theorem inRange_strike (begun : 0 ≤ tick) (known : pitch.IsPitch) (velocity : Int)
    (stray : Binary64) (closes : Bool) :
    InRange v (strike tick index pitch velocity stray closes : Play γ Unit) := by
  have rest : InRange v (muteOrSound tick index pitch velocity stray closes : Play γ Unit) :=
    inRange_muteOrSound begun known velocity stray closes
  unfold strike
  split
  · exact .bind (inRange_cut begun) fun _ => rest
  · exact rest

/-- A stroke at a fret that was read with its chord. -/
theorem inRange_stroke (begun : 0 ≤ tick) {frets : List (Option Int)}
    (fits : Chord.Fits v.roots frets) (stray : Binary64) (s : Stroke) :
    InRange v (stroke tick stray frets s : Play γ Unit) := by
  unfold stroke
  refine inRange_voice_bind fun w here => ?_
  split
  · split
    · exact .throw _
    · exact .pure _
  · next index _ =>
    rw [here.roots]
    split
    · next fret root fretted rooted =>
      intro p there
      rw [Act.ensures_lift_bind]
      refine ⟨fun pitch sum => ?_, fun _ _ => there⟩
      exact inRange_strike begun (fits index root fret rooted fretted pitch sum) _ _ _ p there
    · exact .pure _

/-- A cell that was checked with its line. -/
theorem inRange_cell (begun : 0 ≤ tick) (stray : Binary64) {line : Nat} {l : Letter}
    (fits : v.CellFits line l) : InRange v (cell tick stray line l : Play γ Unit) := by
  unfold cell
  split
  · exact .pure _
  · next struck =>
    refine inRange_voice_bind fun w here => ?_
    rw [here.roots, here.stringCount, here.tabStyle]
    dsimp only
    split
    · exact .pure _
    · next root rooted =>
      intro p there
      rw [Act.ensures_lift_bind]
      refine ⟨fun digit read => ?_, fun _ _ => there⟩
      rw [Act.ensures_lift_bind]
      refine ⟨fun note made => ?_, fun _ _ => there⟩
      have sounds : l ≠ '-' := fun silent => struck (beq_iff_eq.2 silent)
      exact inRange_strike begun (fits root rooted sounds digit read note made) _ _ _ p there

theorem inRange_cells (begun : 0 ≤ tick) (stray : Binary64) {column : Text} {line : Nat}
    (fits : ∀ (i : Nat) (l : Letter), column[i]? = some l → v.CellFits (line + i) l) :
    InRange v (cells tick stray line column : Play γ Unit) := by
  induction column generalizing line with
  | nil => exact .pure _
  | cons l column ih =>
    refine .bind (inRange_cell begun stray (fits 0 l rfl)) fun _ => ih fun i l' here => ?_
    rw [Nat.add_right_comm]
    exact fits (i + 1) l' here

end Play

/-! ## §3. Passages. -/

/-- A sheet that was checked for a voice: its frets, or its cells, keep the strings in range. -/
def Sheet.FitsStrings (v : Voice) : Sheet → Prop
  | .measures _ parsed => ∀ frets ∈ parsed, Chord.Fits v.roots frets
  | .grid g => ∀ column ∈ g.columns, ∀ (line : Nat) (l : Letter), column.2[line]? = some l →
      v.CellFits line l

/-- What is read has been checked. -/
theorem Passage.read_fitsStrings {v : Voice} (known : ∀ root ∈ v.roots, root.IsPitch)
    (c : Passage) : Yields (c.read v) (Sheet.FitsStrings v) := by
  cases c with
  | pattern p chords =>
    refine .map ?_
    unfold Play.readChords
    refine .check fun _ => ?_
    exact Yields.mapM_forall fun chord _ => Chord.frets_fit known chord
  | other kindName chords => exact .error _
  | tab parts beats => exact .map (Play.readTab_fits known parts beats)

namespace Play

variable {γ : Type} {v : Voice}

theorem inRange_of_quiet {α : Type} {act : Play γ α} (quiet : ∀ p, KeepsQuiet act p) :
    InRange v act :=
  fun p here => (quiet p).mono (fun _ _ still => here.quiet still) fun _ _ still => here.quiet still

/-- Where in time a voice is does not matter for this. -/
theorem timeless_playedOn (v : Voice) : Voice.Timeless v.PlayedOn :=
  ⟨fun _ _ _ here => here.same rfl rfl rfl rfl, fun _ _ _ here => here.same rfl rfl rfl rfl⟩

/-- A sheet that was checked is played within range, as far as it is played. -/
theorem inRange_sheet [ChanceSource γ] {sheet : Sheet} (fits : sheet.FitsStrings v) :
    InRange v (sheet.act : Play γ Unit) := by
  cases sheet with
  | measures pattern parsed =>
    apply Act.KeepsOn.keeps
    apply walks_playMeasures (timeless_playedOn v)
    intro frets inParsed g _ s _ tick begun stray
    exact (inRange_stroke begun (fits frets inParsed) stray s).on
  | grid g =>
    apply Act.KeepsOn.keeps
    apply walks_playGrid (timeless_playedOn v)
    intro column inGrid tick begun stray
    apply Act.Keeps.on
    apply inRange_cells begun stray
    intro i l inColumn
    rw [Nat.zero_add]
    exact fits column inGrid i l inColumn

end Play

section Moves

variable {γ : Type} [ChanceSource γ]

/-- A move that is no single note is played within range, in whatever way it ends. -/
theorem Move.ensures_playable {m : Move} (scored : m.isNote = false) {p : Player γ}
    (known : ∀ root ∈ p.voice.roots, root.IsPitch)
    (sounding : ∀ pitch, some pitch ∈ p.voice.sounding → pitch.IsPitch) :
    m.act.Ensures p (fun _ q => p.voice.PlayedOn q.voice) fun _ q => p.voice.PlayedOn q.voice := by
  have begun := Voice.PlayedOn.refl sounding
  obtain ⟨c, same⟩ | quiet := m.passage_or_quiet (γ := γ) scored
  · rw [same]
    have played : c.act.Ensures p (fun _ q => p.voice.PlayedOn q.voice)
        fun _ q => True → p.voice.PlayedOn q.voice :=
      Play.walks_passage c begun fun sheet read =>
        (Play.inRange_sheet (c.read_fitsStrings known sheet read)).on
    exact played.mono (fun _ _ there => there) fun _ _ there => there True.intro
  · exact Play.inRange_of_quiet quiet p begun

end Moves

/-! ## §4. Sessions. -/

/-- A voice as it was accepted, whose strings sound pitches. -/
structure Voice.Tuned (v : Voice) : Prop where
  inBounds : v.config.InBounds
  patch : 0 ≤ v.patch ∧ v.patch ≤ 127
  roots : ∀ root ∈ v.roots, root.IsPitch
  sounding : ∀ pitch, some pitch ∈ v.sounding → pitch.IsPitch

/-- A tuned voice whose timeline is playable. -/
structure Voice.Playable (v : Voice) : Prop extends v.Tuned where
  events : ∀ e ∈ v.events, e.Playable v.channel

namespace Voice

variable {v w : Voice}

theorem New.tuned (h : v.New) : v.Tuned := by
  obtain ⟨options, accepted, tuned, fresh⟩ := h.fresh
  have unplayed := h.unplayed
  refine ⟨unplayed.inBounds, unplayed.patch, Tuning.ofConfig_pitches _ v.tuning tuned, ?_⟩
  intro pitch here
  cases unplayed.silent _ here

theorem New.playable (h : v.New) : v.Playable := by
  refine ⟨h.tuned, ?_⟩
  rw [h.unplayed.events]
  exact fun e here => nomatch here

theorem Tuned.close (h : v.Tuned) : v.close.Tuned := by
  refine ⟨h.inBounds, h.patch, h.roots, fun pitch here => ?_⟩
  cases v.ended_close.silent _ here

theorem Playable.close (h : v.Playable) : v.close.Playable :=
  ⟨h.toTuned.close, fun _ here => nomatch here⟩

theorem Tuned.playedOn (h : v.Tuned) (played : v.PlayedOn w) : w.Tuned := by
  have inBounds := h.inBounds
  have patch := h.patch
  have roots := h.roots
  rw [← played.config] at inBounds
  rw [← played.roots] at roots
  unfold Voice.patch at patch
  rw [← played.tuning] at patch
  exact ⟨inBounds, patch, roots, played.sounding⟩

theorem Playable.playedOn (h : v.Playable) (played : v.PlayedOn w) : w.Playable := by
  obtain ⟨es, gained, each⟩ := played.events
  refine ⟨h.toTuned.playedOn played, fun e here => ?_⟩
  rw [played.channel]
  rw [gained] at here
  obtain before | now := Array.mem_append.1 here
  · exact h.events e before
  · exact each e now

end Voice

section Sessions

variable {γ : Type} [ChanceSource γ] {p : Player γ}

/-- Every move keeps a voice tuned; single notes leave the strings alone. -/
theorem Move.ensures_tuned (m : Move) (here : p.voice.Tuned) :
    m.act.Ensures p (fun _ q => q.voice.Tuned) fun _ q => q.voice.Tuned := by
  cases scored : m.isNote with
  | false =>
    exact (m.ensures_playable scored here.roots here.sounding).mono
      (fun _ _ played => here.playedOn played) fun _ _ played => here.playedOn played
  | true =>
    cases m with
    | note tick pitch velocity =>
      refine (Play.ensures_note tick pitch velocity).mono ?_ ?_
      · rintro _ _ ⟨d, e, -, rfl⟩
        exact ⟨here.inBounds, here.patch, here.roots, here.sounding⟩
      · rintro _ _ ⟨d, rfl⟩
        exact ⟨here.inBounds, here.patch, here.roots, here.sounding⟩
    | _ => cases scored

/-- At every point of every session all voices are tuned. -/
theorem Session.throughout_tuned {band : Band γ} (created : band.Created) (calls : List Call)
    (journal : Journal) : (run calls ⟨band, journal⟩).state.Throughout Voice.Tuned :=
  .run_kept (fun _ => Voice.New.tuned) (fun _ => Voice.Tuned.close)
    (fun m (_ : True) _ here => m.ensures_tuned here) (fun _ _ _ => True.intro)
    (created.throughout fun _ => Voice.New.tuned)

/-- At every point of a session without single notes all voices are playable. -/
theorem Session.throughout_playable {band : Band γ} (created : band.Created) {calls : List Call}
    (scored : ∀ call ∈ calls, call.isNote = false) (journal : Journal) :
    (run calls ⟨band, journal⟩).state.Throughout Voice.Playable := by
  have keeps : ∀ m : Move, m.isNote = false → ∀ p : Player γ, p.voice.Playable →
      m.act.Ensures p (fun _ q => q.voice.Playable) fun _ q => q.voice.Playable :=
    fun m scored p here => (m.ensures_playable scored here.roots here.sounding).mono
      (fun _ _ played => here.playedOn played) fun _ _ played => here.playedOn played
  exact .run_kept (fun _ => Voice.New.playable) (fun _ => Voice.Playable.close) keeps
    (fun _ _ here => scored _ here) (created.throughout fun _ => Voice.New.playable)

end Sessions

/-! ## §5. Note tracks. -/

namespace Message

theorem checkData_pitch {q : Quantity} (known : q.IsPitch) : checkData (.number q) = .ok () := by
  obtain ⟨n, whole, bounds⟩ := known
  unfold checkData
  rw [integer_of_int (d := .number q) whole]
  exact if_pos bounds

end Message

/-- A note of a pitch fits the format if its channel is a whole number. -/
theorem Event.Playable.fits {e : Event} {c : Config} (h : e.Playable c.channelDatum)
    (inBounds : c.InBounds) (whole : c.channel.integer?.isSome = true) : e.what.Fits := by
  have channel : Message.checkChannel c.channelDatum = .ok () :=
    (Message.checkChannel_between inBounds.channel).2 whole
  cases h with
  | start _ known low high =>
    exact checks_ok_iff.2 ⟨rfl, checks_ok_iff.2 ⟨channel, checks_ok_iff.2
      ⟨Message.checkData_pitch known, if_pos ⟨by omega, high⟩⟩⟩⟩
  | stop _ known =>
    exact checks_ok_iff.2 ⟨rfl, checks_ok_iff.2 ⟨channel, checks_ok_iff.2
      ⟨Message.checkData_pitch known, rfl⟩⟩⟩

namespace Voice

variable {v : Voice}

/-- Settings of the declared kinds give the note track a name. -/
theorem trackName_declared (declared : v.config.Declared) : ∃ t, v.trackName = .text t := by
  obtain ⟨t, text⟩ := declared.name
  unfold trackName name
  rw [text]
  split
  · exact ⟨[], rfl⟩
  · exact ⟨t, rfl⟩

/-- All that stands on a note track fits the format if the recorded events do, and the name and
the channel are of the kinds that are declared for them. -/
theorem Tuned.noteTrack_fits (h : v.Tuned) (declared : v.config.Declared)
    (events : ∀ e ∈ v.events, e.what.Fits) : ∀ e ∈ v.noteTrackEvents, e.what.Fits := by
  have closing : ∀ e ∈ v.closingEvents, e.what.Fits := by
    intro e here
    rw [closingEvents_eq] at here
    obtain ⟨pitch, sounds, rfl⟩ := List.mem_map.1 here
    have known := h.sounding pitch (List.reduceOption_mem_iff.1 sounds)
    exact (Event.Playable.stop (le_refl 0) known).fits h.inBounds declared.channel
  unfold noteTrackEvents
  refine List.forall_mem_append.2 ⟨List.forall_mem_append.2 ⟨?_, ?_⟩, closing⟩
  · refine List.forall_mem_cons.2 ⟨?_, List.forall_mem_singleton.2 ?_⟩
    · exact Happening.fits_trackName_iff.2 (trackName_declared declared)
    · exact (Happening.fits_programChange_iff h.inBounds.channel h.patch).2 declared.channel
  · exact fun e here => events e (Array.mem_def.2 here)

/-- Playable events are at whole ticks. -/
theorem Playable.onGrid (h : v.Playable) (clocked : v.Clocked) : v.OnGrid := by
  obtain ⟨c, clock⟩ := clocked.clock
  refine ⟨?_, fun e here => ?_⟩
  · rw [clock]
    rfl
  · cases h.events e (Array.mem_def.2 here) <;> rfl

end Voice

/-- Whatever is recorded in a session without single notes can be played: each event starts or
ends a note on the channel of its voice, which is between 0 and 15, at a whole tick from zero
on, with a pitch from 0 to 127, and with a velocity from 1 to 127 if it starts one and of zero
if it ends one; and strings sound such pitches or nothing.  That holds in whatever way the calls
end.  Where settings and calls are of the declared kinds, a note track can be made exactly if it
has no step back; otherwise it reports the first one, which is a fault of timing if and only if
the numbers of that report can be written. -/
theorem Session.recorded_playable {γ : Type} [ChanceSource γ] {band : Band γ}
    (created : band.Created) {calls : List Call} (scored : ∀ call ∈ calls, call.isNote = false)
    (journal : Journal) :
    let now := run calls ⟨band, journal⟩
    ∀ part v, now.state.voice? part = some v →
      Config.between (.whole 0) Config.lastChannel v.config.channel = true ∧
      (∀ e ∈ v.events, e.Playable (.number v.config.channel)) ∧
      (∀ pitch, some pitch ∈ v.sounding → pitch.IsPitch) ∧
      ((∀ call ∈ calls, call.Declared) → v.config.Declared →
        let track := Track.ofEvents v.noteTrackEvents
        ((∃ made, track = .ok made) ↔ v.stepBack? = none) ∧
        ∀ f, track = .error f → ∃ s, v.stepBack? = some s ∧ s.Reported f ∧
          f.kind = if s.isWritable then .timing else .value) := by
  intro now part v plays
  have playable := throughout_playable created scored journal part v plays
  refine ⟨playable.inBounds.channel, playable.events, playable.sounding, ?_⟩
  intro asked declared track
  have clocked := clocked created asked journal part v plays declared.toWhole
  have fits : ∀ e ∈ v.events, e.what.Fits := fun e here =>
    Event.Playable.fits (c := v.config) (playable.events e here) playable.inBounds declared.channel
  have settles : Settles track v.stepBack? :=
    Voice.noteTrack_settles (playable.onGrid clocked) (playable.noteTrack_fits declared fits)
  refine ⟨settles.ok_iff, fun f failed => ?_⟩
  obtain ⟨s, back, reported⟩ := settles.reported failed
  exact ⟨s, back, reported, reported.kind⟩

/-! ## §6. A failure halfway, and ticks that are too long. -/

/-- A new master of one string.  Its strikes stray in time by up to ten ticks and in force by up
to five, and the first two moves are by five and by three. -/
def strayStart : Except Fault (Desk (Band Script)) :=
  Session.begin [.ofInt 5, .ofInt 3]
    [("strings", .list [.whole 40]), ("rtime", .whole 10), ("rvol", .whole 5)]

/-- A percussion joins and claps.  Then the master strikes once, and fails at a stroke of a force
that is beyond all floats. -/
def strayCalls : List Call :=
  let clap : Move := .play (.pattern ⟨[⟨1, [⟨1, 80⟩]⟩]⟩) [.list [.whole 0]]
  let loud : Move := .play (.pattern ⟨[⟨1, [⟨1, 80⟩]⟩, ⟨2, [⟨1, 10 ^ 400⟩]⟩]⟩) [.list [.whole 3]]
  [.join .master [("percussion", .truth true), ("strings", .list [.text "Hand Clap"])],
    .move (.auxiliary 0) clap, .move .master loud]

/-- The desk after the failure. -/
def strayed (desk : Desk (Band Script)) : Desk (Band Script) := Session.run strayCalls desk

/-- What was recorded before the failure is playable.  The string was ended for a stroke that
never came, and counts as sounding still; to end it at the clock is a step back. -/
theorem strayed_playable :
    ∃ desk v, strayStart = .ok desk ∧ ¬ Session.Flawless strayCalls desk ∧
      (strayed desk).state.voice? .master = some v ∧ v.events.size = 2 ∧
      (∀ e ∈ v.events, e.Playable (.number v.config.channel)) ∧
      ∃ f, Track.ofEvents v.noteTrackEvents = .error f ∧ f.kind = .timing := by
  have seen : (strayStart.toOption.map fun desk =>
      let v := (strayed desk).state.master
      (decide (Session.Flawless strayCalls desk), v.events.size, v.stepBack?,
        decide v.config.Declared)) = some (false, 2, some ⟨192, 0⟩, true) := by
    decide +kernel
  obtain ⟨desk, accepted, seen⟩ := exists_ok_of_seen seen
  simp only [Prod.mk.injEq] at seen
  obtain ⟨fails, two, back, declared⟩ := seen
  have asked : ∀ call ∈ strayCalls, call.Declared :=
    List.forall_mem_cons.2 ⟨True.intro, List.forall_mem_cons.2 ⟨True.intro,
      List.forall_mem_singleton.2 True.intro⟩⟩
  have scored : ∀ call ∈ strayCalls, call.isNote = false := by decide
  obtain ⟨-, playable, -, track⟩ := Session.recorded_playable
    (Session.begin_created _ _ desk accepted) scored desk.journal
    .master (strayed desk).state.master rfl
  obtain ⟨made, fails'⟩ := track asked (of_decide_eq_true declared)
  refine ⟨desk, _, accepted, of_decide_eq_false fails, rfl, two, playable, ?_⟩
  cases failed : Track.ofEvents (strayed desk).state.master.noteTrackEvents with
  | ok t =>
    have none_ := made.1 ⟨t, failed⟩
    rw [back] at none_
    cases none_
  | error f =>
    obtain ⟨s, back', -, kind⟩ := fails' f failed
    cases Option.some.inj (back.symm.trans back')
    refine ⟨f, rfl, ?_⟩
    rw [kind]
    have short : (⟨192, 0⟩ : StepBack).isWritable = true := by decide +kernel
    exact if_pos short

/-- A new master of one string with a huge number of ticks to a beat. -/
def vastStart : Except Fault (Desk (Band Script)) :=
  Session.begin [] [("strings", .list [.whole 40]), ("ticks", .whole (10 ^ 4200))]

/-- One stroke at a beat that is far away, and then one at the first beat. -/
def vastCalls : List Call :=
  [.move .master (.play (.pattern ⟨[⟨10 ^ 200, [⟨1, 80⟩]⟩, ⟨1, [⟨1, 80⟩]⟩]⟩) [.list [.whole 0]])]

/-- Going back from a tick that is too long to be written is no fault of timing. -/
theorem vast_unreported :
    ∃ desk f, vastStart = .ok desk ∧ desk.state.Created ∧ Session.Flawless vastCalls desk ∧
      Track.ofEvents (Session.run vastCalls desk).state.master.noteTrackEvents = .error f ∧
      f.kind = .value := by
  have seen : (vastStart.toOption.map fun desk =>
      (decide (Session.Flawless vastCalls desk), faultKind?
        (Track.ofEvents (Session.run vastCalls desk).state.master.noteTrackEvents))) =
      some (true, some .value) := by
    decide +kernel
  obtain ⟨desk, accepted, seen⟩ := exists_ok_of_seen seen
  simp only [Prod.mk.injEq] at seen
  obtain ⟨flawless, kind⟩ := seen
  obtain ⟨f, failed, kind⟩ := exists_error_of_kind kind
  exact ⟨desk, f, accepted, Session.begin_created _ _ desk accepted, of_decide_eq_true flawless,
    failed, kind⟩

end Plectrum
