/-
  Plectrum.Proofs.SavedFile
  ─────────────────────────
  **The saved file is the finished song.**

  Three facts come together.  What a band plays is made of notes that can be heard, so all
  messages of its song are sound, whatever was called before and however it ended.  Saving
  that goes well has written all bytes of the song, and the file is where the path leads.
  And sound messages are read back.

  Main results:
    * `Band.Builds.sound` — the messages of a song that is built are sound;
    * `Folder.find_save` — what is saved at a path is found there;
    * `Session.read_back` — the saved file reads back as the song that finishing returned.
-/
import Plectrum.Proofs.Finality
import Plectrum.Proofs.ReadBack

namespace Plectrum

open MidiReader (Item)

/-! ## §1. Sound tracks. -/

theorem Message.ofEvent_checked (delta : Quantity) (e : Event) :
    Yields (Message.ofEvent (.number delta) e) fun m =>
      check (.number m.delta) m.what = .ok () ∧ m.what = e.what := by
  unfold Message.ofEvent
  refine .bind fun _ passed => ?_
  refine .bind fun same here => .pure ⟨?_, rfl⟩
  cases here
  exact passed

/-- The messages of a track are sound if its events are of the kinds that songs are made of. -/
theorem Track.ofEvents_sound {events : List Event} (inSong : ∀ e ∈ events, e.what.InSong) :
    Yields (Track.ofEvents events) fun track => ∀ m ∈ track, m.Sound := by
  unfold ofEvents
  refine .bind fun ds settled track made => ?_
  have kept := Timeline.deltasFrom_kept _ events ds settled
  have inSong' : ∀ d ∈ ds, d.2.what.InSong := by
    intro d here
    refine inSong d.2 ?_
    rw [← kept]
    exact List.mem_map_of_mem here
  have each := Yields.mapM (fun d _ => Message.ofEvent_checked d.1 d.2) track made
  clear kept settled made
  induction each with
  | nil => exact fun _ here => nomatch here
  | @cons d m ds track here _ ih =>
    refine List.forall_mem_cons.2 ⟨⟨here.1, ?_⟩, ?_⟩
    · rw [here.2]
      exact inSong' d List.mem_cons_self
    · exact ih fun d there => inSong' d (List.mem_cons_of_mem _ there)

/-! ## §2. Voices that sing in tune. -/

/-- A voice whose beat is a note that may be one, and whose events are notes on its channel. -/
structure Voice.Regular (v : Voice) : Prop where
  unit : v.config.signature.unit ∈ Signature.units
  events : Event.AreNotes v.channel v.events.toList

namespace Voice

variable {v w : Voice}

theorem Regular.of_new (h : v.New) : v.Regular := by
  obtain ⟨options, accepted, -, fresh⟩ := h.fresh
  refine ⟨(Config.ofOptions_inBounds options _ accepted).signature.2, ?_⟩
  rw [fresh.events]
  exact .nil

theorem Regular.close (h : v.Regular) : v.close.Regular := ⟨h.unit, .nil⟩

theorem Regular.evolved (h : v.Regular) (evolves : v.Evolved w) : w.Regular := by
  obtain ⟨es, gained, notes⟩ := evolves.events
  refine ⟨?_, ?_⟩
  · rw [evolves.config]
    exact h.unit
  · rw [evolves.channel, gained, Array.toList_append]
    exact h.events.append notes

/-- The events of the note track: its name, its program, notes, and the ends of notes. -/
theorem Regular.noteTrack (h : v.Regular) : ∀ e ∈ v.noteTrackEvents, e.what.InSong := by
  have closing : ∀ e ∈ v.closingEvents, e.what.InSong := by
    intro e here
    rw [closingEvents_eq, List.mem_map] at here
    obtain ⟨pitch, -, rfl⟩ := here
    exact .note (.stop _)
  unfold noteTrackEvents
  refine List.forall_mem_append.2 ⟨List.forall_mem_append.2 ⟨?_, ?_⟩, closing⟩
  · exact List.forall_mem_cons.2 ⟨.trackName _, List.forall_mem_singleton.2 (.programChange _ _)⟩
  · exact fun e here => .note (h.events e here)

/-- The events of the control track: texts, tempos, and a time signature. -/
theorem Regular.control (h : v.Regular) (named : Bool) :
    Yields (v.controlEvents named) fun events => ∀ e ∈ events, e.what.InSong := by
  intro events made
  obtain ⟨first, -, inSong⟩ := v.controlEvents_what (P := Happening.InSong) named events made
  exact inSong.2 ⟨fun _ => .text _, .setTempo _, .timeSignature _ h.unit, fun _ _ => .setTempo _⟩

theorem metronomeEvents_inSong (v : Voice) :
    Yields v.metronomeEvents fun clicks => ∀ events ∈ clicks, ∀ e ∈ events, e.what.InSong := by
  unfold metronomeEvents
  split
  · refine .pure ?_
    intro events none_
    cases none_
  · refine .bind fun last _ => .bind fun beats beatsHere => .pure ?_
    rintro _ ⟨rfl⟩
    -- The clicks are notes of one force.
    have clicks := clicks_what (P := Happening.InSong)
      (.note (.start _ (by decide) (by decide))) (.note (.stop _)) _ _ _ _ beats beatsHere
    exact List.forall_mem_cons.2 ⟨.trackName _, List.forall_mem_cons.2 ⟨.programChange _ _, clicks⟩⟩

end Voice

section Bands

variable {γ : Type} {band : Band γ} {named : Bool} {song : Song}

/-- The messages of a song that is built of regular voices are sound. -/
theorem Band.Builds.sound (h : band.Builds named song) (regular : band.Throughout Voice.Regular) :
    ∀ track ∈ song.tracks, ∀ m ∈ track, m.Sound := by
  obtain ⟨controlEvents, controlMade, notesMade, metronomeEvents, metronomeMade, othersMade⟩ := h
  have master := regular .master _ rfl
  refine List.forall_mem_cons.2 ⟨?_, List.forall_mem_cons.2
    ⟨?_, List.forall_mem_append.2 ⟨?_, ?_⟩⟩⟩
  · exact Track.ofEvents_sound (master.control named _ controlEvents) _ controlMade
  · exact Track.ofEvents_sound master.noteTrack _ notesMade
  · cases metronomeMade with
    | none => exact fun _ here => nomatch here
    | some made =>
      have clicks := band.master.metronomeEvents_inSong _ metronomeEvents _ rfl
      exact List.forall_mem_singleton.2 (Track.ofEvents_sound clicks _ made)
  · intro track here
    obtain ⟨i, inside, rfl⟩ := List.mem_iff_getElem.1 here
    have inBand : i < band.auxiliaries.length := by
      rw [othersMade.length_eq]
      exact inside
    have made := othersMade.get inBand inside
    have plays : band.voice? (.auxiliary i) = some band.auxiliaries[i] :=
      List.getElem?_eq_getElem inBand
    exact Track.ofEvents_sound (regular _ _ plays).noteTrack _ made

end Bands

/-! ## §3. What is saved is found. -/

namespace Folder

variable {folder : Folder} {place : Place} {bytes : List UInt8}

/-- The bytes at a place are those that were put there. -/
theorem fileAt_put (folder : Folder) (place : Place) (bytes : List UInt8) :
    (folder.put place bytes).fileAt? place = some bytes := by
  unfold put fileAt?
  cases here : folder.files.lookup place with
  | none => simp [List.lookup_append, here]
  | some old =>
    show (folder.files.map fun file => if file.1 == place then (place, bytes) else file).lookup
      place = some bytes
    generalize folder.files = files at here ⊢
    induction files with
    | nil => cases here
    | cons file files ih =>
      obtain ⟨other, content⟩ := file
      by_cases same : other = place
      · subst same
        simp
      · have apart : (place == other) = false := beq_false_of_ne (Ne.symm same)
        rw [List.lookup_cons, apart] at here
        simp only [List.map_cons, beq_iff_eq, same, if_false, List.lookup_cons, apart]
        simpa only [beq_iff_eq] using ih here

/-- Putting a file keeps all folders. -/
theorem isFolder_put {other : Place} (h : folder.isFolder other = true) :
    (folder.put place bytes).isFolder other = true := by
  unfold put
  split
  · have keeps : ∀ file : Place × List UInt8,
        (if file.1 == place then (place, bytes) else file).1 = file.1 := by
      intro file
      split
      · next same => exact (eq_of_beq same).symm
      · rfl
    unfold isFolder at h ⊢
    rw [List.map_map]
    simpa only [Function.comp_def, keeps] using h
  · unfold isFolder at h ⊢
    simp only [List.map_append, List.any_append, Bool.or_eq_true] at h ⊢
    tauto

/-- A path goes on leading where it led. -/
theorem enter_put {path : Text} {start inner : Place} {name : ItemName}
    (h : folder.enter path start name = .ok inner) :
    (folder.put place bytes).enter path start name = .ok inner := by
  unfold enter at h ⊢
  dsimp only at h ⊢
  split
  · next stays => rwa [if_pos stays] at h
  · next moves =>
    rw [if_neg moves] at h
    split
    · next up => rwa [if_pos up] at h
    · next down =>
      rw [if_neg down] at h
      split
      · next long =>
        rw [if_pos long] at h
        cases h
      · next short =>
        rw [if_neg short] at h
        split at h
        · next known => rwa [if_pos (isFolder_put known)]
        · split at h <;> cases h

theorem walk_put {path : Text} {through : List ItemName} {inner : Place}
    (h : folder.walk path through = .ok inner) :
    (folder.put place bytes).walk path through = .ok inner := by
  have steps : ∀ start, through.foldlM (folder.enter path) start = .ok inner →
      through.foldlM ((folder.put place bytes).enter path) start = .ok inner := by
    clear h
    induction through with
    | nil => exact fun _ h => h
    | cons name through ih =>
      intro start h
      rw [List.foldlM_cons] at h ⊢
      obtain ⟨next, first, rest⟩ := bind_ok h
      rw [enter_put first]
      exact ih next rest
  unfold walk at h ⊢
  cases lone : Text.loneRun? Letter.isLoneByte path with
  | some run =>
    rw [lone] at h
    cases h
  | none =>
    rw [lone] at h
    obtain ⟨noNull, h⟩ := check_ok h
    obtain ⟨short, h⟩ := check_ok h
    obtain ⟨solid, h⟩ := check_ok h
    dsimp only
    rw [if_neg noNull, if_neg short, if_neg solid]
    exact steps _ h

/-- The names of a path are those in front and the last one, if no empty name stands last. -/
theorem lastSolid_eq {ns front : List ItemName} {last : ItemName}
    (h : lastSolid ns = (front, last, false)) : ns = front ++ [last] := by
  unfold lastSolid at h
  dsimp only at h
  split at h
  · cases h
  · next l f solid =>
    simp only [Prod.mk.injEq, Bool.not_eq_false', List.isEmpty_iff] at h
    obtain ⟨rfl, rfl, none_⟩ := h
    have whole := List.takeWhile_append_dropWhile (p := List.isEmpty) (l := ns.reverse)
    rw [none_, solid, List.nil_append] at whole
    rw [← List.reverse_reverse ns, ← whole, List.reverse_cons]

/-- What is saved at a path is found there. -/
theorem find_save {path : Text} {after : Folder} (saved : folder.save path bytes = .ok after) :
    after.find? path = some (.file bytes) := by
  unfold save at saved
  cases solid : lastSolid (names path) with
  | mk front rest =>
    obtain ⟨last, asksFolder⟩ := rest
    rw [solid] at saved
    dsimp only at saved
    obtain ⟨place, walked, saved⟩ := bind_ok saved
    obtain ⟨noFolder, saved⟩ := check_ok saved
    obtain ⟨short, saved⟩ := check_ok saved
    obtain ⟨-, saved⟩ := check_ok saved
    obtain rfl : folder.put (place ++ [last]) bytes = after := Except.ok.inj saved
    obtain rfl : asksFolder = false := by
      cases asksFolder with
      | false => rfl
      | true => exact (noFolder rfl).elim
    unfold find?
    rw [lastSolid_eq solid, List.dropLast_concat, walk_put walked, List.getLastD_concat]
    dsimp only
    rw [fileAt_put]
    exact if_pos (Nat.not_lt.1 short)

end Folder

/-! ## §4. Saving that goes well. -/

/-- The path that a datum gives. -/
def Datum.path? : Datum → Option Text
  | .text path => some path
  | .bytes bs => some (Text.ofBytes bs)
  | _ => none

/-- A folder into which all bytes of a song have been saved, where a datum points to. -/
def Folder.Receives (folder : Folder) (song : Song) (file : Datum) (after : Folder) : Prop :=
  ∃ path bytes, file.path? = some path ∧ MidiFile.write song = (bytes, none) ∧
    folder.save path bytes = .ok after

namespace Perform

variable {γ : Type} {band : Band γ} {song : Song} {file : Datum}

theorem ensures_save {path : Text} (points : file.path? = some path) :
    (save song file path).Ensures band
      (fun _ b => band.folder.Receives song file b.folder) fun _ _ => True := by
  unfold save
  dsimp only
  rw [Act.ensures_state_bind]
  cases saved : band.folder.save path (MidiFile.write song).1 with
  | error f =>
    dsimp only
    split
    · exact Act.ensures_report_bind ((Act.ensures_throw _).2 True.intro) True.intro
    · exact (Act.ensures_throw _).2 True.intro
  | ok folder =>
    dsimp only
    rw [Act.ensures_update_bind]
    split
    · exact (Act.ensures_throw _).2 True.intro
    · next unfailing =>
      exact Act.ensures_report ⟨path, _, points, Prod.ext rfl unfailing, saved⟩ True.intro

/-- Saving goes well only with a path, and then all bytes of the song are saved there. -/
theorem ensures_saveTo (song : Song) (file : Datum) :
    (saveTo song file).Ensures band
      (fun _ b => band.folder.Receives song file b.folder) fun _ _ => True := by
  unfold saveTo
  split
  · exact ensures_save rfl
  · exact ensures_save rfl
  · split
    · unfold saveToNumber
      refine .check (fun _ => True.intro) fun _ => .check (fun _ => True.intro) fun _ => ?_
      exact Act.ensures_report_bind ((Act.ensures_throw _).2 True.intro) True.intro
    · exact (Act.ensures_throw _).2 True.intro

/-- A song that finishing returns has been saved, if there is a file for it. -/
theorem ensures_finish_saved (midi attribution : Datum)
    (chosen : (chosenFile midi band.master.config.midi).isNothing = false) :
    (finish .master midi attribution).Ensures band
      (fun returned b => ∀ song, returned = some song →
        band.song (namesMaker attribution band.master.config.attribution) = .ok song ∧
        band.folder.Receives song (chosenFile midi band.master.config.midi) b.folder)
      fun _ _ => True := by
  unfold finish
  rw [ensures_voice_bind rfl]
  refine .check (fun _ => True.intro) fun _ => ?_
  dsimp only
  split
  · exact Act.ensures_report_bind ((Act.ensures_pure _).2 nofun) True.intro
  · rw [Act.ensures_state_bind, Act.ensures_lift_bind]
    refine ⟨fun song built => ?_, fun _ _ => True.intro⟩
    rw [Act.ensures_update_bind]
    refine Act.ensures_report_bind ?_ True.intro
    rw [chosen]
    refine (ensures_saveTo song _).bind fun _ b received => ?_
    refine (Act.ensures_pure _).2 ?_
    rintro _ ⟨rfl⟩
    exact ⟨built, received⟩

end Perform

/-! ## §5. The file and the song. -/

section Sessions

variable {γ : Type} [ChanceSource γ]

/-- Whatever was called before, and however it ended: if finishing returns a song and there is a
file for it, the file is where its path leads, and it is read without a byte left.  It says that
its tracks sound together, it has the ticks of a beat of the song, and for each track of the
song it has the same messages in the same order with the same deltas, and then one end of a
track.  This is so for both kinds of readers, those that take a start without force for an end
and those that do not. -/
theorem Session.read_back {band : Band γ} (created : band.Created) (calls : List Call)
    (journal : Journal) (midi attribution : Datum) :
    let now := run calls ⟨band, journal⟩
    let config := now.state.master.config
    let file := Perform.chosenFile midi config.midi
    let done := (Perform.finish .master midi attribution).start now
    file.isNothing = false → ∀ song, done.1 = .ok (some song) →
      song.ticksPerBeat = config.ticks ∧
      ∃ path bytes ticks tracks, file.path? = some path ∧
        done.2.state.folder.find? path = some (.file bytes) ∧
        song.ticksPerBeat.integer? = some ticks ∧
        song.tracks.mapM Track.items? = some tracks ∧
        ∀ zeroEnds, MidiReader.file zeroEnds bytes =
          some ⟨1, ticks, tracks.map (· ++ [Item.ending])⟩ := by
  intro now config file done chosen song returned
  have regular : now.state.Throughout Voice.Regular :=
    Band.Throughout.run_evolved (fun v => .of_new) (fun v => .close)
      (fun v w evolves h => h.evolved evolves) (created.throughout fun v => .of_new) calls
  obtain ⟨built, path, bytes, points, written, saved⟩ :=
    (Perform.ensures_finish_saved midi attribution chosen).of_ok returned song rfl
  -- The song was built of the band as it was before it was closed.
  have builds := now.state.song_builds _ song built
  have resolution : song.ticksPerBeat = config.ticks := by
    cases builds
    rfl
  obtain ⟨ticks, tracks, whole, items⟩ := MidiReader.file_write (builds.sound regular) written
  exact ⟨resolution, path, bytes, ticks, tracks, points, Folder.find_save saved, whole, items⟩

end Sessions

/-- Finishing the pair into a file. -/
def pairFinish (desk : Desk (Band Script)) : Except Fault (Option Song) × Desk (Band Script) :=
  (Perform.finish .master (.text "song.mid") .null).start (Session.run pairCalls desk)

/-- The two voices are saved as a song of three tracks, and read back from the file. -/
theorem pair_read_back :
    ∃ desk song path bytes ticks tracks, pairStart = .ok desk ∧
      (pairFinish desk).1 = .ok (some song) ∧ song.tracks.length = 3 ∧
      (pairFinish desk).2.state.folder.find? path = some (.file bytes) ∧
      song.tracks.mapM Track.items? = some tracks ∧
      ∀ zeroEnds, MidiReader.file zeroEnds bytes =
        some ⟨1, ticks, tracks.map (· ++ [Item.ending])⟩ := by
  have seen : (pairStart.toOption.map fun desk =>
      (pairFinish desk).1.toOption.join.map fun song => song.tracks.length) = some (some 3) := by
    decide +kernel
  obtain ⟨desk, created, seen⟩ := exists_ok_of_seen seen
  obtain ⟨song, returned, three⟩ := exists_some_of_seen seen
  obtain ⟨-, path, bytes, ticks, tracks, -, found, -, items, read⟩ :=
    Session.read_back (Session.begin_created _ _ desk created) pairCalls desk.journal
      (.text "song.mid") .null rfl song returned
  exact ⟨desk, song, path, bytes, ticks, tracks, created, returned, three, found, items, read⟩

end Plectrum
