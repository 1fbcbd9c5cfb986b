/-
  Plectrum.Proofs.Saves
  ─────────────────────
  **When a finished song is returned.**

  Finishing returns a song if three things go well: the song is built, the report on it can be
  written, and, where a file is chosen, all bytes of the song are saved there.  A folder takes
  any bytes at a path that it takes some at, so of two songs the second can be saved where the
  first was as soon as it can be written.

  Main results:
    * `MidiFile.write_unfailing_iff` — a song can be written if and only if its header can, and
      all its tracks, none of them at too great a length;
    * `Perform.finish_returns_iff` — when finishing returns a song.
-/
import Plectrum.Proofs.SavedFile
import Plectrum.Proofs.Writable

namespace Plectrum

/-! ## §1. Songs that can be written. -/

namespace MidiFile

/-- A track that can be written as a chunk. -/
def TrackFits (track : Track) : Prop :=
  ∃ content, trackBytes none track = .ok content ∧ content.length < lengthLimit

theorem chunks_unfailing_iff {tracks : List Track} :
    (chunks tracks).2 = none ↔ ∀ track ∈ tracks, TrackFits track := by
  induction tracks with
  | nil => exact iff_of_true rfl fun _ here => nomatch here
  | cons track tracks ih =>
    rw [List.forall_mem_cons, ← ih, chunks]
    unfold TrackFits
    cases trackBytes none track with
    | error f => exact iff_of_false nofun fun ⟨⟨_, made, _⟩, _⟩ => nomatch made
    | ok content =>
      dsimp only
      split
      · next long =>
        refine iff_of_false nofun ?_
        rintro ⟨⟨_, ⟨rfl⟩, short⟩, -⟩
        exact absurd long (Nat.not_le.2 short)
      · next short =>
        exact ⟨fun rest => ⟨⟨content, rfl, Nat.not_le.1 short⟩, rest⟩, fun both => both.2⟩

/-- A song can be written if and only if its header and its tracks can. -/
theorem write_unfailing_iff {song : Song} :
    (write song).2 = none ↔
      (∃ head, header song = .ok head) ∧ ∀ track ∈ song.tracks, TrackFits track := by
  rw [← chunks_unfailing_iff]
  unfold write
  cases header song with
  | error f => exact iff_of_false nofun fun ⟨⟨_, made⟩, _⟩ => nomatch made
  | ok head => exact ⟨fun rest => ⟨⟨head, rfl⟩, rest⟩, fun both => both.2⟩

/-- A track whose bytes, if it can be written, are not too many for a chunk. -/
def Short (track : Track) : Prop :=
  ∀ content, trackBytes none track = .ok content → content.length < lengthLimit

/-- The messages of a track can be written if and only if the first can, and the others after it. -/
theorem trackBytes_ok_iff {running : Option UInt8} {message : Message} {messages : Track} :
    (∃ content, trackBytes running (message :: messages) = .ok content) ↔
      (∃ delta, deltaBytes message.delta = .ok delta) ∧ ∃ encoded,
        encode message.what = .ok encoded ∧
          ∃ rest, trackBytes (encoded.bytes running).2 messages = .ok rest := by
  rw [trackBytes]
  cases deltaBytes message.delta with
  | error f => exact iff_of_false (fun ⟨_, made⟩ => nomatch made) fun ⟨⟨_, made⟩, _⟩ => nomatch made
  | ok delta =>
    rw [and_iff_right ⟨delta, rfl⟩]
    cases encode message.what with
    | error f => exact iff_of_false (fun ⟨_, made⟩ => nomatch made) fun ⟨_, made, _⟩ => nomatch made
    | ok encoded =>
      constructor
      · rintro ⟨content, written⟩
        change (trackBytes (encoded.bytes running).2 messages >>= fun rest => _) = _ at written
        obtain ⟨rest, later, -⟩ := bind_ok written
        exact ⟨encoded, rfl, rest, later⟩
      · rintro ⟨_, ⟨rfl⟩, rest, later⟩
        refine ⟨delta ++ (encoded.bytes running).1 ++ rest, ?_⟩
        show (trackBytes (encoded.bytes running).2 messages >>= fun rest => _) = _
        rw [later]
        rfl

/-- All messages of a track that can be written wait for a whole number of ticks. -/
theorem trackBytes_deltas {running : Option UInt8} {messages : Track}
    (written : ∃ content, trackBytes running messages = .ok content) :
    ∀ m ∈ messages, ∃ bytes, deltaBytes m.delta = .ok bytes := by
  induction messages generalizing running with
  | nil => exact fun _ here => nomatch here
  | cons message messages ih =>
    obtain ⟨first, encoded, -, later⟩ := trackBytes_ok_iff.1 written
    exact List.forall_mem_cons.2 ⟨first, ih later⟩

theorem deltaBytes_whole_ok_iff {n : Int} :
    (∃ bytes, deltaBytes (.whole n) = .ok bytes) ↔ 0 ≤ n := by
  show (∃ bytes, (if n < 0 then .error .timeNegative else .ok (variableLength n.toNat) :
    Except Fault (List UInt8)) = .ok bytes) ↔ _
  split
  · next back => exact iff_of_false (fun ⟨_, made⟩ => nomatch made) (Int.not_le.2 back)
  · next forward => exact iff_of_true ⟨_, rfl⟩ (Int.not_lt.1 forward)

/-- Whether the messages of a track can be written does not depend on how long one of them waits,
as long as the wait is a whole number that is not negative. -/
theorem trackBytes_waiting {delta delta' : Quantity} {what : Happening}
    (waits : ∃ bytes, deltaBytes delta' = .ok bytes) {before after : Track}
    {running : Option UInt8}
    (written : ∃ content, trackBytes running (before ++ ⟨delta, what⟩ :: after) = .ok content) :
    ∃ content, trackBytes running (before ++ ⟨delta', what⟩ :: after) = .ok content := by
  -- The running status that a message leaves does not depend on its wait.
  induction before generalizing running with
  | nil =>
    obtain ⟨-, later⟩ := trackBytes_ok_iff.1 written
    exact trackBytes_ok_iff.2 ⟨waits, later⟩
  | cons message before ih =>
    obtain ⟨first, encoded, encodes, later⟩ := trackBytes_ok_iff.1 written
    exact trackBytes_ok_iff.2 ⟨first, encoded, encodes, ih later⟩

end MidiFile

/-! ## §2. Songs that are saved. -/

namespace Folder

variable {folder after : Folder} {song song' : Song} {file : Datum}

/-- A folder takes any bytes at a path that it takes some at. -/
theorem save_others {path : Text} {bytes : List UInt8} (saved : folder.save path bytes = .ok after)
    (others : List UInt8) : ∃ after', folder.save path others = .ok after' := by
  unfold save at saved ⊢
  generalize lastSolid (names path) = parts at saved ⊢
  obtain ⟨front, last, asksFolder⟩ := parts
  dsimp only at saved ⊢
  -- All checks look at the path, and none at the bytes.
  obtain ⟨place, walked, saved⟩ := bind_ok saved
  obtain ⟨file, saved⟩ := check_ok saved
  obtain ⟨short, saved⟩ := check_ok saved
  obtain ⟨free, -⟩ := check_ok saved
  refine ⟨folder.put (place ++ [last]) others, ?_⟩
  rw [walked]
  show (if _ then _ else _) = _
  rw [if_neg file, if_neg short, if_neg free]
  rfl

theorem Receives.written (received : folder.Receives song file after) :
    (MidiFile.write song).2 = none := by
  obtain ⟨_, _, _, written, _⟩ := received
  exact congrArg Prod.snd written

/-- Where one song has been saved, another one can be if it can be written. -/
theorem Receives.other (received : folder.Receives song file after)
    (written : (MidiFile.write song').2 = none) : ∃ after', folder.Receives song' file after' := by
  obtain ⟨path, bytes, points, -, saved⟩ := received
  obtain ⟨after', saved'⟩ := save_others saved (MidiFile.write song').1
  exact ⟨after', path, _, points, Prod.ext rfl written, saved'⟩

end Folder

namespace Perform

variable {γ : Type} {band : Band γ} {song : Song} {file : Datum}

/-- How saving is reported. -/
def savedReport (file : Datum) : Wording := ["Saved ", .shown file]

/-- Saving at a path goes well if and only if all bytes are saved there. -/
theorem save_ok_iff {path : Text} (points : file.path? = some path)
    (writable : (savedReport file).isWritable = true) (journal : Journal) :
    ((save song file path).start ⟨band, journal⟩).1 = .ok () ↔
      ∃ after, band.folder.Receives song file after := by
  constructor
  · intro saved
    exact ⟨_, (ensures_save points).of_ok saved⟩
  · rintro ⟨after, path', bytes, points', written, saved⟩
    cases points.symm.trans points'
    unfold save
    rw [Act.start_bind, Act.start_state]
    dsimp only
    rw [written]
    dsimp only
    rw [saved]
    dsimp only
    rw [Act.start_bind, Act.start_update]
    dsimp only
    rw [Act.start_report]
    exact congrArg Prod.fst (if_pos writable)

/-- Saving goes well if and only if the file is a path where all bytes are saved. -/
theorem saveTo_ok_iff (band : Band γ) (song : Song) (file : Datum) (journal : Journal) :
    ((saveTo song file).start ⟨band, journal⟩).1 = .ok () ↔
      ∃ after, band.folder.Receives song file after := by
  cases path : file.path? with
  | some p =>
    cases file with
    | text t => exact save_ok_iff rfl rfl journal
    | bytes bs => exact save_ok_iff rfl rfl journal
    | _ => cases path
  | none =>
    refine iff_of_false (fun saved => ?_) fun ⟨_, _, _, points, _⟩ => nomatch path.symm.trans points
    obtain ⟨_, _, points, -⟩ := (ensures_saveTo song file).of_ok saved
    cases path.symm.trans points

/-- Saving a song and returning it. -/
theorem saveTo_pure_ok_iff (band : Band γ) (made song : Song) (file : Datum) (journal : Journal) :
    ((saveTo made file >>= fun _ => pure (some made)).start ⟨band, journal⟩).1 = .ok (some song) ↔
      made = song ∧ ∃ after, band.folder.Receives made file after := by
  rw [← saveTo_ok_iff band made file journal, Act.start_bind]
  cases (saveTo made file).start ⟨band, journal⟩ with
  | mk outcome after =>
    cases outcome with
    | error f => exact iff_of_false nofun fun ⟨_, saved⟩ => nomatch saved
    | ok =>
      rw [and_iff_left rfl]
      exact ⟨fun returned => Option.some.inj (Except.ok.inj returned), fun same => same ▸ rfl⟩

/-- Finishing an open master returns a song if and only if the song is built, the report on it can
be written, and it is saved where a file is chosen. -/
theorem finish_returns_iff (master : band.master.auxiliary = false)
    (isOpen : band.master.finished = false) {midi attribution : Datum} (journal : Journal) :
    ((finish .master midi attribution).start ⟨band, journal⟩).1 = .ok (some song) ↔
      band.song (namesMaker attribution band.master.config.attribution) = .ok song ∧
      (band.master.farewell song.tracks.length).isWritable = true ∧
      ((chosenFile midi band.master.config.midi).isNothing = false →
        ∃ after, band.folder.Receives song (chosenFile midi band.master.config.midi) after) := by
  have here : (voice .master : Perform γ Voice).start ⟨band, journal⟩ =
      (.ok band.master, ⟨band, journal⟩) := rfl
  unfold finish
  rw [Act.start_bind, here]
  simp only [master, isOpen, Bool.false_eq_true, if_false]
  rw [Act.start_bind, Act.start_state]
  dsimp only
  rw [Act.start_bind, Act.start_lift]
  cases built : band.song (namesMaker attribution band.master.config.attribution) with
  | error f => exact iff_of_false nofun fun ⟨made, _⟩ => nomatch made
  | ok made =>
    dsimp only
    rw [Act.start_bind, Act.start_update]
    dsimp only
    rw [Act.start_bind, Act.start_report]
    by_cases writable : (band.master.farewell made.tracks.length).isWritable = true
    · have report := writable
      unfold Voice.farewell at report
      rw [if_pos report]
      cases none_ : (chosenFile midi band.master.config.midi).isNothing with
      | true =>
        refine ⟨?_, ?_⟩
        · rintro ⟨rfl⟩
          exact ⟨rfl, writable, nofun⟩
        · rintro ⟨⟨rfl⟩, -⟩
          rfl
      | false =>
        refine (saveTo_pure_ok_iff band.close made song _ _).trans ⟨?_, ?_⟩
        · rintro ⟨rfl, saved⟩
          exact ⟨rfl, writable, fun _ => saved⟩
        · rintro ⟨⟨rfl⟩, -, saved⟩
          exact ⟨rfl, saved rfl⟩
    · refine iff_of_false ?_ ?_
      · unfold Voice.farewell at writable
        rw [if_neg writable]
        exact fun made => nomatch made
      · rintro ⟨⟨rfl⟩, written, -⟩
        exact writable written

end Perform

end Plectrum
