/-
  Plectrum.Proofs.Finale
  ──────────────────────
  **How finishing ends.**

  A band that is finished has its song built first.  If the song cannot be built, the
  band stays as it is.  After that the band is closed in any case; what can still fail
  is the saving, and none of its faults is a mistake in the music.
-/
import Plectrum.Band.Finish
import Plectrum.Proofs.Contract
import Plectrum.Proofs.Technical

namespace Plectrum

/-! ## §1. Faults of saving. -/

namespace MidiFile

theorem technical_integer (d : Datum) : Technical (Message.integer d) := by
  unfold Message.integer
  split
  · exact .ok _
  · exact .error rfl

theorem technical_elements (d : Datum) : Technical d.elements := by
  fun_induction Datum.elements d with
  | case8 => exact .error rfl
  | case7 _ _ ih => exact ih
  | _ => exact .ok _

theorem technical_signatureParts (d : Datum) : Technical (Message.signatureParts d) := by
  unfold Message.signatureParts
  refine (technical_elements d).bind fun parts => ?_
  split
  · exact .ok _
  · exact .error rfl

theorem technical_latinBytes (t : Text) : Technical (latinBytes t) := by
  unfold latinBytes
  dsimp only
  split
  · exact .ok _
  · exact .error rfl

theorem technical_deltaBytes (delta : Quantity) : Technical (deltaBytes delta) := by
  unfold deltaBytes
  split
  · split
    · exact .error rfl
    · exact .ok _
  · exact .error rfl

theorem technical_byteOf (d : Datum) : Technical (byteOf d) :=
  (technical_integer d).bind fun _ => .pure _

theorem technical_channelMessage (kind : Int) (channel : Datum) (values : List Datum) :
    Technical (channelMessage kind channel values) :=
  (technical_integer channel).bind fun _ => (Technical.mapM technical_byteOf values).bind fun _ =>
    .pure _

theorem technical_textMessage (type : UInt8) (d : Datum) : Technical (textMessage type d) :=
  (technical_latinBytes d.shown).bind fun _ => .pure _

theorem technical_encode (what : Happening) : Technical (encode what) := by
  cases what with
  | noteOn channel pitch velocity => exact technical_channelMessage _ _ _
  | noteOff channel pitch velocity => exact technical_channelMessage _ _ _
  | programChange channel program => exact technical_channelMessage _ _ _
  | setTempo microseconds => exact (technical_integer _).bind fun _ => .pure _
  | timeSignature signature =>
    refine (technical_signatureParts signature).bind fun parts => ?_
    refine (technical_integer _).bind fun _ => ?_
    exact (technical_byteOf _).bind fun _ => .pure _
  | trackName name => exact technical_textMessage _ _
  | text content => exact technical_textMessage _ _
  | unknown kind => exact .error rfl

theorem technical_trackBytes (running : Option UInt8) (track : Track) :
    Technical (trackBytes running track) := by
  induction track generalizing running with
  | nil => exact .ok _
  | cons message messages ih =>
    refine (technical_deltaBytes _).bind fun delta => ?_
    refine (technical_encode _).bind fun encoded => ?_
    exact (ih _).bind fun _ => .pure _

theorem technical_resolution (ticksPerBeat : Quantity) : Technical (resolution ticksPerBeat) := by
  unfold resolution
  split
  · split
    · exact .error rfl
    · split
      · exact .error rfl
      · exact .ok _
  · exact .error rfl

theorem technical_header (song : Song) : Technical (header song) := by
  unfold header
  split
  · exact .error rfl
  · exact (technical_resolution _).bind fun _ => .pure _

theorem technical_chunks {tracks : List Track} {f : Fault} (h : (chunks tracks).2 = some f) :
    f.Technical := by
  induction tracks with
  | nil => cases h
  | cons track tracks ih =>
    unfold chunks at h
    cases content : trackBytes none track with
    | error g =>
      rw [content] at h
      cases h
      exact technical_trackBytes none track f content
    | ok bytes =>
      rw [content] at h
      dsimp only at h
      split at h
      · cases h
        exact rfl
      · exact ih h

/-- Writing a song fails only as its numbers and texts do. -/
theorem technical_write {song : Song} {f : Fault} (h : (write song).2 = some f) :
    f.Technical := by
  unfold write at h
  cases head : header song with
  | error g =>
    rw [head] at h
    cases h
    exact technical_header song f head
  | ok bytes =>
    rw [head] at h
    exact technical_chunks h

end MidiFile

namespace Folder

theorem technical_enter (folder : Folder) (path : Text) (place : Place) (name : ItemName) :
    Technical (folder.enter path place name) := by
  unfold enter
  dsimp only
  repeat' split
  all_goals first | exact .ok _ | exact .error rfl

theorem technical_walk (folder : Folder) (path : Text) (through : List ItemName) :
    Technical (folder.walk path through) := by
  unfold walk
  dsimp only
  split
  · exact .error rfl
  · refine .check rfl ?_
    refine .check rfl ?_
    refine .check rfl ?_
    exact .foldlM (technical_enter folder path) _ _

theorem technical_save (folder : Folder) (path : Text) (bytes : List UInt8) :
    Technical (folder.save path bytes) := by
  unfold save
  dsimp only
  refine (technical_walk _ _ _).bind fun place => ?_
  refine .check rfl ?_
  refine .check rfl ?_
  refine .check rfl ?_
  exact .pure _

end Folder

/-! ## §2. Parts of a band. -/

namespace Perform

variable {γ α : Type} {band : Band γ} {part : Part} {good : α → Band γ → Prop}
  {bad : Fault → Band γ → Prop}

/-- The voice of a part that is there. -/
theorem ensures_voice_bind {v : Voice} (plays : band.voice? part = some v)
    (next : Voice → Perform γ α) :
    (voice part >>= next).Ensures band good bad ↔ (next v).Ensures band good bad := by
  unfold voice
  rw [bind_assoc, Act.ensures_state_bind, plays, pure_bind]

/-- A part that is not there is refused. -/
theorem ensures_missing_bind (missing : band.voice? part = none) (next : Voice → Perform γ α)
    (h : ∀ number, bad (.noSuchVoice number) band) :
    (voice part >>= next).Ensures band good bad := by
  unfold voice
  rw [bind_assoc, Act.ensures_state_bind, missing]
  cases part with
  | master => exact (Act.ensures_throw_bind _ _).2 (h 0)
  | auxiliary index => exact (Act.ensures_throw_bind _ _).2 (h (index + 1))

/-! ## §3. Saving and finishing. -/

/-- How saving ends: it changes the folder alone, and its faults are none of the music. -/
def Saves (act : Perform γ Unit) (band : Band γ) : Prop :=
  act.Ensures band (fun _ b => ∃ folder, b = { band with folder })
    fun f b => f.Technical ∧ ∃ folder, b = { band with folder }

theorem saves_save (song : Song) (file : Datum) (path : Text) :
    Saves (save song file path) band := by
  unfold Saves save
  dsimp only
  rw [Act.ensures_state_bind]
  cases saved : band.folder.save path (MidiFile.write song).1 with
  | error f =>
    have technical : f.Technical := Folder.technical_save _ _ _ f saved
    dsimp only
    split
    · refine Act.ensures_report_bind ?_ ⟨rfl, band.folder, rfl⟩
      exact (Act.ensures_throw _).2 ⟨technical, band.folder, rfl⟩
    · exact (Act.ensures_throw _).2 ⟨technical, band.folder, rfl⟩
  | ok folder =>
    dsimp only
    rw [Act.ensures_update_bind]
    split
    · next f failed =>
      exact (Act.ensures_throw _).2 ⟨MidiFile.technical_write failed, folder, rfl⟩
    · exact Act.ensures_report ⟨folder, rfl⟩ ⟨rfl, folder, rfl⟩

theorem saves_saveToNumber (n : Int) : Saves (saveToNumber n) band := by
  have unchanged : ∃ folder, band = { band with folder } := ⟨band.folder, rfl⟩
  unfold Saves saveToNumber
  refine .check (fun _ => ⟨rfl, unchanged⟩) fun _ => ?_
  refine .check (fun _ => ⟨rfl, unchanged⟩) fun _ => ?_
  refine Act.ensures_report_bind ?_ ⟨rfl, unchanged⟩
  exact (Act.ensures_throw _).2 ⟨rfl, unchanged⟩

theorem saves_saveTo (song : Song) (file : Datum) : Saves (saveTo song file) band := by
  unfold saveTo
  split
  · exact saves_save _ _ _
  · exact saves_save _ _ _
  · split
    · exact saves_saveToNumber _
    · exact (Act.ensures_throw _).2 ⟨rfl, band.folder, rfl⟩

/-- How finishing ends.  A part that is missing, auxiliary or finished changes nothing; nor
does a song that cannot be built.  After that the band is closed. -/
theorem ensures_finish (part : Part) (midi attribution : Datum) :
    (finish part midi attribution).Ensures band
      (fun song b => ∃ v, band.voice? part = some v ∧ v.auxiliary = false ∧
        (v.finished = true ∧ song = none ∧ b = band ∨
          v.finished = false ∧ ∃ s folder, song = some s ∧
            band.song (namesMaker attribution v.config.attribution) = .ok s ∧
            b = { band.close with folder }))
      (fun f b =>
        (∀ v, band.voice? part = some v → v.auxiliary = true ∨ v.finished = true) ∧ b = band ∨
        ∃ v, band.voice? part = some v ∧ v.auxiliary = false ∧ v.finished = false ∧
          (band.song (namesMaker attribution v.config.attribution) = .error f ∧ b = band ∨
            f.Technical ∧ ∃ s folder,
              band.song (namesMaker attribution v.config.attribution) = .ok s ∧
              b = { band.close with folder })) := by
  unfold finish
  cases plays : band.voice? part with
  | none =>
    refine ensures_missing_bind plays _ fun number => .inl ⟨?_, rfl⟩
    intro v here
    cases here
  | some v =>
    rw [ensures_voice_bind plays]
    refine .check (fun auxiliary => .inl ⟨?_, rfl⟩) fun master => ?_
    · rintro _ ⟨rfl⟩
      exact .inl auxiliary
    rw [Bool.not_eq_true] at master
    dsimp only
    split
    · next finished =>
      refine Act.ensures_report_bind ?_ (.inl ⟨?_, rfl⟩)
      · rw [Act.ensures_pure]
        exact ⟨v, rfl, master, .inl ⟨finished, rfl, rfl⟩⟩
      · rintro _ ⟨rfl⟩
        exact .inr finished
    · next isOpen =>
      rw [Bool.not_eq_true] at isOpen
      rw [Act.ensures_state_bind, Act.ensures_lift_bind]
      refine ⟨?_, fun f failed => .inr ⟨v, rfl, master, isOpen, .inl ⟨failed, rfl⟩⟩⟩
      intro s built
      rw [Act.ensures_update_bind]
      refine Act.ensures_report_bind ?_
        (.inr ⟨v, rfl, master, isOpen, .inr ⟨rfl, s, band.folder, built, rfl⟩⟩)
      split
      · refine Act.Ensures.bind ((saves_saveTo s _).mono (fun _ _ h => h) ?_) ?_
        · rintro f _ ⟨technical, folder, rfl⟩
          exact .inr ⟨v, rfl, master, isOpen, .inr ⟨technical, s, folder, built, rfl⟩⟩
        · rintro _ _ ⟨folder, rfl⟩
          rw [Act.ensures_pure]
          exact ⟨v, rfl, master, .inr ⟨isOpen, s, folder, rfl, built, rfl⟩⟩
      · rw [Act.ensures_pure]
        exact ⟨v, rfl, master, .inr ⟨isOpen, s, band.folder, rfl, built, rfl⟩⟩

end Perform
end Plectrum
