/-
  Plectrum.Proofs.TwinFolders
  ───────────────────────────
  **The same band in two folders.**

  Where songs are saved decides neither what a band plays nor how its song is built.  Two folders
  are twins if they have the same folders and the same places of files; what the files hold may
  differ.  A path leads to the same place in both, and what is saved in one is saved in the other.

  Main results:
    * `Folder.Twins.save` — saving fails in the same way in both folders, or puts the same bytes at
      the same place;
    * `Perform.matched_on` and `Perform.matched_finish` — a band that plays and finishes does the
      same in both folders, and changes the same file in the same way.
-/
import Plectrum.Band.Finish
import Plectrum.Proofs.SideBySide

namespace Plectrum

/-! ## §1. Twins. -/

namespace Folder

/-- Folders with the same folders and the same places of files. -/
structure Twins (folder folder' : Folder) : Prop where
  folders : folder'.folders = folder.folders
  places : folder'.files.map Prod.fst = folder.files.map Prod.fst

/-- A folder after a change: bytes at a place, or nothing. -/
def after (folder : Folder) : Option (Place × List UInt8) → Folder
  | none => folder
  | some (place, bytes) => folder.put place bytes

/-- Two folders as they were. -/
def Unchanged (folder folder' : Folder) (now now' : Folder) : Prop := now = folder ∧ now' = folder'

/-- Two folders after the same change in both. -/
def SameChange (folder folder' : Folder) (now now' : Folder) : Prop :=
  ∃ change, now = folder.after change ∧ now' = folder'.after change

theorem Unchanged.sameChange {folder folder' : Folder} (now now' : Folder)
    (unchanged : Unchanged folder folder' now now') : SameChange folder folder' now now' :=
  ⟨none, unchanged⟩

namespace Twins

variable {folder folder' : Folder}

theorem isFolder (twins : Twins folder folder') (place : Place) :
    folder'.isFolder place = folder.isFolder place := by
  have around : folder'.files.map (fun file => file.1.dropLast) =
      folder.files.map (fun file => file.1.dropLast) := by
    have shorter := congrArg (List.map List.dropLast) twins.places
    rwa [List.map_map, List.map_map] at shorter
  unfold Folder.isFolder
  rw [twins.folders, around]

/-- A file is at a place of the list. -/
theorem isSome_fileAt? (folder : Folder) (place : Place) :
    (folder.fileAt? place).isSome = (folder.files.map Prod.fst).contains place := by
  unfold fileAt?
  induction folder.files with
  | nil => rfl
  | cons file files ih =>
    rw [List.lookup_cons, List.map_cons, List.contains_cons, ← ih]
    cases place == file.1 <;> rfl

theorem hasFile (twins : Twins folder folder') (place : Place) :
    (folder'.fileAt? place).isSome = (folder.fileAt? place).isSome := by
  rw [isSome_fileAt?, isSome_fileAt?, twins.places]

theorem enter (twins : Twins folder folder') (path : Text) :
    folder'.enter path = folder.enter path := by
  funext place name
  unfold Folder.enter
  dsimp only
  rw [twins.isFolder, twins.hasFile]

/-- A path leads to the same place. -/
theorem walk (twins : Twins folder folder') (path : Text) (through : List ItemName) :
    folder'.walk path through = folder.walk path through := by
  unfold Folder.walk
  rw [twins.enter]

/-- Saving fails in the same way, or puts the same bytes at the same place. -/
theorem save (twins : Twins folder folder') (path : Text) (bytes : List UInt8) :
    (∃ f, folder.save path bytes = .error f ∧ folder'.save path bytes = .error f) ∨
      ∃ place, folder.save path bytes = .ok (folder.put place bytes) ∧
        folder'.save path bytes = .ok (folder'.put place bytes) := by
  unfold Folder.save
  obtain ⟨front, last, asksFolder⟩ := lastSolid (names path)
  dsimp only
  -- Each question that saving asks is about places, and has the same answer in both.
  rw [twins.walk]
  cases folder.walk path front with
  | error f => exact .inl ⟨f, rfl, rfl⟩
  | ok place =>
    dsimp only [bind, Except.bind]
    rw [twins.isFolder]
    split
    · exact .inl ⟨_, rfl, rfl⟩
    · split
      · exact .inl ⟨_, rfl, rfl⟩
      · split
        · exact .inl ⟨_, rfl, rfl⟩
        · exact .inr ⟨_, rfl, rfl⟩

theorem places_put (folder : Folder) (place : Place) (bytes : List UInt8) :
    (folder.put place bytes).files.map Prod.fst =
      if (folder.files.map Prod.fst).contains place then folder.files.map Prod.fst
      else folder.files.map Prod.fst ++ [place] := by
  unfold put
  rw [isSome_fileAt?]
  split
  · rw [List.map_map]
    refine List.map_congr_left fun file _ => ?_
    show (if file.1 == place then (place, bytes) else file).1 = file.1
    split
    · next same => exact (beq_iff_eq.1 same).symm
    · rfl
  · exact List.map_append

theorem folders_put (folder : Folder) (place : Place) (bytes : List UInt8) :
    (folder.put place bytes).folders = folder.folders := by
  unfold put
  split <;> rfl

/-- Twins stay twins. -/
theorem changed (twins : Twins folder folder') {now now' : Folder}
    (same : SameChange folder folder' now now') : Twins now now' := by
  obtain ⟨change, rfl, rfl⟩ := same
  cases change with
  | none => exact twins
  | some change =>
    obtain ⟨place, bytes⟩ := change
    refine ⟨?_, ?_⟩
    · show (folder'.put place bytes).folders = (folder.put place bytes).folders
      rw [folders_put, folders_put, twins.folders]
    · show (folder'.put place bytes).files.map Prod.fst =
        (folder.put place bytes).files.map Prod.fst
      rw [places_put, places_put, twins.places]

end Twins

end Folder

/-! ## §2. A band in two folders. -/

variable {γ α : Type} {folder folder' : Folder}

/-- The same band, in two folders. -/
structure Band.Moved (folder folder' : Folder) (band band' : Band γ) : Prop where
  here : band.folder = folder
  there : band' = { band with folder := folder' }

/-- The same band in two folders, after the same change in both. -/
def Band.MovedAfter (folder folder' : Folder) (band band' : Band γ) : Prop :=
  ∃ change, Band.Moved (folder.after change) (folder'.after change) band band'

theorem Band.Moved.unchanged (band band' : Band γ) (moved : Band.Moved folder folder' band band') :
    Band.MovedAfter folder folder' band band' := ⟨none, moved⟩

namespace Perform

open Act

theorem matched_voice (part : Part) :
    Matched (Band.Moved folder folder') Eq (Band.Moved folder folder')
      (voice part : Perform γ Voice) (voice part) := by
  unfold voice
  refine .seq .state ?_
  rintro band _ ⟨-, rfl⟩
  have same : Band.voice? { band with folder := folder' } part = band.voice? part := by
    cases part <;> rfl
  rw [same]
  split
  · exact .pure rfl
  · exact .throw _
  · exact .throw _

/-- What is played on a part does not depend on the folder. -/
theorem matched_on (part : Part) (act : Play γ α) :
    Matched (Band.Moved folder folder') Eq (Band.Moved folder folder')
      (on part act) (on part act) := by
  unfold on
  refine .seq (matched_voice part) ?_
  rintro v _ rfl
  refine .onPart (.refl act) ?_ ?_
  · rintro band _ ⟨-, rfl⟩
    rfl
  · rintro band _ ⟨here, rfl⟩ player _ rfl
    cases part <;> exact ⟨here, rfl⟩

variable (twins : Folder.Twins folder folder')
include twins

theorem matched_save (song : Song) (file : Datum) (path : Text) :
    Matched (Band.Moved folder folder') Eq (Band.MovedAfter folder folder')
      (save song file path : Perform γ Unit) (save song file path) := by
  unfold save
  generalize MidiFile.write song = written
  obtain ⟨bytes, failure⟩ := written
  refine .bind .state ?_ Band.Moved.unchanged
  rintro band _ ⟨rfl, rfl⟩
  dsimp only
  rcases twins.save path bytes with ⟨f, fails, fails'⟩ | ⟨place, saved, saved'⟩
  · rw [fails, fails']
    dsimp only
    split
    · exact .weaken (.seq (.report _ _ _) fun _ _ _ => .throw f) Band.Moved.unchanged
    · exact .weaken (.throw f) Band.Moved.unchanged
  · rw [saved, saved']
    refine .bind (.update ?_) (fun _ _ _ => ?_) fun _ _ moved => moved
    · rintro band _ ⟨-, rfl⟩
      exact ⟨some (place, bytes), rfl, rfl⟩
    · cases failure with
      | some f => exact .throw f
      | none => exact .report _ _ _

theorem matched_saveTo (song : Song) (file : Datum) :
    Matched (Band.Moved folder folder') Eq (Band.MovedAfter folder folder')
      (saveTo song file : Perform γ Unit) (saveTo song file) := by
  unfold saveTo
  split
  · exact matched_save twins _ _ _
  · exact matched_save twins _ _ _
  · split
    · unfold saveToNumber
      refine .check Band.Moved.unchanged (.check Band.Moved.unchanged ?_)
      exact .weaken (.seq (.report _ _ _) fun _ _ _ => .throw _) Band.Moved.unchanged
    · exact .weaken (.throw _) Band.Moved.unchanged

/-- Finishing ends in the same way in both folders, and changes the same file in the same way. -/
theorem matched_finish (part : Part) (midi attribution : Datum) :
    Matched (Band.Moved folder folder') Eq (Band.MovedAfter folder folder')
      (finish part midi attribution : Perform γ (Option Song)) (finish part midi attribution) := by
  unfold finish
  refine .bind (matched_voice part) ?_ Band.Moved.unchanged
  rintro v _ rfl
  refine .check Band.Moved.unchanged ?_
  dsimp only
  split
  · exact .weaken (.seq (.report _ _ _) fun _ _ _ => .pure rfl) Band.Moved.unchanged
  · refine .bind .state ?_ Band.Moved.unchanged
    rintro band _ ⟨here, rfl⟩
    refine .lift_bind Band.Moved.unchanged fun song _ => ?_
    -- The band is closed in both folders before one of them is changed.
    refine .bind (S := Band.Moved folder folder') (.update ?_) (fun _ _ _ => ?_)
      Band.Moved.unchanged
    · rintro band _ ⟨here, rfl⟩
      exact ⟨here, rfl⟩
    · refine .bind (.report _ _ _) (fun _ _ _ => ?_) Band.Moved.unchanged
      split
      · exact .bind (matched_saveTo twins _ _) (fun _ _ _ => .pure rfl) fun _ _ moved => moved
      · exact .weaken (.pure rfl) Band.Moved.unchanged

end Perform
end Plectrum
