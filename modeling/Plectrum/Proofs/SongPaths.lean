/-
  Plectrum.Proofs.SongPaths
  ─────────────────────────
  **Where a song goes whose file nobody names.**

  The command then cuts the whole path of the score at its last point.  A song lies beside its score
  if it is in the same folder, and has the name of the score with its last ending, if there is one,
  exchanged.  It does if the name of the score has an ending, or if there is no point in the path at
  all.  Otherwise the cut is made in front of the name, at the points of a hidden file, or in the
  folders on the way; and then the song goes elsewhere.

  Main results:
    * `Command.liesBeside_songPath_iff` — which scores have their songs beside them;
    * `Command.song_saved` — the command changes no other file, and saves the whole song there if it
      ends well.
-/
import Plectrum.Proofs.Numerals
import Plectrum.Proofs.SavedFile
import Plectrum.Proofs.ScoreCalls
import Plectrum.Proofs.Spellings

namespace Plectrum

/-! ## §1. Cutting at a last letter. -/

namespace Text

variable {c : Letter} {t front rest : Text}

/-- A text up to the last letter of a kind, and with it; nothing if there is no such letter. -/
def upToLast (c : Letter) (t : Text) : Text := (t.reverse.dropWhile (· != c)).reverse

/-- What stands behind the last letter of a kind. -/
def behindLast (c : Letter) (t : Text) : Text := (t.reverse.takeWhile (· != c)).reverse

theorem upToLast_behindLast (c : Letter) (t : Text) : upToLast c t ++ behindLast c t = t := by
  unfold upToLast behindLast
  rw [← List.reverse_append, List.takeWhile_append_dropWhile, List.reverse_reverse]

theorem not_mem_behindLast (c : Letter) (t : Text) : c ∉ behindLast c t := by
  intro here
  have other := all_of_mem_takeWhile c (List.mem_reverse.1 here)
  simp at other

/-- What is put behind the last letter of a kind stands there. -/
theorem behindLast_append (c : Letter) (t : Text) (solid : c ∉ rest) :
    behindLast c (upToLast c t ++ rest) = rest ∧
      upToLast c (upToLast c t ++ rest) = upToLast c t := by
  have all : ∀ l ∈ rest.reverse, (l != c) = true := by
    intro l here
    rw [List.mem_reverse] at here
    exact bne_iff_ne.2 fun same => solid (same ▸ here)
  have stops := stops_dropWhile (· != c) t.reverse
  unfold behindLast upToLast
  rw [List.reverse_append, List.reverse_reverse, takeWhile_run all stops, dropWhile_run all stops,
    List.reverse_reverse]
  exact ⟨rfl, rfl⟩

/-- A letter of a text is there a last time. -/
theorem exists_last (here : c ∈ t) : ∃ front rest, t = front ++ c :: rest ∧ c ∉ rest := by
  obtain ⟨before, after, whole, fresh⟩ := List.eq_append_cons_of_mem (List.mem_reverse.2 here)
  refine ⟨after.reverse, before.reverse, ?_, by simpa using fresh⟩
  rw [← List.reverse_reverse t, whole]
  simp

end Text

namespace Command

open Text

/-- A point. -/
def point : Letter := '.'

/-- What stands between the names of a path. -/
def slash : Letter := '/'

theorem withoutEnding_cut {front rest : Text} (solid : point ∉ rest) :
    withoutEnding (front ++ point :: rest) = front := by
  have all : ∀ l ∈ rest.reverse, (l != point) = true := by
    intro l here
    rw [List.mem_reverse] at here
    exact bne_iff_ne.2 fun same => solid (same ▸ here)
  have cut : (front ++ point :: rest).reverse.dropWhile (· != point) = point :: front.reverse := by
    rw [List.reverse_append, List.reverse_cons, List.append_assoc]
    exact dropWhile_run all (stops_cons (by simp) _)
  unfold withoutEnding
  split
  · next none_ =>
    have gone := cut.symm.trans none_
    cases gone
  · next first kept shown =>
    have same := cut.symm.trans shown
    cases same
    exact List.reverse_reverse front

theorem withoutEnding_of_none {t : Text} (solid : point ∉ t) : withoutEnding t = t := by
  have none_ : t.reverse.dropWhile (· != point) = [] := by
    rw [List.dropWhile_eq_nil_iff]
    intro l here
    rw [List.mem_reverse] at here
    exact bne_iff_ne.2 fun same => solid (same ▸ here)
  unfold withoutEnding
  split
  · rfl
  · next first kept shown =>
    have some_ := none_.symm.trans shown
    cases some_

theorem mem_of_mem_withoutEnding {l : Letter} {t : Text} (here : l ∈ withoutEnding t) : l ∈ t := by
  by_cases cut : point ∈ t
  · obtain ⟨front, rest, rfl, solid⟩ := exists_last cut
    rw [withoutEnding_cut solid] at here
    exact List.mem_append_left _ here
  · rwa [withoutEnding_of_none cut] at here

/-! ## §2. Beside a score. -/

/-- The folders on a path, with all slashes. -/
def folderPart (path : Text) : Text := upToLast slash path

/-- The name that a path ends with. -/
def fileName (path : Text) : Text := behindLast slash path

/-- A name without its ending.  Points in front belong to the name. -/
def stem (name : Text) : Text :=
  name.takeWhile (· == point) ++ withoutEnding (name.dropWhile (· == point))

/-- A name with an ending: there is a point behind those in front. -/
def HasEnding (name : Text) : Prop := point ∈ name.dropWhile (· == point)

instance (name : Text) : Decidable (HasEnding name) := inferInstanceAs (Decidable (_ ∈ _))

/-- A song beside its score. -/
structure LiesBeside (score song : Text) : Prop where
  folder : folderPart song = folderPart score
  name : fileName song = stem (fileName score) ++ songEnding

theorem mem_of_mem_stem {l : Letter} {name : Text} (here : l ∈ stem name) : l ∈ name := by
  rcases List.mem_append.1 here with front | back
  · exact (List.takeWhile_prefix _).mem front
  · exact (List.dropWhile_suffix _).mem (mem_of_mem_withoutEnding back)

/-- A name without points has no ending. -/
theorem stem_of_none {name : Text} (solid : point ∉ name) : stem name = name := by
  have inside : point ∉ name.dropWhile (· == point) :=
    fun here => solid ((List.dropWhile_suffix _).mem here)
  unfold stem
  rw [withoutEnding_of_none inside, List.takeWhile_append_dropWhile]

/-- The cut at the last point of a name takes its ending away, if it has one.  Otherwise it takes the
name away, and the last of the points in front. -/
theorem withoutEnding_eq_stem_iff {name : Text} (here : point ∈ name) :
    withoutEnding name = stem name ↔ HasEnding name := by
  unfold stem HasEnding
  have whole := List.takeWhile_append_dropWhile (p := (· == point)) (l := name)
  generalize name.takeWhile (· == point) = points at whole ⊢
  generalize name.dropWhile (· == point) = body at whole ⊢
  subst whole
  by_cases ending : point ∈ body
  · obtain ⟨front, rest, rfl, solid⟩ := exists_last ending
    rw [← List.append_assoc, withoutEnding_cut solid, withoutEnding_cut solid]
    exact iff_of_true rfl ending
  · rw [withoutEnding_of_none ending]
    refine iff_of_false (fun same => ?_) ending
    obtain ⟨front, rest, cut, solid⟩ := exists_last here
    rw [cut, withoutEnding_cut solid] at same
    have size := congrArg List.length same
    simp at size

/-- So a whole path is cut in its name, if there is an ending to be cut. -/
theorem withoutEnding_path_iff (path : Text) :
    withoutEnding path = folderPart path ++ stem (fileName path) ↔
      HasEnding (fileName path) ∨ point ∉ path := by
  have whole : folderPart path ++ fileName path = path := upToLast_behindLast slash path
  generalize folderPart path = folder at whole ⊢
  generalize fileName path = name at whole ⊢
  subst whole
  by_cases inName : point ∈ name
  · obtain ⟨front, rest, cut, solid⟩ := exists_last inName
    have cutName : withoutEnding name = front := by rw [cut, withoutEnding_cut solid]
    have cutPath : withoutEnding (folder ++ name) = folder ++ front := by
      rw [cut, ← List.append_assoc, withoutEnding_cut solid]
    rw [cutPath, List.append_right_inj, ← cutName, withoutEnding_eq_stem_iff inName]
    simp [inName]
  · have none_ : ¬HasEnding name := fun here => inName ((List.dropWhile_suffix _).mem here)
    rw [stem_of_none inName]
    by_cases inFolder : point ∈ folder
    · -- The cut is made in a folder on the way, so the name is lost.
      obtain ⟨front, rest, cut, solid⟩ := exists_last inFolder
      have cutPath : withoutEnding (folder ++ name) = front := by
        rw [cut, List.append_assoc, List.cons_append]
        exact withoutEnding_cut (by simp [solid, inName])
      refine iff_of_false (fun same => ?_) (by simp [none_, inFolder])
      rw [cutPath, cut] at same
      have size := congrArg List.length same
      simp at size
    · have solid : point ∉ folder ++ name := by simp [inFolder, inName]
      rw [withoutEnding_of_none solid]
      exact iff_of_true rfl (.inr solid)

/-- A song goes beside its score if and only if the name of the score has an ending, or its path has
no point. -/
theorem liesBeside_songPath_iff (path : Text) :
    LiesBeside path (songPath path) ↔ HasEnding (fileName path) ∨ point ∉ path := by
  rw [← withoutEnding_path_iff]
  unfold songPath
  constructor
  · rintro ⟨folder, name⟩
    have whole := upToLast_behindLast slash (withoutEnding path ++ songEnding)
    change folderPart _ ++ fileName _ = _ at whole
    rw [folder, name, ← List.append_assoc, List.append_left_inj] at whole
    exact whole.symm
  · intro same
    have solid : slash ∉ stem (fileName path) ++ songEnding := by
      intro here
      rcases List.mem_append.1 here with inStem | inEnding
      · exact not_mem_behindLast slash path (mem_of_mem_stem inStem)
      · exact absurd inEnding (by decide)
    have cut := behindLast_append slash path solid
    rw [same, List.append_assoc]
    exact ⟨cut.2, cut.1⟩

end Command

/-! ## §3. What rendering saves. -/

/-- A folder after a save at a path, of whatever bytes, or as it was. -/
def Folder.SavedAt (folder : Folder) (path : Text) (after : Folder) : Prop :=
  after = folder ∨ ∃ bytes, folder.save path bytes = .ok after

theorem Folder.Receives.savedAt {folder after : Folder} {song : Song} {path : Text}
    (received : folder.Receives song (.text path) after) : folder.SavedAt path after := by
  obtain ⟨_, bytes, ⟨rfl⟩, -, saved⟩ := received
  exact .inr ⟨bytes, saved⟩

namespace Perform

variable {γ : Type} {band : Band γ}

/-- Saving changes the file at its path, if any. -/
theorem ensures_save_at (song : Song) (file : Datum) (path : Text) :
    (save song file path).Ensures band (fun _ b => band.folder.SavedAt path b.folder)
      fun _ b => band.folder.SavedAt path b.folder := by
  unfold save
  dsimp only
  rw [Act.ensures_state_bind]
  cases saved : band.folder.save path (MidiFile.write song).1 with
  | error f =>
    dsimp only
    split
    · exact Act.ensures_report_bind ((Act.ensures_throw _).2 (.inl rfl)) (.inl rfl)
    · exact (Act.ensures_throw _).2 (.inl rfl)
  | ok folder =>
    dsimp only
    rw [Act.ensures_update_bind]
    split
    · exact (Act.ensures_throw _).2 (.inr ⟨_, saved⟩)
    · exact Act.ensures_report (.inr ⟨_, saved⟩) (.inr ⟨_, saved⟩)

/-- Finishing with a path saves at this path. -/
theorem ensures_finish_at {path : Text} (given : path ≠ []) (attribution : Datum) :
    (finish .master (.text path) attribution).Ensures band
      (fun _ b => band.folder.SavedAt path b.folder)
      fun _ b => band.folder.SavedAt path b.folder := by
  have unchanged : band.folder.SavedAt path band.folder := .inl rfl
  have chosen : chosenFile (.text path) band.master.config.midi = .text path := by
    simp [chosenFile, Datum.isNothing, given]
  unfold finish
  rw [ensures_voice_bind rfl]
  refine .check (fun _ => unchanged) fun _ => ?_
  dsimp only
  split
  · exact Act.ensures_report_bind ((Act.ensures_pure _).2 unchanged) unchanged
  · rw [Act.ensures_state_bind, Act.ensures_lift_bind]
    refine ⟨fun song built => ?_, fun _ _ => unchanged⟩
    rw [Act.ensures_update_bind]
    refine Act.ensures_report_bind ?_ unchanged
    rw [chosen]
    split
    · exact (ensures_save_at song (.text path) path).bind fun _ b saved =>
        (Act.ensures_pure _).2 saved
    · exact (Act.ensures_pure _).2 unchanged

/-- Finishing an open master with a path returns a song only if it has been saved there. -/
theorem ensures_finish_saving {path : Text} (given : path ≠ [])
    (isOpen : band.master.finished = false) (attribution : Datum) :
    (finish .master (.text path) attribution).Ensures band
      (fun returned b => ∃ song, returned = some song ∧
        band.folder.Receives song (.text path) b.folder)
      fun _ b => band.folder.SavedAt path b.folder := by
  have chosen : chosenFile (.text path) band.master.config.midi = .text path := by
    simp [chosenFile, Datum.isNothing, given]
  have some_ : (chosenFile (.text path) band.master.config.midi).isNothing = false := by
    simp [chosen, Datum.isNothing, given]
  refine .of_runs (fun journal returned ran => ?_) fun journal f failed => ?_
  · obtain ⟨v, plays, -, finished | ⟨-, song, -, same, -⟩⟩ :=
      (ensures_finish .master (.text path) attribution).of_ok ran
    · cases plays
      rw [isOpen] at finished
      cases finished.1
    · have saved := (ensures_finish_saved (.text path) attribution some_).of_ok ran song same
      rw [chosen] at saved
      exact ⟨song, same, saved.2⟩
  · exact (ensures_finish_at given attribution).of_error failed

end Perform

/-- A band is created in a folder, and open. -/
theorem Band.ensures_create_open {γ σ : Type} {s : σ} (chanceOf : Option Nat → γ) (setup : Setup)
    (folder : Folder) :
    (Band.create chanceOf setup folder : Act σ (Band γ)).Ensures s
      (fun band t => band.folder = folder ∧ band.master.finished = false ∧ t = s)
      fun _ t => t = s := by
  unfold Band.create
  rw [Act.ensures_lift_bind]
  refine ⟨fun tuning _ => ?_, fun _ _ => rfl⟩
  rw [Act.ensures_lift_bind]
  refine ⟨fun chance _ => ?_, fun _ _ => rfl⟩
  rw [Act.ensures_lift_bind]
  refine ⟨fun master new => ?_, fun _ _ => rfl⟩
  have fresh := Voice.create_fresh setup.config tuning false master new
  refine Act.ensures_report_bind ?_ rfl
  exact (Act.ensures_pure _).2 ⟨rfl, fresh.finished, rfl⟩

namespace Score

variable {γ : Type} [ChanceSource γ]

/-- What each move keeps, a performance keeps. -/
theorem keeps_perform {I : Player γ → Prop} (moves : ∀ m : Move, Act.Keeps I (m.act (γ := γ)))
    (score : Datum) : Act.Keeps I (perform score) := by
  have steps : ∀ names number ds, Act.Keeps I (performSteps names number ds) := by
    intro names number ds
    induction ds generalizing number with
    | nil => exact .pure _
    | cons step ds ih =>
      refine .bind (.lift _) fun s => .bind ?_ fun _ => ih (number + 1)
      rw [Step.perform_eq]
      exact moves s.move
  rw [perform_eq]
  exact .bind (keeps_compiled score) fun _ => .bind (.lift _) fun _ => .bind (.lift _) fun _ =>
    steps _ _ _

/-- A performance leaves the folder, and does not finish the band. -/
theorem ensures_on_perform (band : Band γ) (score : Datum) :
    (Perform.on .master (perform score)).Ensures band
      (fun _ b => b.folder = band.folder ∧ b.master.finished = band.master.finished)
      fun _ b => b.folder = band.folder ∧ b.master.finished = band.master.finished := by
  refine Perform.ensures_on (fun missing => nomatch missing) fun v plays => ?_
  cases plays
  have moves : ∀ m : Move, Act.Keeps (fun q : Player γ => band.master.Evolved q.voice) m.act := by
    intro m p evolved
    refine (m.ensures_lasting Voice.Evolved.lasting p).mono ?_ ?_
    · exact fun _ q further => evolved.trans further
    · exact fun _ q further => evolved.trans further
  refine (keeps_perform moves score ⟨band.master, band.chance⟩ (.refl _)).mono ?_ ?_
  · exact fun _ q evolved => ⟨rfl, evolved.finished⟩
  · exact fun _ q evolved => ⟨rfl, evolved.finished⟩

/-- Rendering with a path changes the file there, if any, and goes well only if it has saved a song
there. -/
theorem ensures_render {path : Text} (given : path ≠ []) (chanceOf : Option Nat → γ)
    (score seed : Datum) (folder : Folder) :
    (render chanceOf score (.text path) seed).Ensures folder
      (fun returned after => ∃ song, returned = some song ∧
        folder.Receives song (.text path) after)
      fun _ after => folder.SavedAt path after := by
  rw [render_eq, Act.ensures_lift_bind]
  refine ⟨fun setup _ => ?_, fun _ _ => .inl rfl⟩
  unfold renderOn
  rw [Act.ensures_state_bind]
  refine ((Band.ensures_create_open chanceOf setup folder).mono (fun _ _ h => h) ?_).bind ?_
  · rintro _ _ rfl
    exact .inl rfl
  · rintro band _ ⟨here, isOpen, rfl⟩
    rw [Act.ensures_onPart]
    -- The band plays first, which touches no file, and then it is finished.
    refine ((ensures_on_perform _ score).mono (fun _ _ h => h) ?_).bind ?_
    · rintro _ b ⟨kept, -⟩
      exact .inl kept
    · rintro _ b ⟨kept, still⟩
      have finishes := Perform.ensures_finish_saving given (still.trans isOpen) .null
      rwa [kept] at finishes

end Score

/-! ## §4. What the command saves. -/

namespace Command

variable {γ : Type} [ChanceSource γ] {folder : Folder} {score : Datum}

theorem songPath_ne_nil (path : Text) : songPath path ≠ [] :=
  List.append_ne_nil_of_right_ne_nil _ (by decide)

section Unasked

variable [Document.Format]

/-- A command that is told no file loads the score and renders it to the path of its song. -/
theorem perform_unasked {arguments : Arguments} (unasked : arguments.output = .null)
    (holds : Document.Holds folder arguments.score score) (unnamed : namesFile score = .ok false)
    (chanceOf : Option Nat → γ) (journal : Journal) :
    (perform chanceOf arguments).start ⟨folder, journal⟩ =
      (Score.render chanceOf score (.text (songPath arguments.score)) arguments.seed >>= fun _ =>
        pure ()).start ⟨folder, journal⟩ := by
  have file : outputFile arguments score = .ok (.text (songPath arguments.score)) := by
    rw [outputFile_unasked unasked, unnamed]
    rfl
  unfold perform
  rw [Act.start_bind, holds.load]
  dsimp only
  rw [Act.start_bind, Act.start_lift, file]

/-- A command line that names no file, with a score that names none, changes no file but the one at
the path of the song; and if the command ends well, the whole song is there.  This path lies beside
the score if and only if the name of the score has an ending, or its path has no point. -/
theorem song_saved {args : List Text} {arguments : Arguments} (line : read args = .run arguments)
    (unasked : arguments.output = .null) (holds : Document.Holds folder arguments.score score)
    (unnamed : namesFile score = .ok false) (chanceOf : Option Nat → γ) (self : Text) :
    let outcome := run chanceOf self args folder
    let path := songPath arguments.score
    folder.SavedAt path outcome.folder ∧
      (outcome.ending = .code 0 → ∃ song bytes,
        ((Score.render chanceOf score (.text path) arguments.seed).start ⟨folder, #[]⟩).1 =
          .ok (some song) ∧
        MidiFile.write song = (bytes, none) ∧ outcome.folder.find? path = some (.file bytes)) ∧
      (LiesBeside arguments.score path ↔
        HasEnding (fileName arguments.score) ∨ point ∉ arguments.score) := by
  intro outcome path
  rw [← and_assoc]
  refine ⟨?_, liesBeside_songPath_iff arguments.score⟩
  have contract := Score.ensures_render (songPath_ne_nil arguments.score) chanceOf score
    arguments.seed folder
  have ran : outcome = runScore chanceOf self arguments folder := by
    unfold outcome run
    rw [line]
  unfold runScore at ran
  rw [perform_unasked unasked holds unnamed, Act.start_bind] at ran
  cases rendered : (Score.render chanceOf score (.text path) arguments.seed).start ⟨folder, #[]⟩ with
  | mk result desk =>
    rw [rendered] at ran
    cases result with
    | ok returned =>
      have ended := contract.of_ok (congrArg Prod.fst rendered)
      rw [rendered] at ended
      obtain ⟨song, rfl, received⟩ := ended
      rw [ran]
      refine ⟨received.savedAt, fun _ => ?_⟩
      obtain ⟨_, bytes, ⟨rfl⟩, written, saved⟩ := received
      exact ⟨song, bytes, rfl, written, Folder.find_save saved⟩
    | error f =>
      have ended := contract.of_error (congrArg Prod.fst rendered)
      rw [rendered] at ended
      dsimp only at ran
      split at ran
      · rw [ran]
        exact ⟨ended, nofun⟩
      · rw [ran]
        exact ⟨ended, nofun⟩

end Unasked

/-! ## §5. Two scores in a folder. -/

/-- The song of a score with an ending is saved beside it. -/
theorem song_beside :
    (shelf "signature" "3/4").SavedAt "song.mid" (runShelf "signature" "3/4").folder ∧
      LiesBeside "song.yaml" "song.mid" := by
  have reads : Readable "signature" "3/4" := by decide +kernel
  have path : songPath call.score = "song.mid" := by decide +kernel
  have saved := song_saved read_call rfl (shelf_holds reads) rfl (fun _ => Swing.up) "__main__"
  rw [path] at saved
  exact ⟨saved.1, saved.2.2.2 (.inl (by decide +kernel))⟩

/-- A folder with a score whose name has no ending. -/
def bareShelf : Folder := ⟨[], [([Text.bytes "score"], Text.bytes (pageText "signature" "3/4"))]⟩

/-- Where the score is called by a path with a point in front of its name, its name is lost: the song
is saved under the mere ending. -/
theorem song_astray :
    let outcome := run (fun _ => Swing.up) "__main__" ["./score"] bareShelf
    Document.Holds bareShelf "./score" (page "signature" "3/4") ∧
      namesFile (page "signature" "3/4") = .ok false ∧
      outcome.folder.files.map Prod.fst = [[Text.bytes "score"], [Text.bytes ".mid"]] ∧
      ¬LiesBeside "./score" (songPath "./score") := by
  intro outcome
  have reads : pageOption? (Document.textAt bareShelf "./score" >>= Document.Format.read) =
      some (Text.ofString "signature", Text.ofString "3/4") := by
    decide +kernel
  have name : fileName (songPath "./score") = ".mid" := by decide +kernel
  have stays : stem (fileName "./score") ++ songEnding = "score.mid" := by decide +kernel
  refine ⟨⟨page_of_option reads, rfl⟩, rfl, by decide +kernel, fun beside => ?_⟩
  have same := beside.name
  rw [name, stays] at same
  exact absurd same (by decide)

end Command
end Plectrum
