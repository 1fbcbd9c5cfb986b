/-
  Plectrum.Proofs.Spellings
  ─────────────────────────
  **Another spelling of an option, on the command line.**

  The command loads a score, looks for the name of a file in it, and renders it.  Only the look
  for a file knows one spelling of an option; everything else goes by the settings.  So a score
  in which an option is spelled another way leads to the same ending, the same file and the same
  bytes, unless that option names the file and no other file is asked for.

  Main results:
    * `Command.runScore_agree` — scores that differ in a spelling, saved into the same file, lead to
      runs that agree;
    * `Command.run_respelled` — so they do for every command line, where the spelling of a file's
      name is not overlooked; where it is, the song goes beside the score.
-/
import Plectrum.Proofs.NoteBalance
import Plectrum.Proofs.Respellings
import Plectrum.Proofs.TwinFolders

namespace Plectrum

/-! ## §1. Loading. -/

/-- A folder holds a document that is a mapping, in whatever format documents are written. -/
structure Document.Holds [Format] (folder : Folder) (path : Text) (d : Datum) : Prop where
  reads : textAt folder path >>= Format.read = .ok d
  mapping : d.entries?.isSome = true

/-- What is held is loaded, and nothing else happens. -/
theorem Document.Holds.load [Format] {folder : Folder} {path : Text} {d : Datum}
    (holds : Holds folder path d) (journal : Journal) :
    (load path).start ⟨folder, journal⟩ = (.ok d, ⟨folder, journal⟩) := by
  have reads := holds.reads
  cases text : textAt folder path with
  | error f =>
    rw [text] at reads
    cases reads
  | ok s =>
    rw [text] at reads
    unfold Document.load
    rw [Act.start_bind, Act.start_state]
    dsimp only
    rw [text, Act.start_bind, Act.start_lift]
    dsimp only
    rw [show Format.read s = .ok d from reads, Act.start_bind, Act.start_lift]
    dsimp only
    split
    · cases holds.mapping
    · rw [if_pos holds.mapping, Act.start_pure]

/-! ## §2. Rendering. -/

namespace Score

open Act Folder Options

variable {γ : Type} {folder folder' : Folder} {key key' : Text} {value score score' : Datum}

theorem matched_create (chanceOf : Option Nat → γ) (setup : Setup) :
    Matched (Unchanged folder folder') (Band.Moved folder folder') (Unchanged folder folder')
      (Band.create chanceOf setup folder) (Band.create chanceOf setup folder') := by
  have kept : ∀ now now', Unchanged folder folder' now now' → Unchanged folder folder' now now' :=
    fun _ _ unchanged => unchanged
  unfold Band.create
  refine .lift_bind kept fun tuning _ => .lift_bind kept fun chance _ => ?_
  refine .lift_bind kept fun master _ => .seq (.report _ _ _) fun _ _ _ => ?_
  exact .pure ⟨rfl, rfl⟩

variable [ChanceSource γ]

/-- Perform a score on a new band, and finish it. -/
def renderOn (chanceOf : Option Nat → γ) (score midi : Datum) (setup : Setup) :
    Act Folder (Option Song) := do
  let band ← Band.create chanceOf setup (← Act.state)
  Act.onPart (fun folder => { band with folder }) (fun band _ => band.folder) do
    Perform.on .master (perform score)
    Perform.finish .master midi .null

theorem render_eq (chanceOf : Option Nat → γ) (score midi seed : Datum) :
    render chanceOf score midi seed =
      liftM (instrumentOptions score seed >>= Setup.ofOptions) >>=
        renderOn chanceOf score midi := by
  unfold render
  cases instrumentOptions score seed <;> rfl

theorem matched_renderOn (twins : Twins folder folder') (chanceOf : Option Nat → γ)
    (score midi : Datum) (setup : Setup) :
    Matched (Unchanged folder folder') Eq (SameChange folder folder')
      (renderOn chanceOf score midi setup) (renderOn chanceOf score midi setup) := by
  unfold renderOn
  refine .bind .state ?_ Unchanged.sameChange
  rintro _ _ ⟨rfl, rfl⟩
  refine .bind (matched_create chanceOf setup) ?_ Unchanged.sameChange
  rintro band _ ⟨here, rfl⟩
  refine .onPart (Q := Band.Moved _ _) (.bind (Perform.matched_on _ _)
    (fun _ _ _ => Perform.matched_finish twins _ _ _) Band.Moved.unchanged) ?_ ?_
  · rintro _ _ ⟨rfl, rfl⟩
    exact ⟨rfl, rfl⟩
  · rintro _ _ - band _ ⟨change, here, rfl⟩
    exact ⟨change, here, rfl⟩

theorem matched_rendered (twins : Twins folder folder') (chanceOf : Option Nat → γ)
    (score midi : Datum) (setup : Except Fault Setup) :
    Matched (Unchanged folder folder') Eq (SameChange folder folder')
      (liftM setup >>= renderOn chanceOf score midi)
      (liftM setup >>= renderOn chanceOf score midi) :=
  .lift_bind Unchanged.sameChange fun setup _ => matched_renderOn twins chanceOf score midi setup

/-- Scores that differ in a spelling are rendered alike: into the same song, with the same change
in both folders, unless both are refused for a setting that is given twice. -/
theorem render_respelled (synonyms : Synonyms key key') (twins : Twins folder folder')
    (respelled : Respelled key key' value score score') (chanceOf : Option Nat → γ)
    (midi seed : Datum) (journal : Journal) :
    let now := (render chanceOf score midi seed).start ⟨folder, journal⟩
    let now' := (render chanceOf score' midi seed).start ⟨folder', journal⟩
    SameButKey key key' now.1 now'.1 ∧ SameChange folder folder' now.2.state now'.2.state := by
  have music : renderOn chanceOf score' midi = renderOn chanceOf score midi := by
    unfold renderOn
    rw [respelled.perform_eq]
  intro now now'
  unfold now now'
  rw [render_eq, render_eq, music]
  rcases respelled.setup synonyms seed with same | ⟨setting, fails, fails'⟩
  · rw [same]
    obtain ⟨ends, states, -⟩ := matched_rendered twins chanceOf score midi
      (instrumentOptions score seed >>= Setup.ofOptions) folder folder' journal ⟨rfl, rfl⟩
    exact ⟨.inl ends.eq.symm, states⟩
  · rw [fails, fails']
    exact ⟨.inr ⟨setting, rfl, rfl⟩, none, rfl, rfl⟩

end Score

/-! ## §3. The command. -/

namespace Command

open Folder Options

variable {γ : Type} [ChanceSource γ] {folder folder' : Folder} {key key' : Text}
  {value score score' : Datum}

/-- Outcomes that end in the same way and print the same, with the same change in both folders. -/
structure Agree (folder folder' : Folder) (outcome outcome' : Outcome) : Prop where
  ending : outcome'.ending = outcome.ending
  output : outcome'.output = outcome.output
  changed : SameChange folder folder' outcome.folder outcome'.folder

/-- Runs that agree leave files at the same places. -/
theorem Agree.twins {outcome outcome' : Outcome} (agree : Agree folder folder' outcome outcome')
    (twins : Twins folder folder') : Twins outcome.folder outcome'.folder :=
  twins.changed agree.changed

theorem outputFile_asked {arguments : Arguments} (asked : arguments.output ≠ .null)
    (score : Datum) : outputFile arguments score = .ok arguments.output := by
  unfold outputFile
  split
  · next none => exact absurd none asked
  · rfl

theorem outputFile_unasked {arguments : Arguments} (unasked : arguments.output = .null)
    (score : Datum) : outputFile arguments score = (namesFile score).map fun named =>
      if named then .null else .text (songPath arguments.score) := by
  unfold outputFile
  rw [unasked]
  dsimp only
  cases namesFile score with
  | error f => rfl
  | ok named => cases named <;> rfl

/-- Whether a score is found to differ in the name of a file when it is spelled another way: no file
is asked for, one of the spellings is the one that the command looks at, and it names a file. -/
structure Overlooks (arguments : Arguments) (key key' : Text) (value : Datum) : Prop where
  unasked : arguments.output = .null
  looked : key = "midi" ∨ key' = "midi"
  named : value.isNothing = false

section Respelled

variable [Document.Format]

theorem perform_respelled (synonyms : Synonyms key key') (twins : Twins folder folder')
    (respelled : Score.Respelled key key' value score score') {arguments arguments' : Arguments}
    (holds : Document.Holds folder arguments.score score)
    (holds' : Document.Holds folder' arguments'.score score')
    (seed : arguments'.seed = arguments.seed)
    (file : outputFile arguments' score' = outputFile arguments score) (chanceOf : Option Nat → γ)
    (journal : Journal) :
    let now := (perform chanceOf arguments).start ⟨folder, journal⟩
    let now' := (perform chanceOf arguments').start ⟨folder', journal⟩
    SameButKey key key' now.1 now'.1 ∧ SameChange folder folder' now.2.state now'.2.state := by
  intro now now'
  unfold now now' perform
  -- Both scores are loaded, and both runs save into the same file.
  rw [Act.start_bind, Act.start_bind, holds.load, holds'.load]
  dsimp only
  rw [Act.start_bind, Act.start_bind, Act.start_lift, Act.start_lift, file, seed]
  cases outputFile arguments score with
  | error f => exact ⟨.refl _ _ _, none, rfl, rfl⟩
  | ok file =>
    dsimp only
    rw [Act.start_bind, Act.start_bind]
    have rendered := Score.render_respelled synonyms twins respelled chanceOf file arguments.seed
      journal
    revert rendered
    generalize (Score.render chanceOf score file arguments.seed).start ⟨folder, journal⟩ = run
    generalize (Score.render chanceOf score' file arguments.seed).start ⟨folder', journal⟩ = run'
    obtain ⟨result, desk⟩ := run
    obtain ⟨result', desk'⟩ := run'
    rintro ⟨same | ⟨setting, fails, fails'⟩, saved⟩
    · obtain rfl : result' = result := same
      cases result' with
      | error f => exact ⟨.refl _ _ _, saved⟩
      | ok song => exact ⟨.refl _ _ _, saved⟩
    · obtain rfl : result = _ := fails
      obtain rfl : result' = _ := fails'
      exact ⟨.inr ⟨setting, rfl, rfl⟩, saved⟩

/-- Scores that differ in a spelling, saved into the same file, lead to runs that agree. -/
theorem runScore_agree (synonyms : Synonyms key key') (twins : Twins folder folder')
    (respelled : Score.Respelled key key' value score score') (arguments arguments' : Arguments)
    (holds : Document.Holds folder arguments.score score)
    (holds' : Document.Holds folder' arguments'.score score')
    (seed : arguments'.seed = arguments.seed)
    (file : outputFile arguments' score' = outputFile arguments score) (chanceOf : Option Nat → γ)
    (self : Text) :
    Agree folder folder' (runScore chanceOf self arguments folder)
      (runScore chanceOf self arguments' folder') := by
  have performed := perform_respelled synonyms twins respelled holds holds' seed file chanceOf #[]
  revert performed
  unfold runScore
  generalize (perform chanceOf arguments).start ⟨folder, #[]⟩ = run
  generalize (perform chanceOf arguments').start ⟨folder', #[]⟩ = run'
  obtain ⟨result, desk⟩ := run
  obtain ⟨result', desk'⟩ := run'
  rintro ⟨same | ⟨setting, fails, fails'⟩, saved⟩
  · obtain rfl : result' = result := same
    cases result' with
    | ok done => exact ⟨rfl, rfl, saved⟩
    | error f =>
      dsimp only
      split
      · exact ⟨rfl, rfl, saved⟩
      · exact ⟨rfl, rfl, saved⟩
  · -- A setting that is given twice is a mistake in the music under both of its names.
    obtain rfl : result = _ := fails
    obtain rfl : result' = _ := fails'
    exact ⟨rfl, rfl, saved⟩

/-- Another spelling of an option makes no difference on any command line, unless it is overlooked.
Where a file's name is overlooked, the song is saved as if the file beside the score had been asked
for. -/
theorem run_respelled (synonyms : Synonyms key key') (twins : Twins folder folder')
    (respelled : Score.Respelled key key' value score score') (args : List Text)
    (holds : ∀ arguments, read args = .run arguments →
      Document.Holds folder arguments.score score ∧ Document.Holds folder' arguments.score score')
    (chanceOf : Option Nat → γ) (self : Text) :
    ((∀ arguments, read args = .run arguments → ¬ Overlooks arguments key key' value) →
      Agree folder folder' (run chanceOf self args folder) (run chanceOf self args folder')) ∧
    ∀ arguments, read args = .run arguments → arguments.output = .null → key = "midi" →
      namesFile score = .ok true →
      Agree folder folder'
        (runScore chanceOf self
          { arguments with output := .text (songPath arguments.score) } folder)
        (run chanceOf self args folder') := by
  unfold run
  cases line : read args with
  | help => exact ⟨fun _ => ⟨rfl, rfl, none, rfl, rfl⟩, nofun⟩
  | misuse m => exact ⟨fun _ => ⟨rfl, rfl, none, rfl, rfl⟩, nofun⟩
  | run arguments =>
    obtain ⟨here, there⟩ := holds arguments line
    refine ⟨fun seen => ?_, ?_⟩
    · refine runScore_agree synonyms twins respelled arguments arguments here there rfl ?_
        chanceOf self
      by_cases unasked : arguments.output = .null
      · rw [outputFile_unasked unasked, outputFile_unasked unasked,
          respelled.namesFile_eq synonyms.apart fun looked => ?_]
        rw [← Bool.not_eq_false]
        exact fun named => seen arguments rfl ⟨unasked, looked, named⟩
      · rw [outputFile_asked unasked, outputFile_asked unasked]
    · -- The name is not found under its other spelling, so the file beside the score is taken.
      rintro _ ⟨rfl⟩ unasked midi named
      dsimp only
      refine runScore_agree synonyms twins respelled
        { arguments with output := .text (songPath arguments.score) } arguments here there rfl ?_
        chanceOf self
      rw [outputFile_unasked unasked, respelled.namesFile_other synonyms.apart midi named]
      rfl

end Respelled

/-! ## §4. A score in a folder. -/

/-- A score with one option of its instrument, as it is written. -/
def pageText (key text : Text) : Text := "instrument:\n  " ++ key ++ ": " ++ text ++ "\n"

/-- The same score as it is read. -/
def page (key text : Text) : Datum :=
  .mapping [(.text "instrument", .mapping [(.text key, .text text)])]

/-- A folder with this score. -/
def shelf (key text : Text) : Folder :=
  ⟨[], [([Text.bytes "song.yaml"], Text.bytes (pageText key text))]⟩

/-- The option of a score with one option. -/
def pageOption? : Except Fault Datum → Option (Text × Text)
  | .ok (.mapping [(.text name, .mapping [(.text key, .text text)])]) =>
    if name = "instrument" then some (key, text) else none
  | _ => none

theorem page_of_option {result : Except Fault Datum} {key text : Text}
    (reads : pageOption? result = some (key, text)) : result = .ok (page key text) := by
  unfold pageOption? at reads
  split at reads
  · split at reads
    · next same =>
      cases reads
      rw [same]
      rfl
    · cases reads
  · cases reads

theorem twins_shelf (key key' text : Text) : Twins (shelf key text) (shelf key' text) :=
  ⟨rfl, rfl⟩

theorem page_respelled (apart : key ≠ key') (text : Text) :
    Score.Respelled key key' (.text text) (page key text) (page key' text) := by
  refine ⟨fun name other => ?_, ?_⟩
  · show Datum.lookup? (.text name) _ = Datum.lookup? (.text name) _
    rw [Score.lookup?_named, Score.lookup?_named]
    show Options.get? [_] name = Options.get? [_] name
    rw [get?_cons, get?_cons, if_neg other, if_neg other]
  · refine ⟨.mapping [(.text key, .text text)], .mapping [(.text key', .text text)], ?_, ?_, rfl,
      ?_⟩
    · rfl
    · rfl
    · refine ⟨[(.text key, .text text)], rfl, ?_, ?_, ?_⟩
      · show Except.ok [(Datum.text key', Datum.text text)] =
          .ok [(.text (respellKey key key' key), .text text)]
        rw [respellKey_self]
      · rw [Score.lookup?_named]
        exact (get?_cons _ _ _ _).trans (if_pos rfl)
      · rw [Score.lookup?_named]
        exact (get?_cons _ _ _ _).trans (if_neg apart.symm)

/-- The call for this score. -/
def call : Arguments := ⟨"song.yaml", .null, .null, false⟩

theorem read_call : read ["song.yaml"] = .run call := rfl

/-- Whether the folder of a score holds it, by its text. -/
def Readable (key text : Text) : Prop :=
  pageOption? (Document.textAt (shelf key text) call.score >>= Document.Format.read) =
    some (key, text)

instance (key text : Text) : Decidable (Readable key text) := inferInstanceAs (Decidable (_ = _))

theorem shelf_holds {key text : Text} (reads : Readable key text) :
    Document.Holds (shelf key text) call.score (page key text) := ⟨page_of_option reads, rfl⟩

theorem shelves_hold {key key' text : Text} (reads : Readable key text)
    (reads' : Readable key' text) (arguments : Arguments)
    (line : read ["song.yaml"] = .run arguments) :
    Document.Holds (shelf key text) arguments.score (page key text) ∧
      Document.Holds (shelf key' text) arguments.score (page key' text) := by
  cases read_call.symm.trans line
  exact ⟨shelf_holds reads, shelf_holds reads'⟩

theorem readable_midi : Readable "midi" "out.mid" := by decide +kernel

theorem readable_file : Readable "file" "out.mid" := by decide +kernel

theorem signature_sig : Synonyms "signature" "sig" := ⟨by decide, by decide⟩

theorem midi_file : Synonyms "midi" "file" := ⟨by decide, by decide⟩

/-- The command on a score with one option. -/
def runShelf (key text : Text) : Outcome :=
  run (fun _ => Swing.up) "__main__" ["song.yaml"] (shelf key text)

/-- A signature may be spelled in both ways; the name of a file may not, and counts for nothing if
it is spelled in the other way. -/
theorem shelf_runs :
    Agree (shelf "signature" "3/4") (shelf "sig" "3/4")
        (runShelf "signature" "3/4") (runShelf "sig" "3/4") ∧
      Agree (shelf "midi" "out.mid") (shelf "file" "out.mid")
        (runScore (fun _ => Swing.up) "__main__" { call with output := .text "song.mid" }
          (shelf "midi" "out.mid"))
        (runShelf "file" "out.mid") := by
  have signature : Readable "signature" "3/4" := by decide +kernel
  have sig : Readable "sig" "3/4" := by decide +kernel
  constructor
  · refine (run_respelled signature_sig (twins_shelf _ _ _) (page_respelled signature_sig.apart _)
      ["song.yaml"] (shelves_hold signature sig) _ _).1 ?_
    -- A signature is not what the command looks for.
    rintro arguments - ⟨-, looked | looked, -⟩
    · exact absurd looked (by decide)
    · exact absurd looked (by decide)
  · exact (run_respelled midi_file (twins_shelf _ _ _) (page_respelled midi_file.apart _)
      ["song.yaml"] (shelves_hold readable_midi readable_file) _ _).2 call read_call rfl rfl rfl

/-- A file that is named in the other way is not written. -/
theorem file_overlooked :
    let saved (key : Text) := (runShelf key "out.mid").folder.files.map Prod.fst
    Document.Holds (shelf "midi" "out.mid") call.score (page "midi" "out.mid") ∧
      Document.Holds (shelf "file" "out.mid") call.score (page "file" "out.mid") ∧
      Score.Respelled "midi" "file" (.text "out.mid") (page "midi" "out.mid")
        (page "file" "out.mid") ∧
      saved "midi" = [[Text.bytes "song.yaml"], [Text.bytes "out.mid"]] ∧
      saved "file" = [[Text.bytes "song.yaml"], [Text.bytes "song.mid"]] ∧
      ¬ Agree (shelf "midi" "out.mid") (shelf "file" "out.mid") (runShelf "midi" "out.mid")
        (runShelf "file" "out.mid") := by
  intro saved
  have here : saved "midi" = [[Text.bytes "song.yaml"], [Text.bytes "out.mid"]] := by
    decide +kernel
  have there : saved "file" = [[Text.bytes "song.yaml"], [Text.bytes "song.mid"]] := by
    decide +kernel
  refine ⟨shelf_holds readable_midi, shelf_holds readable_file,
    page_respelled midi_file.apart _, here, there, fun agree => ?_⟩
  have same : saved "file" = saved "midi" := (agree.twins (twins_shelf _ _ _)).places
  rw [here, there] at same
  exact absurd same (by decide)

end Command
end Plectrum
