/-
  Plectrum.Proofs.FailedSaves
  ───────────────────────────
  **What a failed finish leaves.**

  Finishing fails in two ways.  A song that cannot be built leaves everything as it was.
  A song that has been built and cannot be saved, or not be reported, is lost: the voices
  were closed before, so a later finish has nothing to return, whatever path it is given.
-/
import Plectrum.Proofs.Finality

namespace Plectrum

/-! ## §1. Failed finishes. -/

section Sessions

variable {γ : Type} [ChanceSource γ]

/-- A finish that fails leaves the band open exactly when its song could not be built, and
then nothing has changed at all.  If the song had been built, the fault is no mistake in the
music; every voice has ended all the same, and no later finish returns the song. -/
theorem Session.failed_finish {band : Band γ} (created : band.Created) (calls : List Call)
    (journal : Journal) (midi attribution : Datum) :
    let now := run calls ⟨band, journal⟩
    let master := now.state.master
    let built := now.state.song (Perform.namesMaker attribution master.config.attribution)
    let done := (Perform.finish .master midi attribution).start now
    master.finished = false → ∀ f, done.1 = .error f →
      (done.2.state.master.finished = false ↔ built = .error f) ∧
      (built = .error f → done.2 = now) ∧
      (∀ song, built = .ok song →
        f.kind.isMusical = false ∧ done.2.state.Over ∧ ∀ later midi' attribution',
          ((Perform.finish .master midi' attribution').start (run later done.2)).1 = .ok none) := by
  intro now master built done isOpen f failed
  have family : now.state.Family := (Band.Family.of_created created).run calls
  have ends := (finality created calls journal).2 isOpen midi attribution
  have kept : built = .error f → done.2 = now := by
    intro unbuilt
    exact congrArg Prod.snd (ends.1 f unbuilt).1
  refine ⟨⟨fun still => ?_, fun unbuilt => ?_⟩, kept, fun song isBuilt => ⟨?_, ?_, ?_⟩⟩
  · cases outcome : built with
    | error g =>
      have same : done.1 = .error g := congrArg Prod.fst (ends.1 g outcome).1
      rw [failed] at same
      cases same
      rfl
    | ok song =>
      have ended := (ends.2 song outcome).1
      rw [(ended .master _ rfl).finished] at still
      cases still
  · rw [kept unbuilt]
    exact isOpen
  · have contract := Perform.finish_built family isOpen midi isBuilt
    exact (contract.of_error failed).1.not_musical
  · exact (ends.2 song isBuilt).1
  · intro later
    exact ((ends.2 song isBuilt).2 later).2.finish

end Sessions

/-! ## §2. A song that is lost. -/

/-- A new band of one string. -/
def lostStart : Except Fault (Desk (Band Script)) :=
  Session.begin [] [("strings", .list [.whole 40])]

/-- One stroke on the open string. -/
def lostCalls : List Call :=
  [.move .master (.play (.pattern ⟨[⟨1, [⟨1, 80⟩]⟩]⟩) [.list [.whole 0]])]

/-- A path into a folder that is not there. -/
def lostPath : Datum := .text "no/such/folder.mid"

/-- The outcome of saving the stroke into that folder, and the desk after it. -/
def lostFinish (desk : Desk (Band Script)) : Except Fault (Option Song) × Desk (Band Script) :=
  (Perform.finish .master lostPath .null).start (Session.run lostCalls desk)

theorem lost_recorded :
    ∃ desk, lostStart = .ok desk ∧
      (let band := (Session.run lostCalls desk).state
      band.master.finished = false ∧ band.master.events.size = 1 ∧
        ∃ song, band.song (Perform.namesMaker .null band.master.config.attribution) = .ok song) ∧
      (∃ f, (lostFinish desk).1 = .error f ∧ f.kind = .missingFile) ∧
      (lostFinish desk).2.state.master.events.size = 0 ∧
      ((Perform.finish .master (.text "song.mid") .null).start (lostFinish desk).2).1.toOption.any
        Option.isNone = true := by
  have seen : (lostStart.toOption.map fun desk =>
      let band := (Session.run lostCalls desk).state
      (band.master.finished, band.master.events.size,
        (band.song (Perform.namesMaker .null band.master.config.attribution)).toBool,
        faultKind? (lostFinish desk).1, (lostFinish desk).2.state.master.events.size,
        ((Perform.finish .master (.text "song.mid") .null).start
          (lostFinish desk).2).1.toOption.any Option.isNone)) =
      some (false, 1, true, some .missingFile, 0, true) := by
    decide +kernel
  obtain ⟨desk, created, seen⟩ := exists_ok_of_seen seen
  simp only [Prod.mk.injEq] at seen
  obtain ⟨isOpen, one, builds, fault, none_, returned⟩ := seen
  exact ⟨desk, created, ⟨isOpen, one, exists_ok_of_toBool builds⟩, exists_error_of_kind fault,
    none_, returned⟩

/-- A save that fails loses the performance: the song had been built, but afterwards the
event of the stroke is gone, and finishing with another path returns nothing. -/
theorem lost_not_kept :
    ∃ desk song f, lostStart = .ok desk ∧
      (let band := (Session.run lostCalls desk).state
      band.master.finished = false ∧ band.master.events.size = 1 ∧
        band.song (Perform.namesMaker .null band.master.config.attribution) = .ok song) ∧
      (lostFinish desk).1 = .error f ∧ f.kind = .missingFile ∧
      (lostFinish desk).2.state.master.events.size = 0 ∧
      ((Perform.finish .master (.text "song.mid") .null).start (lostFinish desk).2).1 =
        .ok none := by
  obtain ⟨desk, created, ⟨isOpen, one, song, built⟩, ⟨f, failed, kind⟩, gone, returned⟩ :=
    lost_recorded
  refine ⟨desk, song, f, created, ⟨isOpen, one, built⟩, failed, kind, gone, ?_⟩
  cases outcome : ((Perform.finish .master (.text "song.mid") .null).start
      (lostFinish desk).2).1 with
  | error g =>
    rw [outcome] at returned
    cases returned
  | ok song? =>
    rw [outcome] at returned
    cases song? with
    | none => rfl
    | some song => cases returned

/-- The lost song falls under the rule. -/
theorem lost_over :
    ∃ desk, lostStart = .ok desk ∧ (lostFinish desk).2.state.Over ∧
      ∀ later midi attribution, ((Perform.finish .master midi attribution).start
        (Session.run later (lostFinish desk).2)).1 = .ok none := by
  obtain ⟨desk, created, ⟨isOpen, -, song, built⟩, ⟨f, failed, -⟩, -, -⟩ := lost_recorded
  have rule := Session.failed_finish (Session.begin_created _ _ desk created) lostCalls
    desk.journal lostPath .null isOpen f failed
  obtain ⟨-, ended, later⟩ := rule.2.2 song built
  exact ⟨desk, created, ended, later⟩

end Plectrum
