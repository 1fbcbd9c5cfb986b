/-
  Plectrum.Proofs.Passages
  ────────────────────────
  **A passage is read before it is played.**

  A passage is what one call plays: a pattern over chords, or a tab.  It is read as a
  whole first.  Reading changes nothing, so a passage that cannot be read leaves the
  player as it was; one that has been read fails only as a number does, and then a part
  of it has been played.
-/
import Plectrum.Proofs.Onsets

namespace Plectrum

/-! ## §1. Passages. -/

/-- What one call plays. -/
inductive Passage where
  | pattern (p : Pattern) (chords : List Datum)
  /-- Something in place of a pattern, by the name of its kind. -/
  | other (kindName : String) (chords : List Datum)
  | tab (parts : List Datum) (beats : Datum)

/-- A passage that has been read. -/
inductive Sheet where
  | measures (p : Pattern) (parsed : List (List (Option Int)))
  | grid (g : Grid)

namespace Passage

/-- Read a passage for a voice: these are all the checks of a call. -/
def read (v : Voice) : Passage → Except Fault Sheet
  | .pattern p chords => Sheet.measures p <$> Play.readChords v.roots chords
  | .other kindName _ => .error (.notAPattern kindName)
  | .tab parts beats => Sheet.grid <$> Play.readTab v parts beats

variable {γ : Type} [ChanceSource γ]

/-- The call of a passage. -/
def act : Passage → Play γ Unit
  | .pattern p chords => Play.play (.pattern p) chords
  | .other kindName chords => Play.play (.other kindName) chords
  | .tab parts beats => Play.tab parts beats

end Passage

namespace Sheet

/-- Play what has been read. -/
def act {γ : Type} [ChanceSource γ] : Sheet → Play γ Unit
  | .measures p parsed => Play.playMeasures p parsed
  | .grid g => Play.playGrid g

/-- What playing a sheet makes of a voice. -/
def Played (γ : Type) [ChanceSource γ] : Sheet → Voice → Voice → Prop
  | .measures p parsed, v, w =>
    Measures γ p.groups parsed.length { v with skip := .whole 0 } w
  | .grid g, v, w => Tabbed γ g v w

theorem Played.grown {γ : Type} [ChanceSource γ] {sheet : Sheet} {v w : Voice}
    (h : sheet.Played γ v w) : v.Grown w := by
  cases sheet with
  | measures p parsed => exact (v.grown_rest _ _).trans (Measures.grown h)
  | grid g => exact Tabbed.grown h

/-- What playing a sheet has made of a voice when it fails.  Measures may fail before
anything has changed; measures and grids break off, or fail when all has been played. -/
def PartlyPlayed (γ : Type) [ChanceSource γ] : Sheet → Voice → Voice → Prop
  | .measures p parsed, v, w =>
    let v' := { v with skip := .whole 0 }
    w = v ∨ MeasuresUpTo γ p.groups parsed.length v' w ∨ Measures γ p.groups parsed.length v' w
  | .grid g, v, w => TabbedUpTo γ g v w ∨ Tabbed γ g v w

theorem PartlyPlayed.grown {γ : Type} [ChanceSource γ] {sheet : Sheet} {v w : Voice}
    (h : sheet.PartlyPlayed γ v w) : v.Grown w := by
  cases sheet with
  | measures p parsed =>
    obtain rfl | broken | played := h
    · exact .refl w
    · exact (v.grown_rest _ _).trans broken.grown
    · exact (v.grown_rest _ _).trans (Measures.grown played)
  | grid g =>
    obtain broken | played := h
    · exact broken.grown
    · exact Tabbed.grown played

end Sheet

/-! ## §2. The contract of a call. -/

namespace Play

variable {γ : Type} [ChanceSource γ] {p : Player γ}

/-- The call of a passage reads it, and then plays what it has read. -/
theorem passage_act_eq (c : Passage) {good : Unit → Player γ → Prop}
    {bad : Fault → Player γ → Prop} (isOpen : p.voice.finished = false) :
    c.act.Ensures p good bad ↔
      ((liftM (c.read p.voice) : Play γ Sheet) >>= Sheet.act).Ensures p good bad := by
  cases c with
  | pattern pattern chords =>
    show (play (.pattern pattern) chords).Ensures p good bad ↔ _
    unfold play
    rw [ensures_open_bind isOpen]
    show (voice >>= fun v => (liftM (readChords v.roots chords) : Play γ _) >>=
      playMeasures pattern).Ensures p good bad ↔ _
    rw [ensures_voice_bind]
    unfold Passage.read
    rw [Act.ensures_lift_map_bind]
    exact Iff.rfl
  | other kindName chords =>
    show (play (.other kindName) chords).Ensures p good bad ↔ _
    unfold play
    rw [ensures_open_bind isOpen]
    exact Iff.rfl
  | tab parts beats =>
    show (tab parts beats).Ensures p good bad ↔ _
    unfold tab
    rw [ensures_open_bind isOpen, ensures_voice_bind]
    unfold Passage.read
    rw [Act.ensures_lift_map_bind]
    exact Iff.rfl

/-- A finished voice refuses every passage. -/
theorem ensures_passage_finished (finished : p.voice.finished = true) (c : Passage)
    {good : Unit → Player γ → Prop} {bad : Fault → Player γ → Prop} :
    c.act.Ensures p good bad ↔ bad (.alreadyFinished p.voice.name) p := by
  cases c with
  | pattern pattern chords =>
    show (play (.pattern pattern) chords).Ensures p good bad ↔ _
    unfold play
    rw [ensures_requireOpen_bind, if_pos finished]
  | other kindName chords =>
    show (play (.other kindName) chords).Ensures p good bad ↔ _
    unfold play
    rw [ensures_requireOpen_bind, if_pos finished]
  | tab parts beats =>
    show (tab parts beats).Ensures p good bad ↔ _
    unfold tab
    rw [ensures_requireOpen_bind, if_pos finished]

/-- So a passage that goes well was played by an open voice. -/
theorem open_of_passage (c : Passage) {journal : Journal}
    (ran : (c.act.start ⟨p, journal⟩).1 = .ok ()) : p.voice.finished = false := by
  cases finished : p.voice.finished with
  | false => rfl
  | true =>
    have refused : c.act.Ensures p (fun _ _ => False) fun _ _ => True :=
      (ensures_passage_finished finished c).2 True.intro
    exact (refused.of_ok ran).elim

/-- What has been read is played, or a part of it. -/
theorem ensures_sheet (isOpen : p.voice.finished = false) (sheet : Sheet) :
    sheet.act.Ensures p (fun _ q => sheet.Played γ p.voice q.voice)
      (fun f q => f.Technical ∧ sheet.PartlyPlayed γ p.voice q.voice) := by
  cases sheet with
  | measures pattern parsed => exact ensures_playMeasures isOpen pattern parsed
  | grid g => exact ensures_playGrid isOpen g

/-- A passage is read and played, or cannot be read, or has been read and is played in part. -/
theorem ensures_passage (isOpen : p.voice.finished = false) (c : Passage) :
    c.act.Ensures p
      (fun _ q => ∃ sheet, c.read p.voice = .ok sheet ∧ sheet.Played γ p.voice q.voice)
      (fun f q => (c.read p.voice = .error f ∧ q = p) ∨
        ∃ sheet, c.read p.voice = .ok sheet ∧ f.Technical ∧
          sheet.PartlyPlayed γ p.voice q.voice) := by
  rw [passage_act_eq c isOpen, Act.ensures_lift_bind]
  constructor
  · intro sheet reads
    refine (ensures_sheet isOpen sheet).mono ?_ ?_
    · intro _ q played
      exact ⟨sheet, reads, played⟩
    · rintro f q ⟨technical, partly⟩
      exact .inr ⟨sheet, reads, technical, partly⟩
  · intro f refused
    exact .inl ⟨refused, rfl⟩

end Play
end Plectrum
