/-
  Plectrum.Proofs.Atomicity
  ─────────────────────────
  **What a failed passage leaves behind.**

  A passage that is refused leaves the voice intact.  But a passage that has been read
  can still fail: a velocity may be too large for the scale of the volume, and a clock
  too long for a report.  Such a failure is never a mistake in the music, and it keeps
  the part of the passage that was played before it.
-/
import Plectrum.Proofs.Passages

namespace Plectrum

/-! ## §1. Intact voices. -/

/-- A voice with the same clock, silence at the end, sounding strings, events, and
volume and tempo. -/
structure Voice.Intact (v w : Voice) : Prop where
  clock : w.clock = v.clock
  skip : w.skip = v.skip
  sounding : w.sounding = v.sounding
  events : w.events = v.events
  dynamics : w.dynamics = v.dynamics

/-- What sounds needs no look of its own, since it changes only together with the events. -/
theorem Voice.Grown.intact_iff {v w : Voice} (h : v.Grown w) :
    v.Intact w ↔
      w.clock = v.clock ∧ w.skip = v.skip ∧ w.events = v.events ∧ w.dynamics = v.dynamics := by
  constructor
  · intro intact
    exact ⟨intact.clock, intact.skip, intact.events, intact.dynamics⟩
  · rintro ⟨clock, skip, events, dynamics⟩
    exact ⟨clock, skip, h.still events, events, dynamics⟩

/-! ## §2. Failed passages. -/

variable {γ : Type} [ChanceSource γ]

/-- A failed passage was refused as a whole, or it had been read and a part of it has been
played.  The first leaves the player as it was.  The second is no mistake in the music; it
loses no event, and leaves the voice intact only if that part has changed nothing. -/
theorem failed_passage {p : Player γ} (isOpen : p.voice.finished = false) (c : Passage)
    {journal : Journal} {f : Fault} (failed : (c.act.start ⟨p, journal⟩).1 = .error f) :
    let q := (c.act.start ⟨p, journal⟩).2.state
    (c.read p.voice = .error f ∧ q = p) ∨
      ∃ sheet, c.read p.voice = .ok sheet ∧ f.kind.isMusical = false ∧
        sheet.PartlyPlayed γ p.voice q.voice ∧
        (∃ es, q.voice.events = p.voice.events ++ es) ∧
        (p.voice.Intact q.voice ↔
          q.voice.clock = p.voice.clock ∧ q.voice.skip = p.voice.skip ∧
            q.voice.events = p.voice.events ∧ q.voice.dynamics = p.voice.dynamics) := by
  intro q
  obtain refused | ⟨sheet, reads, technical, partly⟩ :=
    (Play.ensures_passage isOpen c).of_error failed
  · exact .inl refused
  · have grown := partly.grown
    exact .inr ⟨sheet, reads, technical.not_musical, partly, grown.events, grown.intact_iff⟩

/-! ## §3. A passage that breaks. -/

/-- A new player of one string, all else by default. -/
def oneString : Except Fault (Player Script) := do
  let config ← Config.ofOptions [("strings", .list [.whole 40])]
  let voice ← Voice.create config (← Tuning.ofConfig config) false
  return ⟨voice, some []⟩

/-- Two strokes on one string, the second with a velocity that no double holds. -/
def Passage.tooLoud : Passage :=
  .pattern ⟨[⟨1, [⟨1, 80⟩]⟩, ⟨2, [⟨1, tenTo 400⟩]⟩]⟩ [.list [.whole 0]]

/-- The first stroke is recorded, and so is the cut before the second; then the call fails. -/
theorem tooLoud_recorded :
    ∃ p f, oneString = .ok p ∧ p.voice.finished = false ∧ p.voice.events.size = 0 ∧
      (Passage.tooLoud.act.start ⟨p, #[]⟩).1 = .error f ∧
      (Passage.tooLoud.act.start ⟨p, #[]⟩).2.state.voice.events.size = 2 := by
  have seen : (oneString.toOption.map fun p =>
      let run := Passage.tooLoud.act.start ⟨p, #[]⟩
      (p.voice.finished, p.voice.events.size, run.1.toBool, run.2.state.voice.events.size)) =
        some (false, 0, false, 2) := by
    decide +kernel
  obtain ⟨p, created, seen⟩ := exists_ok_of_seen seen
  simp only [Prod.mk.injEq] at seen
  obtain ⟨isOpen, before, fails, after⟩ := seen
  cases outcome : (Passage.tooLoud.act.start ⟨p, #[]⟩).1 with
  | ok _ =>
    rw [outcome] at fails
    cases fails
  | error f => exact ⟨p, f, created, isOpen, before, outcome, after⟩

/-- So a failed call can leave a voice that is not intact. -/
theorem tooLoud_not_intact :
    ∃ p f, oneString = .ok p ∧ p.voice.finished = false ∧
      (Passage.tooLoud.act.start ⟨p, #[]⟩).1 = .error f ∧
      ¬ p.voice.Intact (Passage.tooLoud.act.start ⟨p, #[]⟩).2.state.voice := by
  obtain ⟨p, f, created, isOpen, before, fails, after⟩ := tooLoud_recorded
  refine ⟨p, f, created, isOpen, fails, fun intact => ?_⟩
  rw [intact.events, before] at after
  cases after

/-- The failure is none of the music, and comes after the passage has been read. -/
theorem tooLoud_breaks :
    ∃ p f sheet, oneString = .ok p ∧ p.voice.finished = false ∧
      (Passage.tooLoud.act.start ⟨p, #[]⟩).1 = .error f ∧
      Passage.tooLoud.read p.voice = .ok sheet ∧ f.kind.isMusical = false := by
  obtain ⟨p, f, created, isOpen, before, fails, after⟩ := tooLoud_recorded
  obtain ⟨-, same⟩ | ⟨sheet, reads, technical, -⟩ := failed_passage isOpen .tooLoud fails
  · rw [same, before] at after
    cases after
  · exact ⟨p, f, sheet, created, isOpen, fails, reads, technical⟩

end Plectrum
