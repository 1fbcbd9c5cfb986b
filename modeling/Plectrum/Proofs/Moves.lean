/-
  Plectrum.Proofs.Moves
  ─────────────────────
  **The calls on one voice, and what each may touch.**

  A move is one call on a voice.  Passages put notes on the timeline.  All other moves
  but a single note are quiet: silence moves the clock, and crescendos and changes of
  tempo move the dynamics, whether they go well or fail.
-/
import Plectrum.Proofs.Passages
import Plectrum.Voice.Expression

namespace Plectrum

/-! ## §1. Quiet acts. -/

/-- A voice of which at most the clock, the silence at the end and the dynamics have moved. -/
structure Voice.Quiet (v w : Voice) : Prop where
  config : w.config = v.config
  tuning : w.tuning = v.tuning
  measure : w.measure = v.measure
  sounding : w.sounding = v.sounding
  lastStrike : w.lastStrike = v.lastStrike
  events : w.events = v.events
  auxiliary : w.auxiliary = v.auxiliary
  finished : w.finished = v.finished

namespace Voice.Quiet

theorem refl (v : Voice) : v.Quiet v := ⟨rfl, rfl, rfl, rfl, rfl, rfl, rfl, rfl⟩

theorem trans {v w x : Voice} (h : v.Quiet w) (h' : w.Quiet x) : v.Quiet x :=
  ⟨h'.config.trans h.config, h'.tuning.trans h.tuning, h'.measure.trans h.measure,
    h'.sounding.trans h.sounding, h'.lastStrike.trans h.lastStrike, h'.events.trans h.events,
    h'.auxiliary.trans h.auxiliary, h'.finished.trans h.finished⟩

end Voice.Quiet

namespace Act.Ensures

/-- Every act ends somehow. -/
theorem trivial {σ α : Type} (act : Act σ α) (s : σ) :
    act.Ensures s (fun _ _ => True) fun _ _ => True :=
  of_runs (fun _ _ _ => True.intro) fun _ _ _ => True.intro

end Act.Ensures

namespace Play

variable {γ α β : Type} {p : Player γ}

/-- An act that keeps a voice quiet, whether it goes well or not. -/
def KeepsQuiet (act : Play γ α) (p : Player γ) : Prop :=
  act.Ensures p (fun _ q => p.voice.Quiet q.voice) fun _ q => p.voice.Quiet q.voice

namespace KeepsQuiet

theorem bind {act : Play γ α} {next : α → Play γ β} (first : KeepsQuiet act p)
    (then_ : ∀ a q, p.voice.Quiet q.voice → KeepsQuiet (next a) q) :
    KeepsQuiet (act >>= next) p := by
  refine Act.Ensures.bind first fun a q quiet => ?_
  exact (then_ a q quiet).mono (fun _ _ more => quiet.trans more) fun _ _ more => quiet.trans more

theorem pure (a : α) : KeepsQuiet (Pure.pure a : Play γ α) p :=
  (Act.ensures_pure a).2 (.refl _)

theorem throw (f : Fault) : KeepsQuiet (MonadExcept.throw f : Play γ α) p :=
  (Act.ensures_throw f).2 (.refl _)

theorem lift (result : Except Fault α) : KeepsQuiet (liftM result : Play γ α) p :=
  (Act.ensures_lift result).2 ⟨fun _ _ => .refl _, fun _ _ => .refl _⟩

theorem voice : KeepsQuiet (voice : Play γ Voice) p := by
  unfold KeepsQuiet Play.voice
  rw [Act.ensures_state_bind, Act.ensures_pure]
  exact .refl _

theorem requireOpen : KeepsQuiet (requireOpen : Play γ Unit) p := by
  unfold Play.requireOpen
  refine bind voice fun v q _ => ?_
  split
  · exact throw _
  · exact pure _

/-- The dynamics may move as they like. -/
theorem onDynamics (act : Act (Dynamics Datum) α) : KeepsQuiet (onDynamics act : Play γ α) p := by
  unfold KeepsQuiet Play.onDynamics
  rw [Act.ensures_onPart]
  refine (Act.Ensures.trivial act _).mono ?_ ?_
  · intro _ d _
    exact ⟨rfl, rfl, rfl, rfl, rfl, rfl, rfl, rfl⟩
  · intro _ d _
    exact ⟨rfl, rfl, rfl, rfl, rfl, rfl, rfl, rfl⟩

/-- So may the clock and the silence at the end. -/
theorem changeVoice {f : Voice → Voice} (quiet : p.voice.Quiet (f p.voice)) :
    KeepsQuiet (changeVoice f) p := by
  unfold KeepsQuiet
  rw [ensures_changeVoice]
  exact quiet

end KeepsQuiet

/-! ## §2. Silence and expression. -/

theorem keepsQuiet_playSilence : KeepsQuiet (playSilence : Play γ Unit) p := by
  unfold playSilence
  refine .bind .voice fun v q _ => ?_
  refine .bind (.lift _) fun clock q _ => ?_
  refine .bind (.changeVoice ⟨rfl, rfl, rfl, rfl, rfl, rfl, rfl, rfl⟩) fun _ q _ => ?_
  refine .bind (.lift _) fun skip q _ => ?_
  exact .changeVoice ⟨rfl, rfl, rfl, rfl, rfl, rfl, rfl, rfl⟩

theorem keepsQuiet_silence [ChanceSource γ] (chords : List Datum) :
    KeepsQuiet (play .silence chords) p := by
  unfold play
  refine .bind .requireOpen fun _ q _ => ?_
  dsimp only
  split
  · exact .bind (.throw _) fun _ r _ => keepsQuiet_playSilence
  · exact keepsQuiet_playSilence

theorem keepsQuiet_rests [ChanceSource γ] (count : Nat) : KeepsQuiet (rests count) p := by
  induction count generalizing p with
  | zero => exact .pure _
  | succ count ih =>
    unfold rests
    exact .bind (keepsQuiet_silence []) fun _ q _ => ih

theorem keepsQuiet_rest [ChanceSource γ] (measures : Datum) : KeepsQuiet (rest measures) p := by
  unfold rest
  split
  · exact keepsQuiet_rests _
  · exact .throw _

theorem keepsQuiet_cresc (factor measures : Datum) (shape : Shape.Choice Datum) :
    KeepsQuiet (cresc factor measures shape) p := by
  unfold cresc
  refine .bind .requireOpen fun _ q _ => ?_
  refine .bind (.lift _) fun count q _ => ?_
  refine .bind .voice fun v q _ => ?_
  refine .bind (.lift _) fun startTick q _ => ?_
  refine .bind (.lift _) fun length q _ => ?_
  exact .bind (.onDynamics _) fun _ q _ => .pure _

theorem keepsQuiet_requireMaster : KeepsQuiet (requireMaster : Play γ Unit) p := by
  unfold requireMaster
  refine .bind .voice fun v q _ => ?_
  split
  · exact .throw _
  · exact .pure _

theorem keepsQuiet_tempo (bpm tick : Datum) : KeepsQuiet (tempo bpm tick) p := by
  unfold tempo
  refine .bind .requireOpen fun _ q _ => ?_
  refine .bind keepsQuiet_requireMaster fun _ q _ => ?_
  exact .bind .voice fun v q _ => .onDynamics _

theorem keepsQuiet_rit (factor measures : Datum) (shape : Shape.Choice Datum) :
    KeepsQuiet (rit factor measures shape) p := by
  unfold rit
  refine .bind .requireOpen fun _ q _ => ?_
  refine .bind keepsQuiet_requireMaster fun _ q _ => ?_
  refine .bind (.lift _) fun count q _ => ?_
  refine .bind .voice fun v q _ => ?_
  exact .bind (.lift _) fun beats q _ => .onDynamics _

end Play

/-! ## §3. Moves. -/

/-- A call on one voice. -/
inductive Move where
  | play (music : Music) (chords : List Datum)
  | tab (parts : List Datum) (beats : Datum)
  | rest (measures : Datum)
  | cresc (factor measures : Datum) (shape : Shape.Choice Datum)
  | tempo (bpm tick : Datum)
  | rit (factor measures : Datum) (shape : Shape.Choice Datum)
  | note (tick pitch velocity : Datum)

namespace Move

/-- A single note, put on the timeline by hand. -/
def isNote : Move → Bool
  | .note .. => true
  | _ => false

variable {γ : Type} [ChanceSource γ]

def act : Move → Play γ Unit
  | .play music chords => Play.play music chords
  | .tab parts beats => Play.tab parts beats
  | .rest measures => Play.rest measures
  | .cresc factor measures shape => Play.cresc factor measures shape
  | .tempo bpm tick => Play.tempo bpm tick
  | .rit factor measures shape => Play.rit factor measures shape
  | .note tick pitch velocity => Play.note tick pitch velocity

/-- A move that is not a single note is a passage, or keeps the voice quiet. -/
theorem passage_or_quiet (m : Move) (scored : m.isNote = false) :
    (∃ c : Passage, m.act = (c.act : Play γ Unit)) ∨
      ∀ p : Player γ, Play.KeepsQuiet m.act p := by
  cases m with
  | play music chords =>
    cases music with
    | silence => exact .inr fun p => Play.keepsQuiet_silence chords
    | pattern pattern => exact .inl ⟨.pattern pattern chords, rfl⟩
    | other kindName => exact .inl ⟨.other kindName chords, rfl⟩
  | tab parts beats => exact .inl ⟨.tab parts beats, rfl⟩
  | rest measures => exact .inr fun p => Play.keepsQuiet_rest measures
  | cresc factor measures shape => exact .inr fun p => Play.keepsQuiet_cresc factor measures shape
  | tempo bpm tick => exact .inr fun p => Play.keepsQuiet_tempo bpm tick
  | rit factor measures shape => exact .inr fun p => Play.keepsQuiet_rit factor measures shape
  | note tick pitch velocity => cases scored

/-- How a move ends that is not a single note.  It plays what it has read, or keeps the
voice quiet; and so it does when it fails as the music does, for then nothing was played. -/
theorem ensures_act (m : Move) (scored : m.isNote = false) (p : Player γ) :
    m.act.Ensures p
      (fun _ q => p.voice.Quiet q.voice ∨ ∃ sheet : Sheet, sheet.Played γ p.voice q.voice)
      (fun f q => f.kind.isMusical = true → p.voice.Quiet q.voice) := by
  obtain ⟨c, same⟩ | quiet := m.passage_or_quiet (γ := γ) scored
  · rw [same]
    cases isOpen : p.voice.finished with
    | true =>
      rw [Play.ensures_passage_finished isOpen]
      intro _
      exact .refl _
    | false =>
      refine (Play.ensures_passage isOpen c).mono ?_ ?_
      · rintro _ q ⟨sheet, -, played⟩
        exact .inr ⟨sheet, played⟩
      · rintro f q (⟨-, rfl⟩ | ⟨_, -, technical, -⟩) musical
        · exact .refl _
        · rw [technical.not_musical] at musical
          cases musical
  · exact (quiet p).mono (fun _ _ quiet => .inl quiet) fun _ _ quiet _ => quiet

end Move
end Plectrum
