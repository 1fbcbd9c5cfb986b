/-
  Plectrum.Proofs.Walks
  ─────────────────────
  **What the strikes of a passage keep, the passage keeps.**

  A passage walks through its music: it draws, lands, strikes, and goes on in time.  A property
  of a voice that does not ask where in time the voice is can only be touched by the strikes.
  So a passage keeps it if the strokes or the cells of the sheet do.  What must hold after a
  failure is left open: `tolerated` names the faults after which the property is still wanted.

  Main results:
    * `Play.walks_playMeasures`, `Play.walks_playGrid` — from the strokes of a pattern, or the
      columns of a grid, to the playing of the whole;
    * `Play.walks_passage` — and so to the call.
-/
import Plectrum.Proofs.Moves

namespace Plectrum

/-! ## §1. Acts that keep a property unless they fail badly. -/

namespace Act

variable {σ α β : Type} {tolerated : Fault → Prop} {I : σ → Prop}

/-- An act that keeps a property of the state if it goes well or fails as is tolerated. -/
def KeepsOn (tolerated : Fault → Prop) (I : σ → Prop) (act : Act σ α) : Prop :=
  ∀ s, I s → act.Ensures s (fun _ t => I t) fun f t => tolerated f → I t

theorem Keeps.on {act : Act σ α} (h : Keeps I act) : KeepsOn tolerated I act :=
  fun s here => (h s here).mono (fun _ _ there => there) fun _ _ there _ => there

/-- Where all faults are tolerated, the property is kept however the act ends. -/
theorem KeepsOn.keeps {act : Act σ α} (h : KeepsOn (fun _ => True) I act) : Keeps I act :=
  fun s here => (h s here).mono (fun _ _ there => there) fun _ _ there => there True.intro

theorem KeepsOn.bind {act : Act σ α} {next : α → Act σ β} (first : KeepsOn tolerated I act)
    (then_ : ∀ a, KeepsOn tolerated I (next a)) : KeepsOn tolerated I (act >>= next) :=
  fun s here => (first s here).bind fun a t there => then_ a t there

theorem KeepsOn.forM {act : β → Act σ PUnit} {items : List β}
    (h : ∀ b ∈ items, KeepsOn tolerated I (act b)) : KeepsOn tolerated I (items.forM act) := by
  induction items with
  | nil => exact (Keeps.pure _).on
  | cons b items ih =>
    obtain ⟨here, there⟩ := List.forall_mem_cons.1 h
    exact bind here fun _ => ih there

end Act

/-! ## §2. Properties that time does not touch. -/

/-- A property of a voice that does not ask where in time the voice is. -/
structure Voice.Timeless (I : Voice → Prop) : Prop where
  moved : ∀ (v : Voice) (clock skip : Quantity), I v → I { v with clock, skip }
  landed : ∀ (v : Voice) (nominal : Quantity) (tick : Int), I v → I (v.struckAt nominal tick)

/-- No landing is before the start. -/
theorem LandsOn.nonneg {γ : Type} [ChanceSource γ] {v : Voice} {nominal : Quantity} {tick : Int}
    (lands : LandsOn γ v nominal tick) : 0 ≤ tick := by
  obtain ⟨shifted, -, lands⟩ := lands
  unfold LastStrike.landing at lands
  obtain ⟨n, -, landed⟩ := bind_ok lands
  have same := Except.ok.inj landed
  split at same <;> omega

namespace Play

variable {γ α : Type} {tolerated : Fault → Prop} {I : Voice → Prop}

/-- An act that keeps a property of the voice if it goes well or fails as is tolerated. -/
abbrev Walks (tolerated : Fault → Prop) (I : Voice → Prop) (act : Play γ α) : Prop :=
  Act.KeepsOn tolerated (fun p : Player γ => I p.voice) act

/-- What comes after a look at the voice may build on the property. -/
theorem walks_voice_bind {next : Voice → Play γ α}
    (h : ∀ v, I v → Walks tolerated I (next v)) : Walks tolerated I (voice >>= next) :=
  fun p here => (ensures_voice_bind next).2 (h p.voice here p here)

/-- What comes after a computation may build on its result. -/
theorem walks_lift_bind {β : Type} {result : Except Fault β} {next : β → Play γ α}
    (h : ∀ b, result = .ok b → Walks tolerated I (next b)) :
    Walks tolerated I (liftM result >>= next) := by
  intro p here
  rw [Act.ensures_lift_bind]
  exact ⟨fun b done => h b done p here, fun _ _ _ => here⟩

theorem walks_moved (timeless : Voice.Timeless I) {f : Voice → Voice}
    (moves : ∀ v, ∃ clock skip, f v = { v with clock, skip }) :
    Walks tolerated I (changeVoice f : Play γ Unit) := by
  intro p here
  obtain ⟨clock, skip, same⟩ := moves p.voice
  rw [ensures_changeVoice, same]
  exact timeless.moved _ _ _ here

theorem walks_warnBeyondMeasure (pattern : Pattern) :
    Walks tolerated I (warnBeyondMeasure pattern : Play γ Unit) := by
  intro p here
  refine (ensures_warnBeyondMeasure pattern).mono ?_ ?_
  · intro _ q same
    exact same ▸ here
  · intro _ q ends _
    exact ends.2 ▸ here

variable [ChanceSource γ]

theorem walks_jitter : Walks tolerated I (jitter : Play γ Binary64) := by
  intro p here
  have kept : ∀ q : Player γ, q.voice = p.voice → I q.voice := by
    intro q same
    rw [same]
    exact here
  exact ensures_jitter.mono (fun _ q ends => kept q ends.2) fun _ q ends _ => kept q ends.2

/-- What comes after a landing may rely on it not being before the start. -/
theorem walks_humanize_bind (timeless : Voice.Timeless I) (nominal : Quantity)
    {next : Int → Play γ α} (h : ∀ tick, 0 ≤ tick → Walks tolerated I (next tick)) :
    Walks tolerated I (humanize nominal >>= next) := by
  intro p here
  refine ((ensures_humanize nominal).mono (fun _ _ landed => landed) ?_).bind ?_
  · intro _ q ends _
    show I q.voice
    rw [ends.2]
    exact here
  · intro tick q ends
    obtain ⟨lands, settled⟩ := ends
    apply h tick lands.nonneg q
    show I q.voice
    rw [settled]
    exact timeless.landed _ _ _ here

/-! ## §3. Measures. -/

theorem walks_group (timeless : Voice.Timeless I) {frets : List (Option Int)} {g : Group}
    (strokes : ∀ s ∈ g.strokes, ∀ tick : Int, 0 ≤ tick → ∀ stray,
      Walks tolerated I (stroke tick stray frets s : Play γ Unit)) :
    Walks tolerated I (group frets g : Play γ Unit) := by
  unfold group
  apply walks_voice_bind
  intro v _
  apply walks_lift_bind
  intro nominal _
  apply walks_humanize_bind timeless
  intro tick begun
  apply walks_jitter.bind
  intro stray
  exact .forM fun s here => strokes s here tick begun stray

theorem walks_playMeasure (timeless : Voice.Timeless I) {pattern : Pattern}
    {frets : List (Option Int)}
    (strokes : ∀ g ∈ pattern.groups, ∀ s ∈ g.strokes, ∀ tick : Int, 0 ≤ tick → ∀ stray,
      Walks tolerated I (stroke tick stray frets s : Play γ Unit)) :
    Walks tolerated I (playMeasure pattern frets : Play γ Unit) := by
  unfold playMeasure
  apply Act.KeepsOn.bind
  · exact .forM fun g here => walks_group timeless (strokes g here)
  · intro _
    apply walks_voice_bind
    intro v _
    apply walks_lift_bind
    intro clock _
    exact walks_moved timeless fun w => ⟨clock, w.skip, rfl⟩

/-- The playing of measures keeps what the strokes of the pattern keep over each chord. -/
theorem walks_playMeasures (timeless : Voice.Timeless I) {pattern : Pattern}
    {parsed : List (List (Option Int))}
    (strokes : ∀ frets ∈ parsed, ∀ g ∈ pattern.groups, ∀ s ∈ g.strokes, ∀ tick : Int, 0 ≤ tick →
      ∀ stray, Walks tolerated I (stroke tick stray frets s : Play γ Unit)) :
    Walks tolerated I (playMeasures pattern parsed : Play γ Unit) := by
  unfold playMeasures
  apply (walks_warnBeyondMeasure pattern).bind
  intro _
  apply (walks_moved timeless fun w => ⟨w.clock, .whole 0, rfl⟩).bind
  intro _
  apply Act.KeepsOn.bind
  · exact .forM fun frets here => walks_playMeasure timeless (strokes frets here)
  · intro _
    exact walks_voice_bind fun v _ => (Act.Keeps.report _ _ _).on

/-! ## §4. Grids. -/

theorem walks_columns (timeless : Voice.Timeless I) {columns : List (Quantity × Text)}
    (each : ∀ column ∈ columns, ∀ tick : Int, 0 ≤ tick → ∀ stray,
      Walks tolerated I (cells tick stray 0 column.2 : Play γ Unit)) (start : Quantity) :
    Walks tolerated I (Play.columns start columns : Play γ Quantity) := by
  -- Each column is struck where the one before ends, so the start goes through the induction.
  induction columns generalizing start with
  | nil => exact (Act.Keeps.pure _).on
  | cons first columns ih =>
    obtain ⟨step, cells⟩ := first
    obtain ⟨here, there⟩ := List.forall_mem_cons.1 each
    rw [columns_cons]
    apply Act.KeepsOn.bind
    · unfold column
      apply walks_jitter.bind
      intro stray
      apply walks_humanize_bind timeless
      intro tick begun
      exact here tick begun stray
    · intro _
      apply walks_lift_bind
      intro next _
      exact ih there next

/-- The playing of a grid keeps what the cells of each of its columns keep. -/
theorem walks_playGrid (timeless : Voice.Timeless I) {grid : Grid}
    (each : ∀ column ∈ grid.columns, ∀ tick : Int, 0 ≤ tick → ∀ stray,
      Walks tolerated I (cells tick stray 0 column.2 : Play γ Unit)) :
    Walks tolerated I (playGrid grid : Play γ Unit) := by
  unfold playGrid
  apply walks_voice_bind
  intro v _
  apply (walks_columns timeless each v.clock).bind
  intro clock
  apply (walks_moved timeless fun w => ⟨clock, .whole 0, rfl⟩).bind
  intro _
  exact walks_voice_bind fun w _ => (Act.Keeps.report _ _ _).on

/-! ## §5. Passages. -/

/-- The call of a passage keeps what the playing of its sheet keeps. -/
theorem walks_passage (c : Passage) {p : Player γ} (here : I p.voice)
    (sheets : ∀ sheet, c.read p.voice = .ok sheet →
      Walks tolerated I (sheet.act : Play γ Unit)) :
    c.act.Ensures p (fun _ q => I q.voice) fun f q => tolerated f → I q.voice := by
  -- A finished voice refuses the call; an open one plays the sheet that it reads.
  cases isOpen : p.voice.finished with
  | true =>
    rw [ensures_passage_finished isOpen]
    exact fun _ => here
  | false =>
    rw [passage_act_eq c isOpen]
    have walks : Walks tolerated I ((liftM (c.read p.voice) : Play γ Sheet) >>= Sheet.act) :=
      walks_lift_bind sheets
    exact walks p here

end Play
end Plectrum
