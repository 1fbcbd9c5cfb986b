/-
  Plectrum.Proofs.Interleaving
  ────────────────────────────
  **Voices do not hear each other.**

  All voices of a band draw from one source of chance, and are finished into one song.  Still, if
  at most one of them strays, the order in which calls on different voices come does not matter.
  A voice that does not stray never draws: what it does is settled by the voice alone, and it
  leaves the source as it is.  The voice that strays is then the only one that draws.  So each
  voice ends as if its own calls had been all calls, and two orders of calls that are the same
  for each voice lead to the same band.  A band that is the same is finished the same way,
  whatever the journal says.

  Main results:
    * `Move.alike` — how a move ends is settled by the voice, and by the source of chance if the
      voice strays;
    * `Session.run_own` — calls on other voices leave no trace in a voice;
    * `Session.interleaved` — any two interleavings of the same calls lead to the same band, and
      to the same end.
-/
import Plectrum.Proofs.Bands
import Plectrum.Proofs.NoteBalance
import Plectrum.Proofs.Untimed

namespace Plectrum

/-! ## §1. What playing depends on. -/

namespace Play

variable {γ α : Type}

/-- A relation of players that no playing breaks.  Their voices are the same, and so are they
themselves if their voices stray; the chance of steady voices is not looked at. -/
structure Lasts (R : Player γ → Player γ → Prop) : Prop where
  voice : ∀ p p', R p p' → p.voice = p'.voice
  changed : ∀ p p', R p p' → ∀ w : Voice, w.config = p.voice.config →
    R { p with voice := w } { p' with voice := w }
  same : ∀ p p', R p p' → ¬p.voice.config.IsSteady → p = p'
  drawn : ∀ p, R p p → ¬p.voice.config.IsSteady → ∀ chance,
    R { p with chance := chance } { p with chance := chance }

/-- Two players that are one and the same. -/
theorem lasts_eq : Lasts (Eq : Player γ → Player γ → Prop) where
  voice := fun _ _ same => congrArg Player.voice same
  changed := fun _ _ same w _ => congrArg (fun p : Player γ => { p with voice := w }) same
  same := fun _ _ same _ => same
  drawn := fun _ _ _ _ => rfl

/-- Two players of one steady voice, each with its own source of chance. -/
structure Steadily (chance chance' : Option γ) (p p' : Player γ) : Prop where
  voice : p.voice = p'.voice
  steady : p.voice.config.IsSteady
  chance : p.chance = chance
  chance' : p'.chance = chance'

theorem lasts_steadily (chance chance' : Option γ) : Lasts (Steadily chance chance') where
  voice := fun _ _ h => h.voice
  changed := fun _ _ h _ config => ⟨rfl, config ▸ h.steady, h.chance, h.chance'⟩
  same := fun _ _ h strays => absurd h.steady strays
  drawn := fun _ h strays => absurd h.steady strays

/-- In particular it is none that acts break which do not look at the clock. -/
theorem Lasts.untimed {R : Player γ → Player γ → Prop} (lasts : Lasts R) : Untimed R where
  voice := fun p p' related => congrArg Voice.untimed (lasts.voice p p' related)
  changed := fun p p' related f config _ => by
    rw [← lasts.voice p p' related]
    exact lasts.changed p p' related _ (config _)
  chance := fun p p' related strays => congrArg Player.chance (lasts.same p p' related strays)
  drawn := fun p p' related strays chance => by
    obtain rfl := lasts.same p p' related strays
    exact lasts.drawn p related strays chance

/-! ## §2. Music. -/

variable {R : Player γ → Player γ → Prop} (lasts : Lasts R)
include lasts

theorem alike_voice : Act.Alike R R (voice : Play γ Voice) :=
  fun _ _ related => ⟨congrArg Except.ok (lasts.voice _ _ related), related⟩

theorem alike_changeVoice {f : Voice → Voice} (config : ∀ v, (f v).config = v.config) :
    Act.Alike R R (changeVoice f : Play γ Unit) :=
  .update fun p p' related => by
    rw [← lasts.voice p p' related]
    exact lasts.changed p p' related _ (config _)

theorem alike_playSilence : Act.Alike R R (playSilence : Play γ Unit) := by
  unfold playSilence
  refine .seq (alike_voice lasts) fun v => .seq (.lift _) fun clock => ?_
  refine .seq (alike_changeVoice lasts fun _ => rfl) fun _ => ?_
  exact .seq (.lift _) fun skip => alike_changeVoice lasts fun _ => rfl

theorem alike_requireMaster : Act.Alike R R (requireMaster : Play γ Unit) := by
  unfold requireMaster
  refine .seq (alike_voice lasts) fun v => ?_
  split
  · exact .throw _
  · exact .pure _

theorem alike_cresc (factor measures : Datum) (shape : Shape.Choice Datum) :
    Act.Alike R R (cresc factor measures shape : Play γ Unit) := by
  have ramp : ∀ startTick length,
      Act.Alike Eq Eq (Dynamics.crescendo factor startTick length shape) := fun _ _ =>
    .seq .state fun _ => .seq (.lift _) fun _ => .seq (.update fun _ _ same => same ▸ rfl) fun _ =>
      .seq (.lift _) fun _ => .seq (.lift _) fun _ => .seq (.report _ _ _) fun _ => .pure _
  unfold cresc
  refine .seq (blind_requireOpen lasts.untimed.blind) fun _ => .seq (.lift _) fun count => ?_
  refine .seq (alike_voice lasts) fun v => .seq (.lift _) fun _ => .seq (.lift _) fun _ => ?_
  exact .seq (blind_onDynamics lasts.untimed.blind (ramp _ _)) fun _ => .pure _

theorem alike_tempo (bpm tick : Datum) : Act.Alike R R (tempo bpm tick : Play γ Unit) := by
  have change : ∀ tick, Act.Alike Eq Eq (Dynamics.tempo bpm tick) := fun _ =>
    .seq .state fun _ => .seq (.lift _) fun _ => .update fun _ _ _ => rfl
  unfold tempo
  refine .seq (blind_requireOpen lasts.untimed.blind) fun _ => ?_
  refine .seq (alike_requireMaster lasts) fun _ => ?_
  exact .seq (alike_voice lasts) fun v => blind_onDynamics lasts.untimed.blind (change _)

theorem alike_rit (factor measures : Datum) (shape : Shape.Choice Datum) :
    Act.Alike R R (rit factor measures shape : Play γ Unit) := by
  have ramp : ∀ startTick beats ticks,
      Act.Alike Eq Eq (Dynamics.ritardando factor startTick beats ticks shape) := by
    intro startTick beats ticks
    unfold Dynamics.ritardando
    refine .seq .state fun _ => .seq (.lift _) fun stairs => ?_
    split
    · refine .seq ?_ fun _ => .seq (.lift _) fun _ => .seq (.lift _) fun _ => .report _ _ _
      rintro ⟨d, journal⟩ ⟨_, journal'⟩ rfl
      exact ⟨rfl, rfl⟩
    · exact .throw _
  unfold rit
  refine .seq (blind_requireOpen lasts.untimed.blind) fun _ => ?_
  refine .seq (alike_requireMaster lasts) fun _ => ?_
  refine .seq (.lift _) fun count => .seq (alike_voice lasts) fun v => ?_
  refine .seq (.lift _) fun beats => ?_
  exact blind_onDynamics lasts.untimed.blind (ramp _ _ _)

variable [ChanceSource γ]

theorem alike_playMeasure (pattern : Pattern) (frets : List (Option Int)) :
    Act.Alike R R (playMeasure pattern frets : Play γ Unit) := by
  have groups : ∀ g, Act.Alike R R (group frets g : Play γ Unit) := by
    intro g
    unfold group
    refine .seq (alike_voice lasts) fun v => .seq (.lift _) fun nominal => ?_
    refine .seq (untimed_humanize lasts.untimed nominal) fun tick => ?_
    refine .seq (untimed_jitter lasts.untimed) fun stray => ?_
    exact .forM (fun s => blind_stroke lasts.untimed.blind tick stray frets s) _
  unfold playMeasure
  refine .seq (.forM groups _) fun _ => .seq (alike_voice lasts) fun v => ?_
  exact .seq (.lift _) fun clock => alike_changeVoice lasts fun _ => rfl

theorem alike_playMeasures (pattern : Pattern) (parsed : List (List (Option Int))) :
    Act.Alike R R (playMeasures pattern parsed : Play γ Unit) := by
  have warns : Act.Alike R R (warnBeyondMeasure pattern : Play γ Unit) := by
    unfold warnBeyondMeasure
    refine .seq (alike_voice lasts) fun v => ?_
    dsimp only
    split
    · exact .seq (.lift _) fun _ => .report _ _ _
    · exact .pure _
  unfold playMeasures
  refine .seq warns fun _ => .seq (alike_changeVoice lasts fun _ => rfl) fun _ => ?_
  refine .seq (.forM (fun frets => alike_playMeasure lasts pattern frets) _) fun _ => ?_
  exact .seq (alike_voice lasts) fun v => .report _ _ _

theorem alike_play (music : Music) (chords : List Datum) :
    Act.Alike R R (play music chords : Play γ Unit) := by
  unfold play
  refine .seq (blind_requireOpen lasts.untimed.blind) fun _ => ?_
  cases music with
  | silence => exact .check (alike_playSilence lasts)
  | other kindName => exact .throw _
  | pattern pattern =>
    exact .seq (alike_voice lasts) fun v => .seq (.lift _) fun parsed =>
      alike_playMeasures lasts pattern parsed

theorem alike_tab (parts : List Datum) (beats : Datum) :
    Act.Alike R R (tab parts beats : Play γ Unit) := by
  unfold tab playGrid
  refine .seq (blind_requireOpen lasts.untimed.blind) fun _ => .seq (alike_voice lasts) fun v => ?_
  refine .seq (.lift _) fun grid => .seq (alike_voice lasts) fun v => ?_
  refine .seq (untimed_columns lasts.untimed _ _) fun clock => ?_
  refine .seq (alike_changeVoice lasts fun _ => rfl) fun _ => ?_
  exact .seq (alike_voice lasts) fun v => .report _ _ _

theorem alike_rest (measures : Datum) : Act.Alike R R (rest measures : Play γ Unit) := by
  have many : ∀ count, Act.Alike R R (rests count : Play γ Unit) := by
    intro count
    induction count with
    | zero => exact .pure _
    | succ count ih => exact .seq (alike_play lasts .silence []) fun _ => ih
  unfold rest
  split
  · exact many _
  · exact .throw _

end Play

/-- How a move ends is settled by the voice, and by the source of chance if the voice strays. -/
theorem Move.alike {γ : Type} [ChanceSource γ] {R : Player γ → Player γ → Prop}
    (lasts : Play.Lasts R) (m : Move) : Act.Alike R R (m.act : Play γ Unit) := by
  cases m with
  | play music chords => exact Play.alike_play lasts music chords
  | tab parts beats => exact Play.alike_tab lasts parts beats
  | rest measures => exact Play.alike_rest lasts measures
  | cresc factor measures shape => exact Play.alike_cresc lasts factor measures shape
  | tempo bpm tick => exact Play.alike_tempo lasts bpm tick
  | rit factor measures shape => exact Play.alike_rit lasts factor measures shape
  | note tick pitch velocity => exact Play.blind_note lasts.untimed.blind tick pitch velocity

/-! ## §3. Turns on a band. -/

namespace Band

variable {γ : Type}

/-- At most one voice of the band strays. -/
def StraysOnce (band : Band γ) : Prop :=
  ∀ part part' v v', band.voice? part = some v → band.voice? part' = some v' →
    ¬v.config.IsSteady → ¬v'.config.IsSteady → part = part'

/-- All voices are steady but the one of a part. -/
def StraysAt (band : Band γ) (q : Part) : Prop :=
  ∀ part v, band.voice? part = some v → part ≠ q → v.config.IsSteady

theorem StraysOnce.straysAt {band : Band γ} (h : band.StraysOnce) : ∃ q, band.StraysAt q := by
  by_cases steady : ∀ part v, band.voice? part = some v → v.config.IsSteady
  · exact ⟨.master, fun part v plays _ => steady part v plays⟩
  · simp only [not_forall] at steady
    obtain ⟨q, w, playsHere, strays⟩ := steady
    refine ⟨q, fun part v plays apart => ?_⟩
    by_contra straysToo
    exact apart (h part q v w plays playsHere straysToo strays)

/-- Auxiliaries that are steady leave straying to the master. -/
theorem straysOnce_of_steady {band : Band γ} (h : ∀ v ∈ band.auxiliaries, v.config.IsSteady) :
    band.StraysOnce := by
  have straysAt : band.StraysAt .master := by
    intro part v plays apart
    cases part with
    | master => exact absurd rfl apart
    | auxiliary i => exact h v (List.mem_of_getElem? plays)
  intro part part' v v' plays plays' strays strays'
  have here : part = .master := by_contra fun apart => strays (straysAt part v plays apart)
  have there : part' = .master := by_contra fun apart => strays' (straysAt part' v' plays' apart)
  rw [here, there]

/-- Two bands that are the same to a part: it has the same voice, and the same source of chance
if it is the part that strays. -/
structure SameTo (q part : Part) (band band' : Band γ) : Prop where
  voice : band.voice? part = band'.voice? part
  chance : part = q → band.chance = band'.chance

namespace SameTo

variable {q part : Part} {band band' band'' : Band γ}

theorem refl (band : Band γ) : SameTo q part band band := ⟨rfl, fun _ => rfl⟩

theorem symm (h : SameTo q part band band') : SameTo q part band' band :=
  ⟨h.voice.symm, fun here => (h.chance here).symm⟩

theorem trans (h : SameTo q part band band') (h' : SameTo q part band' band'') :
    SameTo q part band band'' :=
  ⟨h.voice.trans h'.voice, fun here => (h.chance here).trans (h'.chance here)⟩

/-- Bands that are the same to all parts, and save in the same folder, are the same. -/
theorem eq_of_all (h : ∀ part, SameTo q part band band') (folder : band.folder = band'.folder) :
    band = band' := by
  obtain ⟨master, auxiliaries, chance, f⟩ := band
  obtain ⟨master', auxiliaries', chance', f'⟩ := band'
  have sameMaster : master = master' := Option.some.inj (h .master).voice
  have sameChance : chance = chance' := (h q).chance rfl
  have sameAuxiliaries : auxiliaries = auxiliaries' :=
    List.ext_getElem? fun i => (h (.auxiliary i)).voice
  cases folder
  rw [sameMaster, sameChance, sameAuxiliaries]

end SameTo
end Band

/-- A move of one of the voices. -/
abbrev Turn : Type := Part × Move

/-- A turn, as a call on the band. -/
def Turn.call (t : Turn) : Call := .move t.1 t.2

/-- The turns of one voice. -/
def Turn.ofPart (part : Part) (turns : List Turn) : List Turn := turns.filter fun t => t.1 = part

namespace Session

variable {γ : Type} [ChanceSource γ]

/-- The desk after some turns, whether they go well or fail. -/
def runTurns (turns : List Turn) (desk : Desk (Band γ)) : Desk (Band γ) :=
  run (turns.map Turn.call) desk

section Turns

variable {q part : Part} {desk desk' : Desk (Band γ)}

/-- A turn of another voice leaves no trace in a voice. -/
theorem turn_other (straying : desk.state.StraysAt q) (t : Turn) (apart : t.1 ≠ part) :
    Band.SameTo q part (t.call.perform.start desk).2.state desk.state := by
  show Band.SameTo q part ((Perform.on t.1 t.2.act).start desk).2.state desk.state
  cases plays : desk.state.voice? t.1 with
  | none =>
    obtain ⟨f, failed⟩ := Perform.start_on_missing plays (t.2.act (γ := γ))
    rw [failed]
    exact .refl _
  | some v =>
    rw [Perform.start_on plays]
    refine ⟨Band.voice_played_other apart _, fun here => ?_⟩
    subst here
    -- The voice whose turn it is does not stray, so it leaves the source as it is.
    have steadily : Play.Steadily desk.state.chance desk.state.chance ⟨v, desk.state.chance⟩
        ⟨v, desk.state.chance⟩ := ⟨rfl, straying t.1 v plays apart, rfl, rfl⟩
    have ends := t.2.alike (Play.lasts_steadily _ _) ⟨_, desk.journal⟩ ⟨_, desk.journal⟩ steadily
    exact ends.2.chance

/-- A voice takes its turn the same way in two bands that are the same to it. -/
theorem turn_own (straying : desk.state.StraysAt q) (t : Turn)
    (same : Band.SameTo q t.1 desk.state desk'.state) :
    Band.SameTo q t.1 (t.call.perform.start desk).2.state (t.call.perform.start desk').2.state := by
  show Band.SameTo q t.1 ((Perform.on t.1 t.2.act).start desk).2.state
    ((Perform.on t.1 t.2.act).start desk').2.state
  cases plays : desk.state.voice? t.1 with
  | none =>
    obtain ⟨f, failed⟩ := Perform.start_on_missing plays (t.2.act (γ := γ))
    obtain ⟨f', failed'⟩ := Perform.start_on_missing (same.voice.symm.trans plays)
      (t.2.act (γ := γ))
    rw [failed, failed']
    exact same
  | some v =>
    have plays' := same.voice.symm.trans plays
    rw [Perform.start_on plays, Perform.start_on plays']
    by_cases here : t.1 = q
    · -- Here the voice may draw, and it draws from the same source in both bands.
      have chance := same.chance here
      have ends := (t.2.alike Play.lasts_eq ⟨⟨v, desk.state.chance⟩, desk.journal⟩
        ⟨⟨v, desk'.state.chance⟩, desk'.journal⟩ (by rw [chance])).2
      refine ⟨?_, fun _ => congrArg Player.chance ends⟩
      rw [Band.voice_played_self plays, Band.voice_played_self plays', ends]
    · -- Here the sources may differ, but the voice does not draw.
      have ends := (t.2.alike (Play.lasts_steadily _ _) ⟨⟨v, desk.state.chance⟩, desk.journal⟩
        ⟨⟨v, desk'.state.chance⟩, desk'.journal⟩ ⟨rfl, straying t.1 v plays here, rfl, rfl⟩).2
      refine ⟨?_, fun there => absurd there here⟩
      rw [Band.voice_played_self plays, Band.voice_played_self plays', ends.voice]

/-- No turn changes which voices stray, or where songs are saved. -/
theorem turn_keeps (t : Turn) :
    (t.call.perform.start desk).2.state.folder = desk.state.folder ∧
      (desk.state.StraysAt q → (t.call.perform.start desk).2.state.StraysAt q) := by
  obtain ⟨pairs, folder⟩ := (Perform.ensures_evolved desk.state t.1 t.2).always desk.journal
  refine ⟨folder, fun straying part w plays apart => ?_⟩
  obtain ⟨v, playedBefore, evolved⟩ :=
    (pairs.symm fun _ _ evolved => evolved).partner plays
  rw [evolved.config]
  exact straying part v playedBefore apart

/-- Turns of other voices leave no trace in a voice: it ends as after its own turns alone. -/
theorem run_own (turns : List Turn) (straying : desk.state.StraysAt q)
    (straying' : desk'.state.StraysAt q) (same : Band.SameTo q part desk.state desk'.state) :
    Band.SameTo q part (runTurns turns desk).state
      (runTurns (Turn.ofPart part turns) desk').state := by
  induction turns generalizing desk desk' with
  | nil => exact same
  | cons t turns ih =>
    have stays := (turn_keeps t).2 straying
    unfold Turn.ofPart
    rw [List.filter_cons]
    by_cases own : t.1 = part
    · rw [if_pos (decide_eq_true own)]
      subst own
      exact ih stays ((turn_keeps t).2 straying') (turn_own straying t same)
    · rw [if_neg (by rwa [decide_eq_true_eq])]
      exact ih stays straying' ((turn_other straying t own).trans same)

theorem folder_runTurns (turns : List Turn) (desk : Desk (Band γ)) :
    (runTurns turns desk).state.folder = desk.state.folder := by
  induction turns generalizing desk with
  | nil => rfl
  | cons t turns ih => exact (ih _).trans (turn_keeps (q := .master) t).1

end Turns

end Session

/-! ## §4. Finishing. -/

namespace Perform

variable {γ : Type}

theorem alike_voice (part : Part) : Act.Alike Eq Eq (voice part : Perform γ Voice) := by
  unfold voice
  refine .seq .state fun band => ?_
  split
  · exact .pure _
  · exact .throw _
  · exact .throw _

theorem alike_save (song : Song) (file : Datum) (path : Text) :
    Act.Alike Eq Eq (save song file path : Perform γ Unit) := by
  unfold save
  refine .seq .state fun band => ?_
  split
  · split
    · exact .seq (.report _ _ _) fun _ => .throw _
    · exact .throw _
  · refine .seq (.update fun _ _ same => same ▸ rfl) fun _ => ?_
    split
    · exact .throw _
    · exact .report _ _ _

theorem alike_saveTo (song : Song) (file : Datum) :
    Act.Alike Eq Eq (saveTo song file : Perform γ Unit) := by
  unfold saveTo
  split
  · exact alike_save _ _ _
  · exact alike_save _ _ _
  · split
    · unfold saveToNumber
      exact .check (.check (.seq (.report _ _ _) fun _ => .throw _))
    · exact .throw _

/-- What finishing does and returns is settled by the band, whatever the journal says. -/
theorem alike_finish (part : Part) (midi attribution : Datum) :
    Act.Alike Eq Eq (finish part midi attribution : Perform γ (Option Song)) := by
  unfold finish
  refine .seq (alike_voice part) fun v => .check ?_
  dsimp only
  split
  · exact .seq (.report _ _ _) fun _ => .pure _
  · refine .seq .state fun band => .seq (.lift _) fun song => ?_
    refine .seq (.update fun _ _ same => congrArg Band.close same) fun _ => ?_
    refine .seq (.report _ _ _) fun _ => ?_
    split
    · exact .seq (alike_saveTo _ _) fun _ => .pure _
    · exact .pure _

end Perform

/-! ## §5. Interleavings. -/

/-- An order of turns in which each voice takes its own turns in their order. -/
def Interleaves (scores : Part → List Move) (turns : List Turn) : Prop :=
  ∀ part, (Turn.ofPart part turns).map Prod.snd = scores part

/-- The turns of a voice are settled by its moves. -/
theorem Turn.ofPart_eq (part : Part) (turns : List Turn) :
    ofPart part turns = ((ofPart part turns).map Prod.snd).map (Prod.mk part) := by
  have own : ∀ t ∈ ofPart part turns, (part, t.2) = t := by
    intro t here
    have same : t.1 = part := of_decide_eq_true (List.mem_filter.1 here).2
    rw [← same]
  rw [List.map_map]
  exact ((List.map_congr_left own).trans (List.map_id _)).symm

/-- Two interleavings of the same music, in any band of which at most one voice strays, whatever was
played before, and whether the calls go well or fail.  They lead to the same band: each voice is the
same, and so is the source of chance.  Finishing then ends in the same way, with the same song or
the same fault. -/
theorem Session.interleaved {γ : Type} [ChanceSource γ] {desk : Desk (Band γ)}
    (straying : desk.state.StraysOnce) {scores : Part → List Move} {turns turns' : List Turn}
    (inOrder : Interleaves scores turns) (inOrder' : Interleaves scores turns') :
    let now := runTurns turns desk
    let now' := runTurns turns' desk
    now.state = now'.state ∧ ∀ part midi attribution,
      ((Perform.finish part midi attribution).start now).1 =
        ((Perform.finish part midi attribution).start now').1 ∧
      ((Perform.finish part midi attribution).start now).2.state =
        ((Perform.finish part midi attribution).start now').2.state := by
  obtain ⟨q, straying⟩ := straying.straysAt
  intro now now'
  have own : ∀ part, Turn.ofPart part turns = Turn.ofPart part turns' := by
    intro part
    rw [Turn.ofPart_eq part turns, Turn.ofPart_eq part turns', inOrder part, inOrder' part]
  have same : now.state = now'.state := by
    refine Band.SameTo.eq_of_all (q := q) (fun part => ?_) ?_
    · have fresh : Band.SameTo q part desk.state desk.state := .refl _
      have here := run_own turns straying straying fresh
      have there := run_own turns' straying straying fresh
      rw [← own part] at there
      exact here.trans there.symm
    · rw [folder_runTurns, folder_runTurns]
  exact ⟨same, fun part midi attribution =>
    Perform.alike_finish part midi attribution now now' same⟩

/-! ## §6. A duet. -/

/-- A master who strays in time, and an auxiliary who does not stray. -/
def duo : Except Fault (Desk (Band Swing)) := do
  let desk ← Session.begin .up [("strings", .list [.whole 40]), ("rtime", .whole 3)]
  return Session.run [.join .master [("strings", .list [.whole 50])]] desk

/-- A stroke at the first beat of a measure. -/
def Move.pluck (fret : Int) : Move :=
  .play (.pattern ⟨[⟨1, [⟨1, 80⟩]⟩]⟩) [.list [.whole fret]]

/-- What the two play: both pluck twice, and the auxiliary rests in between. -/
def duoScores : Part → List Move
  | .master => [.pluck 3, .pluck 5]
  | .auxiliary 0 => [.pluck 0, .rest (.whole 1), .pluck 2]
  | .auxiliary _ => []

/-- They take turns. -/
def inTurns : List Turn :=
  [(.master, .pluck 3), (.auxiliary 0, .pluck 0), (.auxiliary 0, .rest (.whole 1)),
    (.master, .pluck 5), (.auxiliary 0, .pluck 2)]

/-- The auxiliary plays all of its music first. -/
def oneByOne : List Turn :=
  [(.auxiliary 0, .pluck 0), (.auxiliary 0, .rest (.whole 1)), (.auxiliary 0, .pluck 2),
    (.master, .pluck 3), (.master, .pluck 5)]

theorem inTurns_interleaves : Interleaves duoScores inTurns
  | .master => rfl
  | .auxiliary 0 => rfl
  | .auxiliary (_ + 1) => rfl

theorem oneByOne_interleaves : Interleaves duoScores oneByOne
  | .master => rfl
  | .auxiliary 0 => rfl
  | .auxiliary (_ + 1) => rfl

/-- Either way the band is the same at the end, and so is the song of three tracks. -/
theorem duo_interleaved :
    ∃ desk song, duo = .ok desk ∧ inTurns.map Prod.fst ≠ oneByOne.map Prod.fst ∧
      (Session.runTurns inTurns desk).state = (Session.runTurns oneByOne desk).state ∧
      ((Perform.finish .master .null .null).start (Session.runTurns inTurns desk)).1 =
        .ok (some song) ∧
      ((Perform.finish .master .null .null).start (Session.runTurns oneByOne desk)).1 =
        .ok (some song) ∧
      song.tracks.length = 3 := by
  have seen : (duo.toOption.map fun desk =>
      let finished := (Perform.finish .master .null .null).start (Session.runTurns inTurns desk)
      (decide (∀ v ∈ desk.state.auxiliaries, v.config.IsSteady),
        finished.1.toOption.join.map fun song => song.tracks.length)) = some (true, some 3) := by
    decide +kernel
  obtain ⟨desk, begun, seen⟩ := exists_ok_of_seen seen
  simp only [Prod.mk.injEq] at seen
  obtain ⟨steady, tracks⟩ := seen
  obtain ⟨song, finished, three⟩ := exists_some_of_seen tracks
  obtain ⟨same, ends⟩ := Session.interleaved
    (Band.straysOnce_of_steady (of_decide_eq_true steady)) inTurns_interleaves oneByOne_interleaves
  refine ⟨desk, song, begun, by decide, same, finished, ?_, three⟩
  exact (ends .master .null .null).1.symm.trans finished

end Plectrum
