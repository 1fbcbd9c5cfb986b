/-
  Plectrum.Proofs.Sessions
  ────────────────────────
  **Sessions: calls on a band, one after the other.**

  A session goes on after a call that fails, with what the call left behind.  A property
  of voices that holds of new voices, and that every call keeps, holds of every voice
  at every point of a session: this is `Band.Throughout.run`.
-/
import Plectrum.Proofs.Finale
import Plectrum.Proofs.Moves
import Plectrum.Proofs.Settings

namespace Plectrum

variable {γ : Type}

/-! ## §1. The voices of a band. -/

namespace Band

theorem voice_setVoice_self {band : Band γ} {part : Part} {v : Voice}
    (plays : band.voice? part = some v) (w : Voice) :
    (band.setVoice part w).voice? part = some w := by
  cases part with
  | master => rfl
  | auxiliary i =>
    have inside : i < band.auxiliaries.length := (List.getElem?_eq_some_iff.1 plays).1
    exact List.getElem?_set_self inside

theorem voice_setVoice_other {part other : Part} (apart : part ≠ other) (band : Band γ)
    (w : Voice) : (band.setVoice part w).voice? other = band.voice? other := by
  cases part with
  | master =>
    cases other with
    | master => cases apart rfl
    | auxiliary j => rfl
  | auxiliary i =>
    cases other with
    | master => rfl
    | auxiliary j => exact List.getElem?_set_ne fun same => apart (congrArg _ same)

/-- A property of all voices of a band. -/
def Throughout (P : Voice → Prop) (band : Band γ) : Prop :=
  ∀ part v, band.voice? part = some v → P v

namespace Throughout

variable {P : Voice → Prop} {band : Band γ}

theorem setVoice (h : band.Throughout P) {part : Part} {v w : Voice}
    (plays : band.voice? part = some v) (here : P w) : (band.setVoice part w).Throughout P := by
  intro other x playsOther
  by_cases same : part = other
  · subst same
    rw [voice_setVoice_self plays] at playsOther
    cases playsOther
    exact here
  · rw [voice_setVoice_other same] at playsOther
    exact h other x playsOther

theorem append (h : band.Throughout P) {aux : Voice} (here : P aux) :
    Throughout P { band with auxiliaries := band.auxiliaries ++ [aux] } := by
  intro part v plays
  cases part with
  | master => exact h .master v plays
  | auxiliary i =>
    change (band.auxiliaries ++ [aux])[i]? = some v at plays
    by_cases inside : i < band.auxiliaries.length
    · rw [List.getElem?_append_left inside] at plays
      exact h (.auxiliary i) v plays
    · rw [List.getElem?_append_right (Nat.le_of_not_lt inside)] at plays
      have last : v ∈ [aux] := List.mem_of_getElem? plays
      rw [List.mem_singleton] at last
      exact last ▸ here

theorem close (h : band.Throughout P) (here : ∀ v, P v → P v.close) :
    band.close.Throughout P := by
  intro part v plays
  cases part with
  | master =>
    cases plays
    exact here _ (h .master _ rfl)
  | auxiliary i =>
    change (band.auxiliaries.map Voice.close)[i]? = some v at plays
    rw [List.getElem?_map, Option.map_eq_some_iff] at plays
    obtain ⟨w, playsW, rfl⟩ := plays
    exact here w (h (.auxiliary i) w playsW)

/-- What holds throughout holds of the master and of each auxiliary. -/
theorem forall_mem (h : band.Throughout P) : ∀ v ∈ band.master :: band.auxiliaries, P v := by
  refine List.forall_mem_cons.2 ⟨h .master _ rfl, fun v here => ?_⟩
  obtain ⟨i, plays⟩ := List.mem_iff_getElem?.1 here
  exact h (.auxiliary i) v plays

/-- A master without auxiliaries is the whole band. -/
theorem alone (alone : band.auxiliaries.isEmpty = true) (here : P band.master) :
    band.Throughout P := by
  intro part v plays
  cases part with
  | master => exact Option.some.inj plays ▸ here
  | auxiliary i =>
    change band.auxiliaries[i]? = some v at plays
    rw [List.isEmpty_iff.1 alone] at plays
    cases plays

end Throughout
end Band

/-! ## §2. Acts on a part. -/

/-- A band after one of its parts has been played. -/
def Band.played (band : Band γ) (part : Part) (q : Player γ) : Band γ :=
  { band.setVoice part q.voice with chance := q.chance }

namespace Band

variable {band : Band γ} {part other : Part} {v : Voice}

theorem voice_played_self (plays : band.voice? part = some v) (q : Player γ) :
    (band.played part q).voice? part = some q.voice := by
  have here := voice_setVoice_self plays q.voice
  cases part <;> exact here

theorem voice_played_other (apart : part ≠ other) (q : Player γ) :
    (band.played part q).voice? other = band.voice? other := by
  have there := voice_setVoice_other apart band q.voice
  cases other <;> exact there

/-- A part that has been played and is as before leaves the band as before. -/
theorem played_self (plays : band.voice? part = some v) :
    band.played part ⟨v, band.chance⟩ = band := by
  cases part with
  | master =>
    cases plays
    rfl
  | auxiliary i =>
    obtain ⟨inside, here⟩ := List.getElem?_eq_some_iff.1 plays
    have same : band.auxiliaries.set i v = band.auxiliaries := by
      rw [← here]
      exact List.set_getElem_self inside
    show { band with auxiliaries := band.auxiliaries.set i v } = band
    rw [same]

end Band

theorem Band.Throughout.played {P : Voice → Prop} {band : Band γ} (h : band.Throughout P)
    {part : Part} {v : Voice} (plays : band.voice? part = some v) {q : Player γ}
    (here : P q.voice) : (band.played part q).Throughout P := by
  intro other x playsOther
  refine h.setVoice plays here other x ?_
  cases other <;> exact playsOther

namespace Perform

variable {α : Type} {band : Band γ} {part : Part}

theorem start_voice {desk : Desk (Band γ)} {v : Voice} (plays : desk.state.voice? part = some v) :
    (voice part : Perform γ Voice).start desk = (.ok v, desk) := by
  unfold voice
  rw [Act.start_bind, Act.start_state]
  dsimp only
  rw [plays]
  rfl

theorem start_voice_missing {desk : Desk (Band γ)} (missing : desk.state.voice? part = none) :
    ∃ f, (voice part : Perform γ Voice).start desk = (.error f, desk) := by
  unfold voice
  rw [Act.start_bind, Act.start_state]
  dsimp only
  rw [missing]
  cases part <;> exact ⟨_, rfl⟩

/-- An act on a part that is there runs as it does on its player. -/
theorem start_on {desk : Desk (Band γ)} {v : Voice} (plays : desk.state.voice? part = some v)
    (act : Play γ α) :
    (on part act).start desk =
      ((act.start ⟨⟨v, desk.state.chance⟩, desk.journal⟩).1,
        ⟨desk.state.played part (act.start ⟨⟨v, desk.state.chance⟩, desk.journal⟩).2.state,
          (act.start ⟨⟨v, desk.state.chance⟩, desk.journal⟩).2.journal⟩) := by
  unfold on
  rw [Act.start_bind, start_voice plays]
  rfl

/-- A part that is not there is refused, and nothing happens. -/
theorem start_on_missing {desk : Desk (Band γ)} (missing : desk.state.voice? part = none)
    (act : Play γ α) : ∃ f, (on part act).start desk = (.error f, desk) := by
  obtain ⟨f, failed⟩ := start_voice_missing missing
  refine ⟨f, ?_⟩
  unfold on
  rw [Act.start_bind, failed]

/-- An act on a part that is there ends as it does on its player. -/
theorem ensures_on {act : Play γ α} {good : α → Band γ → Prop} {bad : Fault → Band γ → Prop}
    (missing : band.voice? part = none → ∀ number, bad (.noSuchVoice number) band)
    (here : ∀ v, band.voice? part = some v →
      act.Ensures ⟨v, band.chance⟩ (fun a q => good a (band.played part q))
        fun f q => bad f (band.played part q)) :
    (on part act).Ensures band good bad := by
  unfold on
  cases plays : band.voice? part with
  | none => exact ensures_missing_bind plays _ (missing plays)
  | some v =>
    rw [ensures_voice_bind plays, Act.ensures_onPart]
    exact here v plays

end Perform

/-! ## §3. New voices. -/

/-- A voice that nothing has been played on. -/
structure Voice.Fresh (settings : Config) (strings : Tuning) (joins : Bool) (v : Voice) : Prop where
  config : v.config = settings
  tuning : v.tuning = strings
  measure : settings.ticksPerMeasure = .ok v.measure
  dynamics : Dynamics.start (Datum.number settings.bpm) (.number settings.volume) = .ok v.dynamics
  sounding : v.sounding = List.replicate v.stringCount none
  clock : Voice.leadIn settings = .ok v.clock
  skip : v.skip = .whole 0
  lastStrike : v.lastStrike = ⟨.whole 0, 0⟩
  events : v.events = #[]
  auxiliary : v.auxiliary = joins
  finished : v.finished = false

theorem Voice.create_fresh (config : Config) (tuning : Tuning) (auxiliary : Bool) :
    Yields (Voice.create config tuning auxiliary) (Voice.Fresh config tuning auxiliary) := by
  unfold Voice.create
  refine .bind fun dynamics dynamicsHere => ?_
  refine .bind fun measure measureHere => ?_
  refine .bind fun clock clockHere => ?_
  exact .pure ⟨rfl, rfl, measureHere, dynamicsHere, rfl, clockHere, rfl, rfl, rfl, rfl, rfl⟩

/-- A voice that has just come to be, from options that were accepted. -/
def Voice.New (v : Voice) : Prop :=
  ∃ options config tuning auxiliary, Config.ofOptions options = .ok config ∧
    Tuning.ofConfig config = .ok tuning ∧ Voice.create config tuning auxiliary = .ok v

/-- A band that has just come to be has a new master and nobody else. -/
def Band.Created (band : Band γ) : Prop :=
  ∃ (options : Options) (setup : Setup) (chanceOf : Option Nat → γ) (folder : Folder)
    (journal : Journal), Config.ofOptions options = .ok setup.config ∧
      ((Band.create chanceOf setup folder : Act Unit (Band γ)).start ⟨(), journal⟩).1 = .ok band

/-- A new voice has its settings, and nothing has been played on it. -/
theorem Voice.New.fresh {v : Voice} (h : v.New) :
    ∃ options, Config.ofOptions options = .ok v.config ∧
      Tuning.ofConfig v.config = .ok v.tuning ∧ v.Fresh v.config v.tuning v.auxiliary := by
  obtain ⟨options, config, tuning, auxiliary, accepted, tuned, created⟩ := h
  have fresh := Voice.create_fresh config tuning auxiliary v created
  have same := fresh.auxiliary
  obtain ⟨rfl, rfl⟩ := And.intro fresh.config fresh.tuning
  subst same
  exact ⟨options, accepted, tuned, fresh⟩

/-- A voice whose name can be written; every voice that has introduced itself is one. -/
def Voice.Named (v : Voice) : Prop := v.name.isWritable = true

theorem Voice.named_of_greeting {v : Voice} (greets : v.greeting.isWritable = true) : v.Named := by
  change (v.name.isWritable && _) = true at greets
  exact (Bool.and_eq_true_iff.1 greets).1

/-- A band comes to be with a master that is made of its settings and has introduced itself, and
with nobody else. -/
theorem Band.ensures_create (chanceOf : Option Nat → γ) (setup : Setup) (folder : Folder) :
    (Band.create chanceOf setup folder : Act Unit (Band γ)).Ensures ()
      (fun band _ => (∃ tuning, Tuning.ofConfig setup.config = .ok tuning ∧
        Voice.create setup.config tuning false = .ok band.master) ∧
        band.master.Named ∧ band.auxiliaries = [])
      fun _ _ => True := by
  unfold Band.create
  rw [Act.ensures_lift_bind]
  refine ⟨fun tuning tuned => ?_, fun _ _ => True.intro⟩
  rw [Act.ensures_lift_bind]
  refine ⟨fun chance _ => ?_, fun _ _ => True.intro⟩
  rw [Act.ensures_lift_bind]
  refine ⟨fun master new => ?_, fun _ _ => True.intro⟩
  refine Act.ensures_report_bind_cases (fun greets => ?_) fun _ => True.intro
  rw [Act.ensures_pure]
  exact ⟨⟨tuning, tuned, new⟩, Voice.named_of_greeting greets, rfl⟩

/-- A new band has introduced its master, and has nobody else. -/
theorem Band.Created.begun {band : Band γ} (h : band.Created) :
    band.master.New ∧ band.master.Named ∧ band.master.auxiliary = false ∧
      band.auxiliaries = [] := by
  obtain ⟨options, setup, chanceOf, folder, journal, accepted, created⟩ := h
  obtain ⟨⟨tuning, tuned, new⟩, named, alone⟩ :=
    (Band.ensures_create chanceOf setup folder).of_ok created
  exact ⟨⟨options, setup.config, tuning, false, accepted, tuned, new⟩, named,
    (Voice.create_fresh setup.config tuning false _ new).auxiliary, alone⟩

theorem Band.Created.new {band : Band γ} (h : band.Created) :
    band.master.New ∧ band.master.auxiliary = false ∧ band.auxiliaries = [] := by
  obtain ⟨new, -, master, alone⟩ := h.begun
  exact ⟨new, master, alone⟩

/-- A new band has no voice but its master. -/
theorem Band.Created.only {band : Band γ} (h : band.Created) {part : Part} {v : Voice}
    (plays : band.voice? part = some v) : part = .master ∧ v = band.master := by
  cases part with
  | master => exact ⟨rfl, (Option.some.inj plays).symm⟩
  | auxiliary i =>
    change band.auxiliaries[i]? = some v at plays
    rw [h.new.2.2] at plays
    cases plays

/-- What holds of new voices holds throughout a new band. -/
theorem Band.Created.throughout {band : Band γ} (h : band.Created) {P : Voice → Prop}
    (new : ∀ v : Voice, v.New → P v) : band.Throughout P := by
  intro part v plays
  rw [(h.only plays).2]
  exact new _ h.new.1

/-- The desk of a new band that draws from a source. -/
def Session.begin (source : γ) (options : Options) : Except Fault (Desk (Band γ)) := do
  let setup ← Setup.ofOptions options
  let (outcome, desk) :=
    (Band.create (fun _ => source) setup default : Act Unit (Band γ)).start ⟨(), #[]⟩
  return ⟨← outcome, desk.journal⟩

theorem Session.begin_created (source : γ) (options : Options) :
    Yields (Session.begin source options) fun desk => desk.state.Created := by
  unfold Session.begin
  refine .bind fun setup accepted => ?_
  dsimp only
  refine .bind fun band created => .pure ?_
  exact ⟨_, setup, _, _, _, Setup.ofOptions_config options setup accepted, created⟩

/-- The master of the new band has the settings of the options. -/
theorem Session.begin_config (source : γ) (options : Options) :
    Yields (Session.begin source options) fun desk =>
      Config.ofOptions (Setup.without Setup.configKey (Setup.without Setup.chanceKey options)) =
        .ok desk.state.master.config := by
  unfold Session.begin
  refine .bind fun setup accepted => ?_
  dsimp only
  refine .bind fun band created => .pure ?_
  obtain ⟨⟨tuning, -, new⟩, -⟩ := (Band.ensures_create _ setup default).of_ok created
  rw [(Voice.create_fresh setup.config tuning false _ new).config]
  exact Setup.ofOptions_config options setup accepted

/-- A band that a new voice has joined, at the call of a part that is open and no auxiliary. -/
structure Band.Joined (band : Band γ) (part : Part) (aux : Voice) (after : Band γ) : Prop where
  new : aux.New
  auxiliary : aux.auxiliary = true
  named : aux.Named
  caller : ∃ v, band.voice? part = some v ∧ v.finished = false ∧ v.auxiliary = false
  band : after = { band with auxiliaries := band.auxiliaries ++ [aux] }

namespace Perform

variable {band : Band γ}

/-- How joining ends: with a voice that is made, step by step, of the options and of what they
share with the caller, at the end of the band; or with nothing changed. -/
theorem ensures_join_settled (part : Part) (options : Options) :
    (join part options).Ensures band
      (fun aux b => ∃ v full config tuning, band.voice? part = some v ∧ v.finished = false ∧
        v.auxiliary = false ∧
        auxiliaryOptions v.config band.auxiliaries.length options = .ok full ∧
        Config.ofOptions full = .ok config ∧ Tuning.ofConfig config = .ok tuning ∧
        Voice.create config tuning true = .ok aux ∧ aux.greeting.isWritable = true ∧
        b = { band with auxiliaries := band.auxiliaries ++ [aux] })
      (fun _ b => b = band) := by
  unfold join
  refine .check (fun _ => rfl) fun _ => ?_
  cases plays : band.voice? part with
  | none => exact ensures_missing_bind plays _ fun _ => rfl
  | some v =>
    rw [ensures_voice_bind plays]
    refine .check (fun _ => rfl) fun isOpen => ?_
    refine .check (fun _ => rfl) fun master => ?_
    rw [Bool.not_eq_true] at isOpen master
    split
    · exact (Act.ensures_throw _).2 rfl
    · rw [Act.ensures_state_bind, Act.ensures_lift_bind]
      refine ⟨fun full settled => ?_, fun _ _ => rfl⟩
      rw [Act.ensures_lift_bind]
      refine ⟨fun config accepted => ?_, fun _ _ => rfl⟩
      rw [Act.ensures_lift_bind]
      refine ⟨fun tuning tuned => ?_, fun _ _ => rfl⟩
      rw [Act.ensures_lift_bind]
      refine ⟨fun aux new => ?_, fun _ _ => rfl⟩
      refine Act.ensures_report_bind_cases (fun greets => ?_) fun _ => rfl
      rw [Act.ensures_update_bind, Act.ensures_pure]
      exact ⟨v, full, config, tuning, rfl, isOpen, master, settled, accepted, tuned, new, greets,
        rfl⟩

/-- How joining ends: with a new voice at the end of the band, or with nothing changed. -/
theorem ensures_join (part : Part) (options : Options) :
    (join part options).Ensures band
      (fun aux b => band.Joined part aux b)
      (fun _ b => b = band) := by
  refine (ensures_join_settled part options).mono ?_ fun _ _ same => same
  rintro aux b ⟨v, full, config, tuning, plays, isOpen, master, -, accepted, tuned, new, greets, rfl⟩
  exact ⟨⟨full, config, tuning, true, accepted, tuned, new⟩,
    (Voice.create_fresh config tuning true aux new).auxiliary,
    Voice.named_of_greeting greets, ⟨v, plays, isOpen, master⟩, rfl⟩

end Perform

/-! ## §4. Sessions. -/

/-- A call on a band. -/
inductive Call where
  | move (part : Part) (m : Move)
  | join (part : Part) (options : Options)
  | finish (part : Part) (midi attribution : Datum)

/-- Whether a call puts a single note on the timeline by hand. -/
def Call.isNote : Call → Bool
  | .move _ m => m.isNote
  | _ => false

variable [ChanceSource γ]

def Call.perform : Call → Perform γ Unit
  | .move part m => Perform.on part m.act
  | .join part options => do let _ ← Perform.join part options
  | .finish part midi attribution => do let _ ← Perform.finish part midi attribution

namespace Session

/-- The desk after some calls, whether they go well or fail. -/
def run : List Call → Desk (Band γ) → Desk (Band γ)
  | [], desk => desk
  | call :: calls, desk => run calls (call.perform.start desk).2

/-- An outcome that is no failure, or fails by a mistake in the music. -/
def Tolerable (outcome : Except Fault Unit) : Prop :=
  ∀ f, outcome = .error f → f.kind.isMusical = true

instance : (outcome : Except Fault Unit) → Decidable (Tolerable outcome)
  | .ok _ => isTrue fun _ failed => nomatch failed
  | .error f =>
    decidable_of_iff (f.kind.isMusical = true)
      ⟨fun musical _ failed => Except.error.inj failed ▸ musical, fun h => h f rfl⟩

/-- Calls of which each goes well. -/
def Flawless : List Call → Desk (Band γ) → Prop
  | [], _ => True
  | call :: calls, desk =>
    (call.perform.start desk).1.toBool = true ∧ Flawless calls (call.perform.start desk).2

instance decidableFlawless : (calls : List Call) → (desk : Desk (Band γ)) →
    Decidable (Flawless calls desk)
  | [], _ => isTrue True.intro
  | call :: calls, desk =>
    have := decidableFlawless calls (call.perform.start desk).2
    inferInstanceAs (Decidable ((call.perform.start desk).1.toBool = true ∧ _))

/-- Calls of which each goes well, or fails by a mistake in the music. -/
def Graceful : List Call → Desk (Band γ) → Prop
  | [], _ => True
  | call :: calls, desk =>
    Tolerable (call.perform.start desk).1 ∧ Graceful calls (call.perform.start desk).2

instance decidableGraceful : (calls : List Call) → (desk : Desk (Band γ)) →
    Decidable (Graceful calls desk)
  | [], _ => isTrue True.intro
  | call :: calls, desk =>
    have := decidableGraceful calls (call.perform.start desk).2
    inferInstanceAs (Decidable (Tolerable (call.perform.start desk).1 ∧ _))

theorem Flawless.graceful {calls : List Call} {desk : Desk (Band γ)} (h : Flawless calls desk) :
    Graceful calls desk := by
  induction calls generalizing desk with
  | nil => exact True.intro
  | cons call calls ih =>
    obtain ⟨well, rest⟩ := h
    refine ⟨fun f failed => ?_, ih rest⟩
    rw [failed] at well
    cases well

end Session

/-! ## §5. What every call keeps. -/

section Run

variable {P : Voice → Prop} {allowed : Move → Prop}

/-- A call keeps a property of all voices if each move does, new voices have it, and
closed voices keep it; after faults that are not `tolerated`, nothing is asked of it. -/
theorem Call.ensures_throughout {tolerated : Fault → Prop} (new : ∀ v : Voice, v.New → P v)
    (close : ∀ v, P v → P v.close)
    (keeps : ∀ m, allowed m → ∀ p : Player γ, P p.voice →
      m.act.Ensures p (fun _ q => P q.voice) fun f q => tolerated f → P q.voice)
    {band : Band γ} (start : band.Throughout P) (call : Call)
    (asked : ∀ part m, call = .move part m → allowed m) :
    call.perform.Ensures band (fun _ b => b.Throughout P)
      fun f b => tolerated f → b.Throughout P := by
  cases call with
  | move part m =>
    refine Perform.ensures_on (fun _ _ _ => start) fun v plays => ?_
    refine (keeps m (asked part m rfl) ⟨v, band.chance⟩ (start part v plays)).mono ?_ ?_
    · intro _ q here
      exact start.played plays here
    · intro f q here tolerable
      exact start.played plays (here tolerable)
  | join part options =>
    unfold perform
    refine ((Perform.ensures_join part options).mono (fun _ _ h => h) ?_).bind ?_
    · rintro f _ rfl _
      exact start
    · rintro aux b joined
      rw [joined.band]
      exact (Act.ensures_pure _).2 (start.append (new aux joined.new))
  | finish part midi attribution =>
    unfold perform
    have closed : ∀ folder, Band.Throughout P { band.close with folder } := by
      intro folder other v plays
      refine start.close close other v ?_
      cases other <;> exact plays
    refine ((Perform.ensures_finish part midi attribution).mono (fun _ _ h => h) ?_).bind ?_
    · rintro f _ (⟨-, rfl⟩ | ⟨v, -, -, -, ⟨-, rfl⟩ | ⟨-, s, folder, -, rfl⟩⟩) _
      · exact start
      · exact start
      · exact closed folder
    · rintro song _ ⟨v, -, -, ⟨-, -, rfl⟩ | ⟨-, s, folder, -, -, rfl⟩⟩
      · exact (Act.ensures_pure _).2 start
      · exact (Act.ensures_pure _).2 (closed folder)

/-- So every session keeps it. -/
theorem Band.Throughout.run (new : ∀ v : Voice, v.New → P v) (close : ∀ v, P v → P v.close)
    (keeps : ∀ m, allowed m → ∀ p : Player γ, P p.voice →
      m.act.Ensures p (fun _ q => P q.voice) fun f q => f.kind.isMusical = true → P q.voice)
    {calls : List Call} {desk : Desk (Band γ)} (start : desk.state.Throughout P)
    (asked : ∀ part m, .move part m ∈ calls → allowed m)
    (graceful : Session.Graceful calls desk) :
    (Session.run calls desk).state.Throughout P := by
  induction calls generalizing desk with
  | nil => exact start
  | cons call calls ih =>
    obtain ⟨musical, rest⟩ := graceful
    refine ih ?_ (fun part m here => asked part m (List.mem_cons_of_mem _ here)) rest
    have contract := Call.ensures_throughout new close keeps start call
      fun part m same => asked part m (same ▸ List.mem_cons_self)
    cases outcome : (call.perform.start desk).1 with
    | ok _ => exact contract.of_ok outcome
    | error f => exact contract.of_error outcome (musical f outcome)

end Run

end Plectrum
