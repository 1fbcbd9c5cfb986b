/-
  Plectrum.Proofs.Strikes
  ───────────────────────
  **What a strike leaves on the timeline.**

  `Struck` says what one strike does to the strings that sound and which events it
  records; `Strikes` chains the strikes of one moment.  Every act that strikes strings
  is shown to be such a chain when it goes well.  When it fails, the fault is a failure
  of a number, and the chain has broken off: between two strikes, or behind the cut of
  one.  Either way the voice has only grown: events were added, none was lost.
-/
import Plectrum.Proofs.Contract
import Plectrum.Proofs.Settings
import Plectrum.Proofs.Technical

namespace Plectrum

/-! ## §1. Strikes as a relation. -/

/-- What sounds on each string, lowest first. -/
abbrev Bank : Type := List (Option Quantity)

/-- The start of a note. -/
def Event.start (channel : Datum) (tick : Int) (pitch : Quantity) (velocity : Int) : Event :=
  ⟨.whole tick, .noteOn channel (.number pitch) (.whole velocity)⟩

/-- The end of a note. -/
def Event.stop (channel : Datum) (tick : Int) (pitch : Quantity) : Event :=
  ⟨.whole tick, .noteOff channel (.number pitch) (.whole 0)⟩

/-- The end of the note that sounds on a string, if one does. -/
def Bank.cut (bank : Bank) (channel : Datum) (tick : Int) (index : Nat) : List Event :=
  match bank[index]? with
  | some (some old) => [.stop channel tick old]
  | _ => []

/-- The channel of a voice with these settings, as events hold it. -/
def Config.channelDatum (c : Config) : Datum := .number c.channel

/-- What a strike ends before anything else. -/
def Bank.cutIf (bank : Bank) (closes : Bool) (channel : Datum) (tick : Int) (index : Nat) :
    List Event :=
  if closes then bank.cut channel tick index else []

/-- One strike at a tick, from the strings that sound before it over the events it
records to the strings that sound after it.  With `closes` it cuts the note that still
sounds on its string. -/
inductive Struck (config : Config) (tuning : Tuning) (tick : Int) (stray : Binary64)
    (closes : Bool) : Bank → List Event → Bank → Prop where
  /-- A string is left silent. -/
  | muted (bank : Bank) (index : Nat) (pitch : Quantity) :
    Struck config tuning tick stray closes bank
      (bank.cutIf closes config.channelDatum tick index ++
        if closes then [] else [.stop config.channelDatum tick pitch])
      (bank.set index none)
  /-- A string sounds. -/
  | sounded (bank : Bank) (index : Nat) (pitch : Quantity) (velocity : Int)
      (onString : index < tuning.roots.length) (low : 1 ≤ velocity) (high : velocity ≤ 127) :
    Struck config tuning tick stray closes bank
      (bank.cutIf closes config.channelDatum tick index ++
        [.start config.channelDatum tick pitch velocity])
      (bank.set index (some pitch))
  /-- The velocity has strayed down to silence, which draws within the spread never cause. -/
  | strayedOut (bank : Bank) (index : Nat) (pitch : Quantity) (written : Int) (force : Quantity)
      (positive : 0 < written)
      (strays : Play.strayed config.volumeSpread written stray = .ok force)
      (silent : force.le (.whole 0) = true) :
    Struck config tuning tick stray closes bank
      (bank.cutIf closes config.channelDatum tick index ++
        [.stop config.channelDatum tick pitch])
      (bank.set index (some pitch))

/-- Strikes at one tick, one after the other. -/
inductive Strikes (config : Config) (tuning : Tuning) (tick : Int) (stray : Binary64)
    (closes : Bool) : Bank → List Event → Bank → Prop where
  | nil (bank : Bank) : Strikes config tuning tick stray closes bank [] bank
  | cons {bank bank' bank'' : Bank} {es es' : List Event}
      (first : Struck config tuning tick stray closes bank es bank')
      (rest : Strikes config tuning tick stray closes bank' es' bank'') :
    Strikes config tuning tick stray closes bank (es ++ es') bank''

/-- Strikes at one tick that break off: between two of them, or within one, which has then
recorded its cut and nothing else. -/
inductive BrokenOff (config : Config) (tuning : Tuning) (tick : Int) (stray : Binary64)
    (closes : Bool) : Bank → List Event → Bank → Prop where
  | between {bank bank' : Bank} {es : List Event}
      (done : Strikes config tuning tick stray closes bank es bank') :
    BrokenOff config tuning tick stray closes bank es bank'
  | within {bank bank' : Bank} {es : List Event} (index : Nat)
      (done : Strikes config tuning tick stray closes bank es bank') :
    BrokenOff config tuning tick stray closes bank
      (es ++ bank'.cutIf closes config.channelDatum tick index) bank'

section Chains

variable {config : Config} {tuning : Tuning} {tick : Int} {stray : Binary64} {closes : Bool}
variable {bank bank' bank'' : Bank} {es es' : List Event}

namespace Strikes

theorem single (h : Struck config tuning tick stray closes bank es bank') :
    Strikes config tuning tick stray closes bank es bank' := by
  have chain := cons h (nil bank')
  rwa [List.append_nil] at chain

theorem trans (h : Strikes config tuning tick stray closes bank es bank')
    (h' : Strikes config tuning tick stray closes bank' es' bank'') :
    Strikes config tuning tick stray closes bank (es ++ es') bank'' := by
  induction h with
  | nil => exact h'
  | cons first _ ih =>
    rw [List.append_assoc]
    exact cons first (ih h')

end Strikes

/-- A strike adds no string and takes none away. -/
theorem Struck.length_eq (h : Struck config tuning tick stray closes bank es bank') :
    bank'.length = bank.length := by
  cases h <;> exact List.length_set

theorem Strikes.length_eq (h : Strikes config tuning tick stray closes bank es bank') :
    bank'.length = bank.length := by
  induction h with
  | nil => rfl
  | cons first _ ih => rw [ih, first.length_eq]

/-- A string without a note to cut is silent already. -/
theorem Bank.set_of_uncut {channel : Datum} {index : Nat}
    (uncut : bank.cut channel tick index = []) : bank.set index none = bank := by
  unfold cut at uncut
  by_cases inBank : index < bank.length
  · rw [List.getElem?_eq_getElem inBank] at uncut
    cases sounds : bank[index] with
    | none =>
      rw [← sounds]
      exact List.set_getElem_self inBank
    | some old =>
      rw [sounds] at uncut
      cases uncut
  · exact List.set_eq_of_length_le (Nat.le_of_not_lt inBank)

/-- A strike that records nothing has muted a string that was silent already. -/
theorem Struck.still (h : Struck config tuning tick stray closes bank es bank')
    (nothing : es = []) : bank' = bank := by
  cases h with
  | muted index pitch =>
    obtain ⟨uncut, unmuted⟩ := List.append_eq_nil_iff.1 nothing
    cases closes with
    | false => cases unmuted
    | true => exact Bank.set_of_uncut uncut
  | sounded => cases (List.append_eq_nil_iff.1 nothing).2
  | strayedOut => cases (List.append_eq_nil_iff.1 nothing).2

theorem Strikes.still (h : Strikes config tuning tick stray closes bank es bank')
    (nothing : es = []) : bank' = bank := by
  induction h with
  | nil => rfl
  | cons first _ ih =>
    obtain ⟨nothing, nothing'⟩ := List.append_eq_nil_iff.1 nothing
    rw [ih nothing', first.still nothing]

namespace BrokenOff

/-- Strikes that break off may come after others. -/
theorem after (h : Strikes config tuning tick stray closes bank es bank')
    (h' : BrokenOff config tuning tick stray closes bank' es' bank'') :
    BrokenOff config tuning tick stray closes bank (es ++ es') bank'' := by
  cases h' with
  | between done => exact .between (h.trans done)
  | within index done =>
    rw [← List.append_assoc]
    exact .within index (h.trans done)

theorem length_eq (h : BrokenOff config tuning tick stray closes bank es bank') :
    bank'.length = bank.length := by
  cases h with
  | between done => exact done.length_eq
  | within index done => exact done.length_eq

theorem still (h : BrokenOff config tuning tick stray closes bank es bank')
    (nothing : es = []) : bank' = bank := by
  cases h with
  | between done => exact done.still nothing
  | within index done => exact done.still (List.append_eq_nil_iff.1 nothing).1

end BrokenOff

end Chains

/-! ## §2. How voices grow. -/

/-- What notes may move of the dynamics: the volume, and the ramp that is in progress. -/
structure Loudness where
  volume : Datum
  ramp : Option (VolumeRamp Datum)

namespace Dynamics

def loudness (d : Dynamics Datum) : Loudness := ⟨d.volume, d.ramp⟩

def withLoudness (d : Dynamics Datum) (loudness : Loudness) : Dynamics Datum :=
  { d with volume := loudness.volume, ramp := loudness.ramp }

theorem withLoudness_self (d : Dynamics Datum) : d.withLoudness d.loudness = d := rfl

theorem withLoudness_withLoudness (d : Dynamics Datum) (l l' : Loudness) :
    (d.withLoudness l).withLoudness l' = d.withLoudness l' := rfl

/-- Asking for the volume moves no tempo. -/
theorem volumeAt_withLoudness (d : Dynamics Datum) (tick : Datum) :
    Yields (d.volumeAt tick) fun answer => ∃ l, answer.2 = d.withLoudness l := by
  unfold volumeAt
  split
  · exact .pure ⟨d.loudness, rfl⟩
  · next ramp _ =>
    refine .bind fun ended _ => ?_
    split
    · exact .pure ⟨⟨ramp.endValue, none⟩, rfl⟩
    · refine .bind fun begun _ => ?_
      split
      · exact .bind fun now _ => .pure ⟨⟨now, d.ramp⟩, rfl⟩
      · exact .pure ⟨d.loudness, rfl⟩

end Dynamics

namespace Voice

/-- A voice with other loudness, other strings that sound, and more events. -/
def extended (v : Voice) (d : Loudness) (bank : Bank) (es : List Event) : Voice :=
  { v with
    dynamics := v.dynamics.withLoudness d, sounding := bank, events := v.events ++ es.toArray }

theorem extended_nil (v : Voice) : v.extended v.dynamics.loudness v.sounding [] = v := by
  unfold extended
  rw [Array.append_empty, Dynamics.withLoudness_self]

theorem extended_extended (v : Voice) (d d' : Loudness) (bank bank' : Bank)
    (es es' : List Event) :
    (v.extended d bank es).extended d' bank' es' = v.extended d' bank' (es ++ es') := by
  unfold extended
  simp only [Array.append_assoc, List.append_toArray, Dynamics.withLoudness_withLoudness]

theorem extended_push (v : Voice) (e : Event) :
    { v with events := v.events.push e } = v.extended v.dynamics.loudness v.sounding [e] := by
  unfold extended
  rw [Array.push_eq_append]
  rfl

/-- How a voice reads tabs depends on its settings alone. -/
theorem tabStyle_congr {v w : Voice} (config : w.config = v.config) :
    w.tabStyle = v.tabStyle := by
  unfold tabStyle
  rw [config]

/-- A voice that has been played on: it keeps what it is, and all of its events. -/
structure Grown (v w : Voice) : Prop where
  config : w.config = v.config
  tuning : w.tuning = v.tuning
  measure : w.measure = v.measure
  tempoChanges : w.dynamics.tempoChanges = v.dynamics.tempoChanges
  auxiliary : w.auxiliary = v.auxiliary
  finished : w.finished = v.finished
  strings : w.sounding.length = v.sounding.length
  /-- What sounds changes only together with the events. -/
  still : w.events = v.events → w.sounding = v.sounding
  events : ∃ es, w.events = v.events ++ es

namespace Grown

theorem refl (v : Voice) : v.Grown v :=
  ⟨rfl, rfl, rfl, rfl, rfl, rfl, rfl, fun _ => rfl, #[], Array.append_empty.symm⟩

/-- Without new events nothing was recorded on the way. -/
theorem unrecorded {v w x : Voice} (h : v.Grown w) (h' : w.Grown x) (same : x.events = v.events) :
    x.events = w.events ∧ w.events = v.events := by
  obtain ⟨es, more⟩ := h.events
  obtain ⟨es', more'⟩ := h'.events
  rw [more', more, Array.append_assoc, Array.append_right_eq_self,
    Array.append_eq_empty_iff] at same
  obtain ⟨rfl, rfl⟩ := same
  rw [Array.append_empty] at more more'
  exact ⟨more', more⟩

theorem trans {v w x : Voice} (h : v.Grown w) (h' : w.Grown x) : v.Grown x := by
  obtain ⟨es, more⟩ := h.events
  obtain ⟨es', more'⟩ := h'.events
  refine ⟨h'.config.trans h.config, h'.tuning.trans h.tuning, h'.measure.trans h.measure,
    h'.tempoChanges.trans h.tempoChanges, h'.auxiliary.trans h.auxiliary,
    h'.finished.trans h.finished, h'.strings.trans h.strings, ?_, es ++ es', ?_⟩
  · intro same
    obtain ⟨same', same⟩ := h.unrecorded h' same
    exact (h'.still same').trans (h.still same)
  · rw [more', more, Array.append_assoc]

/-- Playing does not finish a voice. -/
theorem isOpen {v w : Voice} (h : v.Grown w) (isOpen : v.finished = false) :
    w.finished = false :=
  h.finished.trans isOpen

end Grown

theorem grown_extended (v : Voice) (d : Loudness) {bank : Bank} (es : List Event)
    (strings : bank.length = v.sounding.length) (still : es = [] → bank = v.sounding) :
    v.Grown (v.extended d bank es) := by
  refine ⟨rfl, rfl, rfl, rfl, rfl, rfl, strings, ?_, es.toArray, rfl⟩
  intro same
  refine still ?_
  change v.events ++ es.toArray = v.events at same
  rw [Array.append_right_eq_self] at same
  exact congrArg Array.toList same

theorem grown_strikes (v : Voice) (d : Loudness) {bank : Bank} {es : List Event} {tick : Int}
    {stray : Binary64} {closes : Bool} {config : Config} {tuning : Tuning}
    (strikes : Strikes config tuning tick stray closes v.sounding es bank) :
    v.Grown (v.extended d bank es) :=
  v.grown_extended d es strikes.length_eq strikes.still

theorem grown_brokenOff (v : Voice) (d : Loudness) {bank : Bank} {es : List Event} {tick : Int}
    {stray : Binary64} {closes : Bool} {config : Config} {tuning : Tuning}
    (strikes : BrokenOff config tuning tick stray closes v.sounding es bank) :
    v.Grown (v.extended d bank es) :=
  v.grown_extended d es strikes.length_eq strikes.still

end Voice

/-- A player whose voice has been extended. -/
def Player.extended {γ : Type} (p : Player γ) (d : Loudness) (bank : Bank)
    (es : List Event) : Player γ :=
  { p with voice := p.voice.extended d bank es }

theorem Player.extended_nil {γ : Type} (p : Player γ) :
    p.extended p.voice.dynamics.loudness p.voice.sounding [] = p := by
  unfold extended
  rw [Voice.extended_nil]

theorem Player.extended_extended {γ : Type} (p : Player γ) (d d' : Loudness)
    (bank bank' : Bank) (es es' : List Event) :
    (p.extended d bank es).extended d' bank' es' = p.extended d' bank' (es ++ es') := by
  unfold extended
  rw [Voice.extended_extended]

/-! ## §3. Rules for the acts of a player. -/

namespace Play

variable {γ α : Type} {p : Player γ} {good : α → Player γ → Prop} {bad : Fault → Player γ → Prop}

@[simp] theorem ensures_voice_bind (next : Voice → Play γ α) :
    (voice >>= next).Ensures p good bad ↔ (next p.voice).Ensures p good bad :=
  Act.ensures_state_bind fun q => next q.voice

@[simp] theorem ensures_changeVoice (f : Voice → Voice) {good : Unit → Player γ → Prop} :
    (changeVoice f).Ensures p good bad ↔ good () { p with voice := f p.voice } :=
  Act.ensures_update _

@[simp] theorem ensures_changeVoice_bind (f : Voice → Voice) (next : Unit → Play γ α) :
    (changeVoice f >>= next).Ensures p good bad ↔
      (next ()).Ensures { p with voice := f p.voice } good bad :=
  Act.ensures_update_bind _ _

/-- An open voice passes, and a finished one is refused. -/
theorem ensures_requireOpen_bind (next : Unit → Play γ α) :
    (requireOpen >>= next).Ensures p good bad ↔
      if p.voice.finished then bad (.alreadyFinished p.voice.name) p
      else (next ()).Ensures p good bad := by
  unfold requireOpen voice
  cases open_ : p.voice.finished with
  | true => simp [open_]
  | false => simp [open_]

theorem ensures_open_bind (isOpen : p.voice.finished = false) (next : Unit → Play γ α) :
    (requireOpen >>= next).Ensures p good bad ↔ (next ()).Ensures p good bad := by
  rw [ensures_requireOpen_bind, isOpen]
  exact Iff.rfl

/-! ## §4. Notes. -/

/-- How a note fails: as a number does, and before it is recorded, though the volume may
have moved on. -/
def Halts (p : Player γ) (f : Fault) (q : Player γ) : Prop :=
  f.Technical ∧ ∃ d, q = p.extended d p.voice.sounding []

theorem Halts.unchanged {f : Fault} (h : f.Technical) : Halts p f p :=
  ⟨h, _, (Player.extended_nil p).symm⟩

/-- Asking for the volume changes at most the dynamics. -/
theorem ensures_loudnessAt (p : Player γ) (tick : Datum) :
    (onDynamics (Dynamics.loudnessAt tick)).Ensures p
      (fun _ q => ∃ d, q = p.extended d p.voice.sounding [])
      (Halts p) := by
  unfold onDynamics Dynamics.loudnessAt
  rw [Act.ensures_onPart, Act.ensures_state_bind, Act.ensures_lift_bind]
  constructor
  · rintro ⟨volume, d⟩ asked
    obtain ⟨l, rfl⟩ := Dynamics.volumeAt_withLoudness _ _ _ asked
    rw [Act.ensures_update_bind, Act.ensures_pure]
    refine ⟨l, ?_⟩
    unfold Player.extended Voice.extended
    rw [Array.append_empty]
  · intro f failed
    exact .unchanged (Dynamics.technical_volumeAt _ _ f failed)

theorem ensures_record (tick : Datum) (what : Happening) {good : Unit → Player γ → Prop} :
    (record tick what).Ensures p good bad ↔
      good () (p.extended p.voice.dynamics.loudness p.voice.sounding [⟨tick, what⟩]) := by
  unfold record
  rw [ensures_changeVoice]
  unfold Player.extended
  rw [← Voice.extended_push]

/-- A note without force is the end of a note, and cannot fail. -/
theorem ensures_note_stop (isOpen : p.voice.finished = false) (tick pitch : Datum)
    {force : Quantity} (silent : force.le (.whole 0) = true) :
    (note tick pitch (.number force)).Ensures p
      (fun _ q => q = p.extended p.voice.dynamics.loudness p.voice.sounding
        [⟨tick, .noteOff p.voice.channel pitch (.whole 0)⟩])
      (fun _ _ => False) := by
  unfold note
  rw [ensures_open_bind isOpen, ensures_voice_bind, Datum.asNumber_number, Act.ensures_lift_bind]
  refine ⟨?_, fun f failed => by cases failed⟩
  rintro _ ⟨rfl⟩
  rw [silent, if_pos rfl, ensures_record]

theorem clampVelocity_bounds (n : Int) : 1 ≤ clampVelocity n ∧ clampVelocity n ≤ 127 := by
  unfold clampVelocity minVelocity maxVelocity
  omega

theorem scaledVelocity_bounds {force volume : Quantity} {velocity : Int}
    (h : scaledVelocity force volume = .ok velocity) : 1 ≤ velocity ∧ velocity ≤ 127 := by
  unfold scaledVelocity at h
  cases product : force.mul volume with
  | error f => rw [product] at h; cases h
  | ok loud =>
    rw [product] at h
    change (do let n ← loud.nearest; pure (clampVelocity n)) = Except.ok velocity at h
    cases whole : loud.nearest with
    | error f => rw [whole] at h; cases h
    | ok n =>
      rw [whole] at h
      cases h
      exact clampVelocity_bounds n

/-- A note with force is the start of a note. -/
theorem ensures_note_start (isOpen : p.voice.finished = false) (tick pitch : Datum)
    {force : Quantity} (loud : force.le (.whole 0) = false) :
    (note tick pitch (.number force)).Ensures p
      (fun _ q => ∃ d velocity, 1 ≤ velocity ∧ velocity ≤ 127 ∧
        q = p.extended d p.voice.sounding
          [⟨tick, .noteOn p.voice.channel pitch (.whole velocity)⟩])
      (Halts p) := by
  unfold note
  rw [ensures_open_bind isOpen, ensures_voice_bind, Datum.asNumber_number, Act.ensures_lift_bind]
  refine ⟨?_, fun f failed => by cases failed⟩
  rintro _ ⟨rfl⟩
  rw [loud, if_neg Bool.false_ne_true]
  refine (ensures_loudnessAt p tick).bind ?_
  rintro volume _ ⟨d, rfl⟩
  rw [Act.ensures_lift_bind]
  refine ⟨?_, fun f failed => ⟨Datum.technical_asNumber _ f failed, d, rfl⟩⟩
  intro factor _
  rw [Act.ensures_lift_bind]
  refine ⟨?_, fun f failed => ⟨technical_scaledVelocity _ _ f failed, d, rfl⟩⟩
  intro velocity scaled
  obtain ⟨low, high⟩ := scaledVelocity_bounds scaled
  rw [ensures_record]
  refine ⟨d, velocity, low, high, ?_⟩
  rw [Player.extended_extended]
  rfl

/-! ## §5. Strikes. -/

theorem silent_zero : (Quantity.whole 0).le (.whole 0) = true := by
  rw [Quantity.le_whole]
  rfl

/-- The cut of a string cannot fail. -/
theorem ensures_cut (isOpen : p.voice.finished = false) (tick : Int) (index : Nat) :
    (cut tick index).Ensures p
      (fun _ q => q = p.extended p.voice.dynamics.loudness p.voice.sounding
        (Bank.cut p.voice.sounding p.voice.config.channelDatum tick index))
      (fun _ _ => False) := by
  unfold cut Bank.cut
  rw [ensures_voice_bind]
  cases p.voice.sounding[index]? with
  | none => rw [Act.ensures_pure, Player.extended_nil]
  | some sounds =>
    cases sounds with
    | none => rw [Act.ensures_pure, Player.extended_nil]
    | some old => exact ensures_note_stop isOpen _ _ silent_zero

/-- Muting cannot fail either. -/
theorem ensures_mute (isOpen : p.voice.finished = false) (tick : Int) (index : Nat)
    (pitch : Quantity) (closes : Bool) :
    (mute tick index pitch closes).Ensures p
      (fun _ q => q = p.extended p.voice.dynamics.loudness (p.voice.sounding.set index none)
        (if closes then [] else [.stop p.voice.config.channelDatum tick pitch]))
      (fun _ _ => False) := by
  unfold mute setSounding
  cases closes with
  | true =>
    simp only [Bool.not_true, Bool.false_eq_true, if_false, if_true]
    rw [ensures_changeVoice]
    unfold Player.extended Voice.extended
    rw [Array.append_empty]
    rfl
  | false =>
    simp only [Bool.not_false, if_true, Bool.false_eq_true, if_false]
    refine (ensures_note_stop isOpen _ _ silent_zero).bind_eq fun _ => ?_
    rw [ensures_changeVoice]
    rfl

/-- A string that is struck sounds, unless the velocity has strayed down to silence. -/
theorem ensures_sound (isOpen : p.voice.finished = false) (tick : Int) {index : Nat}
    (inRange : index < p.voice.stringCount) (pitch : Quantity) {velocity : Int}
    (positive : 0 < velocity) (stray : Binary64) (closes : Bool) :
    (sound tick index pitch velocity stray).Ensures p
      (fun _ q => ∃ d e,
        Struck p.voice.config p.voice.tuning tick stray closes p.voice.sounding
          (Bank.cutIf p.voice.sounding closes p.voice.config.channelDatum tick index ++ [e])
          (p.voice.sounding.set index (some pitch)) ∧
        q = p.extended d (p.voice.sounding.set index (some pitch)) [e])
      (Halts p) := by
  unfold sound
  rw [ensures_voice_bind, Act.ensures_lift_bind]
  constructor
  · intro force strays
    cases silent : force.le (.whole 0) with
    | true =>
      refine (ensures_note_stop isOpen _ _ silent).bind_eq fun _ => ?_
      unfold setSounding
      rw [ensures_changeVoice]
      exact ⟨_, _, .strayedOut _ index pitch velocity force positive strays silent, rfl⟩
    | false =>
      refine (ensures_note_start isOpen _ _ silent).bind ?_
      rintro _ _ ⟨d, loud, low, high, rfl⟩
      unfold setSounding
      rw [ensures_changeVoice]
      exact ⟨d, _, .sounded _ index pitch loud inRange low high, rfl⟩
  · intro f failed
    exact .unchanged (technical_strayed _ _ _ f failed)

/-- What follows the cut completes the strike. -/
theorem ensures_muteOrSound (isOpen : p.voice.finished = false) (tick : Int) {index : Nat}
    (inRange : index < p.voice.stringCount) (pitch : Quantity) (velocity : Int)
    (stray : Binary64) (closes : Bool) :
    (muteOrSound tick index pitch velocity stray closes).Ensures p
      (fun _ q => ∃ d es bank,
        Struck p.voice.config p.voice.tuning tick stray closes p.voice.sounding
          (Bank.cutIf p.voice.sounding closes p.voice.config.channelDatum tick index ++ es) bank ∧
        q = p.extended d bank es)
      (Halts p) := by
  unfold muteOrSound
  split
  · refine (ensures_mute isOpen tick index pitch closes).mono ?_ fun _ _ h => h.elim
    rintro _ _ rfl
    exact ⟨_, _, _, .muted _ index pitch, rfl⟩
  · have positive : 0 < velocity := by omega
    refine (ensures_sound isOpen tick inRange pitch positive stray closes).mono ?_
      fun _ _ h => h
    rintro _ _ ⟨d, e, struck, rfl⟩
    exact ⟨d, [e], _, struck, rfl⟩

/-- How an act ends that only plays at one tick: with strikes, or with strikes that break
off as a number does. -/
def Plays (act : Play γ Unit) (p : Player γ) (tick : Int) (stray : Binary64) (closes : Bool) :
    Prop :=
  act.Ensures p
    (fun _ q => ∃ d es bank,
      Strikes p.voice.config p.voice.tuning tick stray closes p.voice.sounding es bank ∧
      q = p.extended d bank es)
    (fun f q => f.Technical ∧ ∃ d es bank,
      BrokenOff p.voice.config p.voice.tuning tick stray closes p.voice.sounding es bank ∧
      q = p.extended d bank es)

/-- A strike is a strike of the relation. -/
theorem plays_strike (isOpen : p.voice.finished = false) (tick : Int) {index : Nat}
    (inRange : index < p.voice.stringCount) (pitch : Quantity) (velocity : Int)
    (stray : Binary64) (closes : Bool) :
    Plays (strike tick index pitch velocity stray closes) p tick stray closes := by
  unfold Plays strike
  cases closes with
  | false =>
    show (muteOrSound tick index pitch velocity stray false).Ensures p _ _
    refine (ensures_muteOrSound isOpen tick inRange pitch velocity stray false).mono ?_ ?_
    · rintro _ _ ⟨d, es, bank, struck, rfl⟩
      exact ⟨d, es, bank, .single struck, rfl⟩
    · rintro f _ ⟨technical, d, rfl⟩
      exact ⟨technical, d, [], _, .between (.nil _), rfl⟩
  | true =>
    show (cut tick index >>= fun _ => muteOrSound tick index pitch velocity stray true).Ensures p
      _ _
    refine (ensures_cut isOpen tick index).bind_eq fun _ => ?_
    let q := p.extended p.voice.dynamics.loudness p.voice.sounding
      (Bank.cut p.voice.sounding p.voice.config.channelDatum tick index)
    have isOpen' : q.voice.finished = false := isOpen
    refine (ensures_muteOrSound isOpen' tick inRange pitch velocity stray true).mono ?_ ?_
    · rintro _ _ ⟨d, es, bank, struck, rfl⟩
      exact ⟨d, _, bank, .single struck, Player.extended_extended ..⟩
    · rintro f _ ⟨technical, d, rfl⟩
      refine ⟨technical, d, _, _, .within index (.nil _), ?_⟩
      refine (Player.extended_extended ..).trans ?_
      rw [List.append_nil]
      rfl

/-! ## §6. All strikes of one moment. -/

section Moments

variable {tick : Int} {stray : Binary64} {closes : Bool}

theorem Plays.none (act : Play γ Unit) (nothing : act = pure ()) :
    Plays act p tick stray closes := by
  unfold Plays
  rw [nothing, Act.ensures_pure]
  exact ⟨_, [], _, .nil _, (Player.extended_nil p).symm⟩

/-- Before a strike, an act may fail without a mistake in the music. -/
theorem Plays.throw {f : Fault} (technical : f.Technical) :
    Plays (throw f : Play γ Unit) p tick stray closes := by
  unfold Plays
  rw [Act.ensures_throw]
  exact ⟨technical, _, [], _, .between (.nil _), (Player.extended_nil p).symm⟩

/-- Strikes go on where the strikes before them have ended. -/
theorem Plays.bind {first : Play γ Unit} {next : Unit → Play γ Unit}
    (isOpen : p.voice.finished = false) (h : Plays first p tick stray closes)
    (h' : ∀ q, q.voice.finished = false → q.voice.config = p.voice.config →
      Plays (next ()) q tick stray closes) :
    Plays (first >>= next) p tick stray closes := by
  refine Act.Ensures.bind h ?_
  rintro _ _ ⟨d, es, bank, strikes, rfl⟩
  refine (h' (p.extended d bank es) isOpen rfl).mono ?_ ?_
  · rintro _ _ ⟨d', es', bank', strikes', rfl⟩
    exact ⟨d', es ++ es', bank', strikes.trans strikes', Player.extended_extended ..⟩
  · rintro f _ ⟨technical, d', es', bank', broken, rfl⟩
    exact ⟨technical, d', es ++ es', bank', broken.after strikes, Player.extended_extended ..⟩

/-- A computation comes before a strike; it fails as a number does. -/
theorem Plays.lift_bind {result : Except Fault α} {next : α → Play γ Unit}
    (technical : Technical result) (h : ∀ a, Plays (next a) p tick stray closes) :
    Plays (liftM result >>= next) p tick stray closes := by
  unfold Plays
  rw [Act.ensures_lift_bind]
  refine ⟨fun a _ => h a, fun f failed => ⟨technical f failed, ?_⟩⟩
  exact ⟨_, [], _, .between (.nil _), (Player.extended_nil p).symm⟩

theorem plays_voice_bind {next : Voice → Play γ Unit} :
    Plays (voice >>= next) p tick stray closes ↔ Plays (next p.voice) p tick stray closes :=
  ensures_voice_bind next

/-- A stroke of a pattern strikes one string, or none. -/
theorem plays_stroke (isOpen : p.voice.finished = false) (frets : List (Option Int)) (s : Stroke) :
    Plays (stroke tick stray frets s) p tick stray true := by
  unfold stroke
  rw [plays_voice_bind]
  split
  · split
    · exact .throw rfl
    · exact .none _ rfl
  · next index _ =>
    split
    · next fret root _ rooted =>
      have inRange : index < p.voice.stringCount := (List.getElem?_eq_some_iff.1 rooted).1
      refine .lift_bind (Quantity.technical_add _ _) fun pitch => ?_
      exact plays_strike isOpen tick inRange pitch s.velocity stray true
    · exact .none _ rfl

theorem plays_strokes (isOpen : p.voice.finished = false) (frets : List (Option Int))
    (strokes : List Stroke) :
    Plays (strokes.forM (stroke tick stray frets)) p tick stray true := by
  induction strokes generalizing p with
  | nil => exact .none _ rfl
  | cons s strokes ih =>
    show Plays (stroke tick stray frets s >>= fun _ => strokes.forM (stroke tick stray frets)) p
      tick stray true
    exact (plays_stroke isOpen frets s).bind isOpen fun q isOpen' _ => ih isOpen'

/-- A cell of a tab strikes the string of its line, or does nothing. -/
theorem plays_cell (isOpen : p.voice.finished = false) (line : Nat) (l : Letter) :
    Plays (cell tick stray line l) p tick stray p.voice.tabStyle.closesSounding := by
  unfold cell
  split
  · exact .none _ rfl
  · rw [plays_voice_bind]
    dsimp only
    split
    · exact .none _ rfl
    · next root rooted =>
      have inRange : p.voice.stringCount - line - 1 < p.voice.stringCount :=
        (List.getElem?_eq_some_iff.1 rooted).1
      refine .lift_bind (Tab.technical_cellDigit l) fun digit => ?_
      refine .lift_bind (TabStyle.technical_strike _ _ _) fun struck => ?_
      exact plays_strike isOpen tick inRange struck.1 struck.2 stray _

theorem plays_cells (isOpen : p.voice.finished = false) (line : Nat) (column : Text) :
    Plays (cells tick stray line column) p tick stray p.voice.tabStyle.closesSounding := by
  induction column generalizing p line with
  | nil => exact .none _ rfl
  | cons l column ih =>
    unfold cells
    refine (plays_cell isOpen line l).bind isOpen fun q isOpen' config => ?_
    rw [← Voice.tabStyle_congr config]
    exact ih isOpen' (line + 1)

end Moments

end Play
end Plectrum
