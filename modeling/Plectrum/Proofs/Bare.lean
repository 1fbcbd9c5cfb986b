/-
  Plectrum.Proofs.Bare
  ────────────────────
  **Settings without expression.**

  Seed, spreads and volume shape how music sounds, and nothing else.  Options are read key by
  key, so what is left of the settings without these four is read from what is left of the
  options.

  Main results:
    * `Options.collect_bare` — collecting options does not mix expression with anything else;
    * `Config.ofOptions_bare` — options that differ in expression describe settings that differ
      in expression.
-/
import Mathlib.Logic.Basic
import Plectrum.Proofs.Settings

namespace Plectrum

/-! ## §1. Options without expression. -/

namespace Options

/-- The settings that shape expression and nothing else. -/
def expressive : List Text := ["seed", "rtime", "rvol", "volume"]

/-- Options without those of expression. -/
def bare (options : Options) : Options :=
  options.filter fun option => !expressive.contains option.1

variable {options collected : Options} {key : Text} {value : Datum}

theorem bare_cons (key : Text) (value : Datum) (options : Options) :
    bare ((key, value) :: options) =
      if key ∉ expressive then (key, value) :: bare options else bare options := by
  unfold bare
  rw [List.filter_cons]
  simp only [Bool.not_eq_true', List.contains_eq_mem, decide_eq_false_iff_not]

theorem bare_append (options more : Options) :
    bare (options ++ more) = bare options ++ bare more := List.filter_append ..

/-- Other settings are found as before. -/
theorem get?_bare (other : key ∉ expressive) : options.bare.get? key = options.get? key := by
  induction options with
  | nil => rfl
  | cons option options ih =>
    obtain ⟨k, v⟩ := option
    show List.lookup key (bare ((k, v) :: options)) = List.lookup key ((k, v) :: options)
    rw [bare_cons, List.lookup_cons]
    split
    · rw [List.lookup_cons]
      split
      · rfl
      · exact ih
    · next expressed =>
      have apart : ¬ (key == k) = true := by
        intro same
        rw [eq_of_beq same] at other
        exact expressed other
      rw [Bool.not_eq_true] at apart
      rw [apart]
      exact ih

theorem has_bare (other : key ∉ expressive) : options.bare.has key = options.has key :=
  congrArg Option.isSome (get?_bare other)

/-- Setting something else does not touch expression. -/
theorem bare_set (other : key ∉ expressive) (value : Datum) :
    (options.set key value).bare = options.bare.set key value := by
  induction options with
  | nil =>
    show bare [(key, value)] = [(key, value)]
    rw [bare_cons, if_pos other]
    rfl
  | cons option options ih =>
    obtain ⟨k, v⟩ := option
    show bare (if k == key then (k, value) :: options else (k, v) :: set options key value) = _
    split
    · next same =>
      rw [beq_iff_eq] at same
      subst same
      rw [bare_cons, bare_cons, if_pos other, if_pos other]
      exact (if_pos (beq_self_eq_true k)).symm
    · next apart =>
      rw [bare_cons, bare_cons, ih]
      split
      · exact (if_neg apart).symm
      · rfl

theorem bare_setDefault (other : key ∉ expressive) (value : Datum) :
    (options.setDefault key value).bare = options.bare.setDefault key value := by
  unfold setDefault
  rw [has_bare other]
  split
  · rfl
  · rw [bare_append, bare_cons, if_pos other]
    rfl

/-- No other spelling is one of a setting of expression, and these have no other spellings. -/
theorem settingOf_expressive (key : Text) :
    settingOf key ∈ expressive ↔ key ∈ expressive := by
  unfold settingOf
  cases spelled : aliases.lookup key with
  | none => exact Iff.rfl
  | some setting =>
    obtain ⟨before, after, place, -⟩ := List.lookup_eq_some_iff.1 spelled
    have here : (key, setting) ∈ aliases := by
      rw [place]
      exact List.mem_append_right _ List.mem_cons_self
    have apart : ∀ spelling ∈ aliases, spelling.2 ∉ expressive ∧ spelling.1 ∉ expressive := by
      decide
    exact iff_of_false (apart _ here).1 (apart _ here).2

theorem collect_cons (collected : Options) (key : Text) (value : Datum) (rest : Options) :
    collect collected ((key, value) :: rest) =
      if settingOf key ∉ settings then .error (.unknownOption key)
      else if collected.has (settingOf key) then .error (.repeatedOption key (settingOf key))
      else collect (collected ++ [(settingOf key, value)]) rest := rfl

/-- Options without expression are collected without expression. -/
theorem collect_bare :
    Yields (collect collected options) fun all => collect collected.bare options.bare = .ok all.bare
    := by
  induction options generalizing collected with
  | nil => exact .pure rfl
  | cons option options ih =>
    obtain ⟨key, value⟩ := option
    rw [collect_cons]
    refine .ite_error fun known => .ite_error fun fresh => ?_
    intro all gathered
    have rest := ih all gathered
    rw [bare_append, bare_cons] at rest
    rw [bare_cons]
    by_cases expressed : key ∈ expressive
    · rw [if_neg (not_not.2 ((settingOf_expressive key).2 expressed))] at rest
      rw [if_neg (not_not.2 expressed)]
      rwa [show bare ([] : Options) = [] from rfl, List.append_nil] at rest
    · have other := mt (settingOf_expressive key).1 expressed
      rw [if_pos other] at rest
      rw [if_pos expressed, collect_cons, if_neg known, has_bare other, if_neg fresh]
      exact rest

end Options

/-! ## §2. Settings without expression. -/

namespace Config

/-- Settings without expression: these fields are what they are if nothing is asked for. -/
def bare (c : Config) : Config :=
  { c with
    volume := .float (.ofInt 1)
    timeSpread := .whole 0
    volumeSpread := .whole 0
    seed := .null }

/-- Where the settings that do not shape expression are read from. -/
structure ReadFrom (settings : Options) (c : Config) : Prop where
  percussion : c.percussion = percussionOf settings
  name : c.name = (given? settings "name").getD
    (if !(percussionOf settings).isNothing then .text "Percussion" else .text "Guitar")
  instrument : c.instrument = (given? settings "instrument").getD
    (if !(percussionOf settings).isNothing then defaultKit else defaultProgram)
  strings : c.strings = (given? settings "strings").getD
    (if !(percussionOf settings).isNothing then defaultDrums else defaultTuning)
  channel : ((given? settings "channel").getD (.number
    (if !(percussionOf settings).isNothing then percussionChannel else .whole 0))).asNumber =
      .ok c.channel
  signature : ((settingOr settings "signature" (.text defaultSignature)).asText >>=
    Signature.read) = .ok c.signature
  bpm : numberOr settings "bpm" (.whole defaultBpm) = .ok c.bpm
  lead : (given? settings "lead").mapM Datum.asNumber = .ok c.lead
  ticks : numberOr settings "ticks" (.whole defaultTicks) = .ok c.ticks
  metronome : c.metronome = settingOr settings "metronome" (.truth true)
  midi : c.midi = settingOr settings "midi" .null
  attribution : c.attribution = settingOr settings "attribution" (.truth true)

theorem ofSettings_readFrom (settings : Options) :
    Yields (ofSettings settings) (ReadFrom settings) := by
  unfold ofSettings
  refine .bind fun text textHere => .bind fun signature signatureHere => ?_
  refine .bind fun bpm bpmHere => .check fun _ => ?_
  refine .bind fun channel channelHere => .check fun _ => ?_
  refine .bind fun volume _ => .check fun _ => ?_
  refine .bind fun timeSpread _ => .check fun _ => ?_
  refine .bind fun volumeSpread _ => .check fun _ => ?_
  refine .bind fun lead leadHere => ?_
  have signed : ((settingOr settings "signature" (.text defaultSignature)).asText >>=
      Signature.read) = .ok signature := by
    rw [textHere]
    exact signatureHere
  cases lead with
  | none =>
    refine .bind fun ticks ticksHere => .check fun _ => .pure ?_
    exact ⟨rfl, rfl, rfl, rfl, channelHere, signed, bpmHere, leadHere, ticksHere, rfl, rfl, rfl⟩
  | some beats =>
    refine .check fun _ => .bind fun ticks ticksHere => .check fun _ => .pure ?_
    exact ⟨rfl, rfl, rfl, rfl, channelHere, signed, bpmHere, leadHere, ticksHere, rfl, rfl, rfl⟩

/-- Settings that are read from the same options, but for those of expression, are the same but
for those of expression. -/
theorem ReadFrom.bare_eq {settings settings' : Options} {c c' : Config}
    (h : c.ReadFrom settings) (h' : c'.ReadFrom settings') (same : settings.bare = settings'.bare) :
    c.bare = c'.bare := by
  have get : ∀ key ∉ Options.expressive, settings.get? key = settings'.get? key := by
    intro key other
    rw [← Options.get?_bare other, same, Options.get?_bare other]
  have given : ∀ key ∉ Options.expressive, given? settings key = given? settings' key := by
    intro key other
    unfold given?
    rw [get key other]
  have settingOr : ∀ key ∉ Options.expressive, ∀ default,
      settingOr settings key default = settingOr settings' key default := by
    intro key other default
    unfold Config.settingOr
    rw [get key other]
  have drums : percussionOf settings = percussionOf settings' := by
    unfold percussionOf
    rw [settingOr "channel" (by decide), settingOr "percussion" (by decide)]
  have name : c.name = c'.name := by
    rw [h.name, drums, given "name" (by decide), ← h'.name]
  have signature : c.signature = c'.signature := by
    refine Except.ok.inj (h.signature.symm.trans ?_)
    rw [settingOr "signature" (by decide), h'.signature]
  have bpm : c.bpm = c'.bpm := by
    refine Except.ok.inj (h.bpm.symm.trans (Eq.trans ?_ h'.bpm))
    exact congrArg Datum.asNumber (settingOr "bpm" (by decide) _)
  have instrument : c.instrument = c'.instrument := by
    rw [h.instrument, drums, given "instrument" (by decide), ← h'.instrument]
  have strings : c.strings = c'.strings := by
    rw [h.strings, drums, given "strings" (by decide), ← h'.strings]
  have lead : c.lead = c'.lead := by
    refine Except.ok.inj (h.lead.symm.trans ?_)
    rw [given "lead" (by decide), h'.lead]
  have channel : c.channel = c'.channel := by
    refine Except.ok.inj (h.channel.symm.trans ?_)
    rw [drums, given "channel" (by decide), h'.channel]
  have ticks : c.ticks = c'.ticks := by
    refine Except.ok.inj (h.ticks.symm.trans (Eq.trans ?_ h'.ticks))
    exact congrArg Datum.asNumber (settingOr "ticks" (by decide) _)
  have metronome : c.metronome = c'.metronome :=
    h.metronome.trans ((settingOr "metronome" (by decide) _).trans h'.metronome.symm)
  have midi : c.midi = c'.midi :=
    h.midi.trans ((settingOr "midi" (by decide) _).trans h'.midi.symm)
  have attribution : c.attribution = c'.attribution :=
    h.attribution.trans ((settingOr "attribution" (by decide) _).trans h'.attribution.symm)
  simp only [bare, Config.mk.injEq, true_and]
  exact ⟨name, signature, bpm, instrument, strings, lead, metronome, midi, channel,
    h.percussion.trans (drums.trans h'.percussion.symm), ticks, attribution⟩

/-- Options that differ in expression describe settings that differ in expression. -/
theorem ofOptions_bare {options options' : Options} {c c' : Config}
    (accepted : ofOptions options = .ok c) (accepted' : ofOptions options' = .ok c')
    (same : options.bare = options'.bare) : c.bare = c'.bare := by
  obtain ⟨settings, collected, read⟩ := bind_ok accepted
  obtain ⟨settings', collected', read'⟩ := bind_ok accepted'
  refine (ofSettings_readFrom settings c read).bare_eq (ofSettings_readFrom settings' c' read') ?_
  have gathered := Options.collect_bare settings collected
  have gathered' := Options.collect_bare settings' collected'
  rw [same] at gathered
  exact Except.ok.inj (gathered.symm.trans gathered')

end Config

end Plectrum
