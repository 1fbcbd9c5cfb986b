/-
  Plectrum.Proofs.OptionOrder
  ───────────────────────────
  **Neither the spelling nor the order of options counts.**

  Options are collected under the names of their settings, and settings are looked up by name.
  So sound options, whose keys are known and spell each setting once, describe what the same
  values describe under the names of the settings, in any order; all others are refused by
  collecting them, before a value is looked at.

  An auxiliary is made of its options and of what it shares with its master.  What is shared is
  set under plain names, over options that do not spell the same setting in another way: either
  there is no other way, or options that do were refused.  So this step, too, depends on nothing
  but the settings that the options name.

  Main results:
    * `Options.collect_eq_ok`, `Options.collect_error` — sound options are collected under the names
      of their settings, and what is refused is a mistake of the configuration;
    * `Config.ofSettings_congr` — settings are looked up by name;
    * `Perform.settled_alike` — the settings of an auxiliary depend on what its options name;
    * `Options.spelling_and_order` — all of this about options and about joining.
-/
import Plectrum.Proofs.Channels

namespace Plectrum

/-! ## §1. Options under the names of their settings. -/

namespace Options

variable {options options' collected : Options} {key k : Text} {value : Datum}

/-- Options with the name of its setting in place of each key. -/
def named (options : Options) : Options :=
  options.map fun option => (settingOf option.1, option.2)

/-- Options with known keys, of which no two spell the same setting. -/
structure Sound (options : Options) : Prop where
  known : ∀ option ∈ options, option.1 ∈ settings ∨ option.1 ∈ aliases.map Prod.fst
  once : (options.map fun option => settingOf option.1).Nodup

theorem named_cons (k : Text) (v : Datum) (options : Options) :
    named ((k, v) :: options) = (settingOf k, v) :: options.named := rfl

/-- The settings that options name. -/
theorem keys_named (options : Options) :
    options.named.map Prod.fst = options.map fun option => settingOf option.1 :=
  List.map_map

/-- A key spells a setting as another spelling of it, or as its name. -/
theorem settingOf_cases (k : Text) :
    (k, settingOf k) ∈ aliases ∨ (settingOf k = k ∧ k ∉ aliases.map Prod.fst) := by
  unfold settingOf
  cases spelled : aliases.lookup k with
  | some setting =>
    obtain ⟨before, after, place, -⟩ := List.lookup_eq_some_iff.1 spelled
    refine .inl ?_
    rw [place]
    exact List.mem_append_right _ List.mem_cons_self
  | none =>
    refine .inr ⟨rfl, fun there => ?_⟩
    obtain ⟨spelling, inside, rfl⟩ := List.mem_map.1 there
    exact bne_iff_ne.1 (List.lookup_eq_none_iff.1 spelled spelling inside) rfl

/-- No setting is named as another spelling is. -/
theorem not_alias_of_name (name : key ∈ settings) : key ∉ aliases.map Prod.fst := by
  have all : ∀ key ∈ settings, key ∉ aliases.map Prod.fst := by decide
  exact all key name

theorem settingOf_eq_iff (name : key ∉ aliases.map Prod.fst) (k : Text) :
    settingOf k = key ↔ (k, key) ∈ aliases ∨ k = key := by
  constructor
  · rintro rfl
    exact (settingOf_cases k).imp_right fun plain => plain.1.symm
  · rintro (spelling | rfl)
    · have all : ∀ spelling ∈ aliases, settingOf spelling.1 = spelling.2 := by decide
      exact all _ spelling
    · exact (settingOf_cases k).elim
        (fun spelling => absurd (List.mem_map_of_mem (f := Prod.fst) spelling) name) And.left

/-- The known keys are those that spell a setting. -/
theorem settingOf_mem_settings_iff (k : Text) :
    settingOf k ∈ settings ↔ k ∈ settings ∨ k ∈ aliases.map Prod.fst := by
  have all : ∀ spelling ∈ aliases, spelling.2 ∈ settings := by decide
  rcases settingOf_cases k with spelling | ⟨same, apart⟩
  · exact iff_of_true (all _ spelling) (.inr (List.mem_map_of_mem (f := Prod.fst) spelling))
  · rw [same]
    exact ⟨.inl, fun known => known.resolve_right apart⟩

theorem has_iff (options : Options) (key : Text) :
    options.has key = true ↔ key ∈ options.map Prod.fst := by
  unfold has
  rw [← Bool.not_eq_false, Bool.not_eq_false, Option.isSome_iff_ne_none, ne_eq,
    List.lookup_eq_none_iff, not_forall]
  simp only [bne_iff_ne, not_forall, Decidable.not_not, List.mem_map]
  exact ⟨fun ⟨option, inside, same⟩ => ⟨option, inside, same.symm⟩,
    fun ⟨option, inside, same⟩ => ⟨option, inside, same.symm⟩⟩

/-- Known options that repeat no setting are collected under the names of their settings. -/
theorem collect_eq_ok (known : ∀ option ∈ options, settingOf option.1 ∈ settings)
    (once : (collected.map Prod.fst ++ options.named.map Prod.fst).Nodup) :
    collect collected options = .ok (collected ++ options.named) := by
  -- What has been collected grows along the options, so it is not fixed.
  induction options generalizing collected with
  | nil => exact congrArg Except.ok (List.append_nil _).symm
  | cons option options ih =>
    obtain ⟨k, v⟩ := option
    obtain ⟨here, rest⟩ := List.forall_mem_cons.1 known
    rw [named_cons, List.map_cons] at once
    have fresh : ¬ collected.has (settingOf k) = true := by
      rw [has_iff]
      exact fun before => (List.nodup_append.1 once).2.2 _ before _ List.mem_cons_self rfl
    have grown : collected ++ (settingOf k, v) :: named options =
        (collected ++ [(settingOf k, v)]) ++ named options := List.append_cons ..
    rw [collect_cons, if_neg (not_not.2 here), if_neg fresh, named_cons, grown]
    refine ih rest ?_
    rw [List.map_append, List.append_assoc]
    exact once

/-- What is collected was known and repeated no setting. -/
theorem collect_sound (apart : (collected.map Prod.fst).Nodup) :
    Yields (collect collected options) fun _ =>
      (∀ option ∈ options, settingOf option.1 ∈ settings) ∧
        (collected.map Prod.fst ++ options.named.map Prod.fst).Nodup := by
  induction options generalizing collected with
  | nil => exact .pure ⟨nofun, (List.append_nil (collected.map Prod.fst)).symm ▸ apart⟩
  | cons option options ih =>
    obtain ⟨k, v⟩ := option
    rw [collect_cons]
    refine .ite_error fun known => .ite_error fun fresh => ?_
    intro all gathered
    rw [has_iff] at fresh
    have grown : ((collected ++ [(settingOf k, v)]).map Prod.fst).Nodup := by
      rw [List.map_append]
      refine List.nodup_append.2 ⟨apart, List.nodup_singleton _, ?_⟩
      rintro setting before _ (_ | ⟨_, ⟨⟩⟩) rfl
      exact fresh before
    obtain ⟨rest, once⟩ := ih grown all gathered
    refine ⟨List.forall_mem_cons.2 ⟨not_not.1 known, rest⟩, ?_⟩
    rw [List.map_append, List.append_assoc] at once
    exact once

/-- Options are refused for what they are called. -/
theorem collect_error {f : Fault} (refused : collect collected options = .error f) :
    f.kind = .configuration := by
  induction options generalizing collected with
  | nil => cases refused
  | cons option options ih =>
    obtain ⟨k, v⟩ := option
    rw [collect_cons] at refused
    split at refused
    · cases refused
      rfl
    · split at refused
      · cases refused
        rfl
      · exact ih refused

namespace Sound

theorem spells (h : options.Sound) : ∀ option ∈ options, settingOf option.1 ∈ settings :=
  fun option inside => (settingOf_mem_settings_iff option.1).2 (h.known option inside)

theorem keys_nodup (h : options.Sound) : (options.named.map Prod.fst).Nodup :=
  (keys_named options).symm ▸ h.once

theorem canonical_eq (h : options.Sound) : canonical options = .ok options.named := by
  have once : (([] : Options).map Prod.fst ++ options.named.map Prod.fst).Nodup := h.keys_nodup
  exact collect_eq_ok h.spells once

/-- Options are sound by the settings that they name. -/
theorem iff_named :
    options.Sound ↔
      (∀ setting ∈ options.named.map Prod.fst, setting ∈ settings) ∧
        (options.named.map Prod.fst).Nodup := by
  rw [keys_named, List.forall_mem_map]
  refine ⟨fun h => ⟨h.spells, h.once⟩, fun ⟨known, once⟩ => ⟨fun option inside => ?_, once⟩⟩
  exact (settingOf_mem_settings_iff option.1).1 (known option inside)

theorem of_perm (h : options.Sound) (same : options.named.Perm options'.named) :
    options'.Sound := by
  obtain ⟨known, once⟩ := iff_named.1 h
  have keys := same.map Prod.fst
  exact iff_named.2 ⟨fun setting inside => known setting (keys.mem_iff.2 inside),
    keys.nodup once⟩

end Sound

/-- Options that are collected are sound. -/
theorem sound_of_canonical : Yields (canonical options) fun _ => options.Sound := by
  intro all gathered
  have apart : (([] : Options).map Prod.fst).Nodup := List.nodup_nil
  obtain ⟨known, once⟩ := collect_sound apart all gathered
  refine ⟨fun option inside => (settingOf_mem_settings_iff option.1).1 (known option inside), ?_⟩
  rw [List.map_nil, List.nil_append, keys_named] at once
  exact once

/-! ## §2. Options in another order. -/

/-- Where no key is there twice, the order does not count. -/
theorem get?_perm (same : options.Perm options') (once : (options.map Prod.fst).Nodup)
    (key : Text) : options.get? key = options'.get? key := by
  induction same with
  | nil => rfl
  | cons option _ ih => rw [get?_cons, get?_cons, ih (List.nodup_cons.1 once).2]
  | swap option other rest =>
    have apart : other.1 ≠ option.1 := fun twice =>
      (List.nodup_cons.1 once).1 (twice ▸ List.mem_cons_self)
    rw [get?_cons, get?_cons, get?_cons, get?_cons]
    by_cases here : key = other.1
    · rw [if_pos here, if_neg (here ▸ apart), if_pos here]
    · rw [if_neg here, if_neg here]
  | trans first _ ih ih' => exact (ih once).trans (ih' ((first.map Prod.fst).nodup once))

/-- A key that is set comes before or after the others, wherever it was. -/
theorem set_perm_cons (once : (options.map Prod.fst).Nodup) (key : Text) (value : Datum) :
    (options.set key value).Perm ((key, value) :: Setup.without key options) := by
  induction options with
  | nil => exact .refl _
  | cons option options ih =>
    obtain ⟨k, v⟩ := option
    obtain ⟨fresh, rest⟩ := List.nodup_cons.1 once
    unfold set Setup.without
    by_cases same : k = key
    · -- No other option has the key, so all of them stay.
      subst same
      have others : options.filter (fun option => option.1 != k) = options := by
        refine List.filter_eq_self.2 fun option inside => bne_iff_ne.2 ?_
        have there : option.1 ∈ options.map Prod.fst := List.mem_map_of_mem inside
        rintro rfl
        exact fresh there
      rw [if_pos (beq_self_eq_true k), List.filter_cons, if_neg (bne_iff_ne.not_left.2 rfl), others]
    · rw [if_neg (beq_iff_eq.not.2 same), List.filter_cons, if_pos (bne_iff_ne.2 same)]
      exact ((ih rest).cons _).trans (.swap ..)

theorem set_perm (same : options.Perm options') (once : (options.map Prod.fst).Nodup)
    (key : Text) (value : Datum) : (options.set key value).Perm (options'.set key value) := by
  have others : (Setup.without key options).Perm (Setup.without key options') := same.filter _
  exact ((set_perm_cons once key value).trans (others.cons _)).trans
    (set_perm_cons ((same.map Prod.fst).nodup once) key value).symm

/-- What is set adds its key to the others, if it is not among them. -/
theorem keys_set (options : Options) (key : Text) (value : Datum) :
    (options.set key value).map Prod.fst = options.map Prod.fst ∨
      key ∉ options.map Prod.fst ∧
        (options.set key value).map Prod.fst = options.map Prod.fst ++ [key] := by
  induction options with
  | nil => exact .inr ⟨List.not_mem_nil, rfl⟩
  | cons option options ih =>
    obtain ⟨k, v⟩ := option
    unfold set
    by_cases same : k = key
    · rw [if_pos (beq_iff_eq.2 same)]
      exact .inl rfl
    · rw [if_neg (beq_iff_eq.not.2 same)]
      rcases ih with old | ⟨new, keys⟩
      · exact .inl (congrArg (k :: ·) old)
      · refine .inr ⟨?_, congrArg (k :: ·) keys⟩
        rintro (_ | ⟨_, later⟩)
        · exact same rfl
        · exact new later

end Options

namespace Config

/-- Settings are looked up by name. -/
theorem ofSettings_congr {settings settings' : Options}
    (same : ∀ key, settings.get? key = settings'.get? key) :
    ofSettings settings = ofSettings settings' := by
  have given : given? settings = given? settings' := funext fun key => by
    unfold given?
    rw [same]
  have asked : settingOr settings = settingOr settings' := funext fun key => by
    unfold settingOr
    rw [same]
  have numbers : numberOr settings = numberOr settings' := funext fun key => by
    unfold numberOr
    rw [asked]
  have drums : percussionOf settings = percussionOf settings' := by
    unfold percussionOf
    rw [asked]
  unfold ofSettings
  rw [given, asked, numbers, drums]

/-- Sound options describe what their values do under the names of their settings. -/
theorem ofOptions_of_sound {options : Options} (sound : options.Sound) :
    ofOptions options = ofSettings options.named := by
  unfold ofOptions
  rw [sound.canonical_eq]
  rfl

/-- Options that are not sound are refused as a mistake of the configuration. -/
theorem ofOptions_of_unsound {options : Options} (unsound : ¬ options.Sound) :
    ∃ f, ofOptions options = .error f ∧ f.kind = .configuration := by
  unfold ofOptions
  cases gathered : options.canonical with
  | ok all => exact absurd (Options.sound_of_canonical all gathered) unsound
  | error f => exact ⟨f, rfl, Options.collect_error gathered⟩

/-- Options that name the same settings describe the same, or are both refused. -/
theorem ofOptions_perm {options options' : Options} (sound : options.Sound)
    (same : options.named.Perm options'.named) : ofOptions options = ofOptions options' := by
  rw [ofOptions_of_sound sound, ofOptions_of_sound (sound.of_perm same)]
  exact ofSettings_congr (Options.get?_perm same sound.keys_nodup)

end Config

/-! ## §3. Options of an auxiliary. -/

namespace Options

variable {options options' : Options} {key setting : Text} {plain : List Text}

/-- Options that spell a setting in no other way than by its name. -/
def Plainly (options : Options) (setting : Text) : Prop :=
  ∀ key ∈ options.map Prod.fst, (key, setting) ∉ aliases

theorem Plainly.set (h : options.Plainly setting) (name : key ∈ settings) (value : Datum) :
    (options.set key value).Plainly setting := by
  have other : (key, setting) ∉ aliases := fun spelling =>
    not_alias_of_name name (List.mem_map_of_mem (f := Prod.fst) spelling)
  intro k inside
  rcases keys_set options key value with old | ⟨-, new⟩
  · exact h k (old ▸ inside)
  · rw [new, List.mem_append, List.mem_singleton] at inside
    rcases inside with before | rfl
    · exact h k before
    · exact other

/-- Where a setting is spelled plainly, it is found under its name. -/
theorem get?_named (plainly : options.Plainly key) (name : key ∉ aliases.map Prod.fst) :
    options.named.get? key = options.get? key := by
  induction options with
  | nil => rfl
  | cons option options ih =>
    obtain ⟨k, v⟩ := option
    obtain ⟨here, rest⟩ := List.forall_mem_cons.1 plainly
    have spells : key = settingOf k ↔ key = k := by
      rw [eq_comm, settingOf_eq_iff name, or_iff_right here, eq_comm]
    rw [named_cons, get?_cons, get?_cons, ih rest, if_congr spells rfl rfl]

/-- Where a setting is spelled plainly, setting it by its name is setting it. -/
theorem named_set (plainly : options.Plainly key) (name : key ∉ aliases.map Prod.fst)
    (value : Datum) : (options.set key value).named = options.named.set key value := by
  induction options with
  | nil =>
    have own : settingOf key = key := (settingOf_eq_iff name key).2 (.inr rfl)
    show [(settingOf key, value)] = [(key, value)]
    rw [own]
  | cons option options ih =>
    obtain ⟨k, v⟩ := option
    obtain ⟨here, rest⟩ := List.forall_mem_cons.1 plainly
    have spells : settingOf k = key ↔ k = key := by
      rw [settingOf_eq_iff name, or_iff_right here]
    rw [named_cons]
    unfold set
    by_cases same : k = key
    · rw [if_pos (beq_iff_eq.2 same), if_pos (beq_iff_eq.2 (spells.2 same)), named_cons]
    · rw [if_neg (beq_iff_eq.not.2 same), if_neg (beq_iff_eq.not.2 (spells.not.2 same)), named_cons,
        ih rest]

/-- Options with some entries set, one after the other. -/
def setAll (options entries : Options) : Options :=
  entries.foldl (fun options entry => options.set entry.1 entry.2) options

/-- Sound options that name the same settings with the same values, some of them plainly. -/
structure Agree (plain : List Text) (options options' : Options) : Prop where
  sound : options.Sound
  same : options.named.Perm options'.named
  plainly : ∀ setting ∈ plain, options.Plainly setting ∧ options'.Plainly setting

namespace Agree

/-- What is set under a plain name is set in both. -/
theorem set (h : Agree plain options options') (name : key ∈ settings) (plainly : key ∈ plain)
    (value : Datum) : Agree plain (options.set key value) (options'.set key value) := by
  obtain ⟨here, there⟩ := h.plainly key plainly
  have apart := not_alias_of_name name
  obtain ⟨known, once⟩ := Sound.iff_named.1 h.sound
  refine ⟨Sound.iff_named.2 ?_, ?_, fun setting inside => ?_⟩
  · rw [named_set here apart]
    rcases keys_set options.named key value with old | ⟨fresh, new⟩
    · rw [old]
      exact ⟨known, once⟩
    · rw [new]
      refine ⟨fun setting inside => ?_, ?_⟩
      · rw [List.mem_append, List.mem_singleton] at inside
        rcases inside with before | rfl
        · exact known setting before
        · exact name
      · refine List.nodup_append.2 ⟨once, List.nodup_singleton _, ?_⟩
        rintro setting before _ (_ | ⟨_, ⟨⟩⟩) rfl
        exact fresh before
  · rw [named_set here apart, named_set there apart]
    exact set_perm h.same once key value
  · obtain ⟨mine, yours⟩ := h.plainly setting inside
    exact ⟨mine.set name value, yours.set name value⟩

theorem setAll (h : Agree plain options options') (entries : Options)
    (names : ∀ key ∈ entries.map Prod.fst, key ∈ settings ∧ key ∈ plain) :
    Agree plain (options.setAll entries) (options'.setAll entries) := by
  induction entries generalizing options options' with
  | nil => exact h
  | cons entry entries ih =>
    obtain ⟨⟨name, plainly⟩, rest⟩ := List.forall_mem_cons.1 names
    exact ih (h.set name plainly entry.2) rest

/-- Another setting that is spelled plainly. -/
theorem cons (h : Agree plain options options') (here : options.Plainly setting)
    (there : options'.Plainly setting) : Agree (setting :: plain) options options' :=
  ⟨h.sound, h.same, List.forall_mem_cons.2 ⟨⟨here, there⟩, h.plainly⟩⟩

theorem tail (h : Agree (setting :: plain) options options') : Agree plain options options' :=
  ⟨h.sound, h.same, (List.forall_mem_cons.1 h.plainly).2⟩

/-- What is spelled plainly is the same in both. -/
theorem get?_eq (h : Agree plain options options') (name : key ∉ aliases.map Prod.fst)
    (plainly : key ∈ plain) : options.get? key = options'.get? key := by
  obtain ⟨here, there⟩ := h.plainly key plainly
  rw [← get?_named here name, ← get?_named there name]
  exact get?_perm h.same h.sound.keys_nodup key

theorem setDefault (h : Agree plain options options') (name : key ∈ settings)
    (plainly : key ∈ plain) (value : Datum) :
    Agree plain (options.setDefault key value) (options'.setDefault key value) := by
  have missing : ∀ {options : Options}, options.has key = false →
      options ++ [(key, value)] = options.set key value := by
    intro options fresh
    induction options with
    | nil => rfl
    | cons option options ih =>
      obtain ⟨k, v⟩ := option
      rw [← Bool.not_eq_true, has_iff, List.map_cons, List.mem_cons, not_or] at fresh
      unfold Options.set
      rw [if_neg (beq_iff_eq.not.2 (Ne.symm fresh.1)), List.cons_append, ih]
      rw [← Bool.not_eq_true, has_iff]
      exact fresh.2
  have has : options.has key = options'.has key :=
    congrArg Option.isSome (h.get?_eq (not_alias_of_name name) plainly)
  unfold Options.setDefault
  rw [← has]
  split
  · exact h
  · next fresh =>
    rw [Bool.not_eq_true] at fresh
    rw [missing fresh, missing (has ▸ fresh)]
    exact h.set name plainly value

end Agree

/-- Options with the keys of sound options, and maybe fewer, are sound. -/
theorem Sound.of_sublist (h : options'.Sound)
    (keys : (options.map Prod.fst).Sublist (options'.map Prod.fst)) : options.Sound := by
  have settings_eq : ∀ options : Options,
      (options.map Prod.fst).map settingOf = options.map fun option => settingOf option.1 :=
    fun _ => List.map_map
  refine ⟨fun option inside => ?_, ?_⟩
  · have there : option.1 ∈ options'.map Prod.fst :=
      keys.subset (List.mem_map_of_mem inside)
    obtain ⟨option', inside', same⟩ := List.mem_map.1 there
    exact same ▸ h.known option' inside'
  · have once := h.once
    rw [← settings_eq] at once ⊢
    exact once.sublist (keys.map settingOf)

theorem keys_sublist_set (options : Options) (key : Text) (value : Datum) :
    (options.map Prod.fst).Sublist ((options.set key value).map Prod.fst) := by
  rcases keys_set options key value with old | ⟨-, new⟩
  · rw [old]
  · rw [new]
    exact List.sublist_append_left ..

theorem keys_sublist_setAll (options entries : Options) :
    (options.map Prod.fst).Sublist ((options.setAll entries).map Prod.fst) := by
  induction entries generalizing options with
  | nil => exact .refl _
  | cons entry entries ih => exact (keys_sublist_set options entry.1 entry.2).trans (ih _)

theorem keys_sublist_setDefault (options : Options) (key : Text) (value : Datum) :
    (options.map Prod.fst).Sublist ((options.setDefault key value).map Prod.fst) := by
  unfold setDefault
  split
  · exact .refl _
  · rw [List.map_append]
    exact List.sublist_append_left ..

end Options

namespace Perform

open Options

variable {options options' : Options}

/-- The settings that auxiliaries share with their master. -/
def sharedSettings : List Text := ["signature", "bpm", "ticks", "lead", "midi"]

/-- The shared options are all spellings of the shared settings. -/
theorem mem_sharedOptions_iff (key : Text) :
    key ∈ sharedOptions ↔ settingOf key ∈ sharedSettings := by
  have spellings : ∀ spelling ∈ aliases,
      spelling.1 ∈ sharedOptions ↔ spelling.2 ∈ sharedSettings := by decide
  have names : ∀ key ∈ sharedSettings, key ∈ sharedOptions := by decide
  have others : ∀ key ∈ sharedOptions, key ∈ sharedSettings ∨ key ∈ aliases.map Prod.fst := by
    decide
  rcases settingOf_cases key with spelling | ⟨same, apart⟩
  · exact spellings _ spelling
  · rw [same]
    exact ⟨fun shared => (others key shared).resolve_right apart, names key⟩

/-- Options are refused as shared for the settings that they name. -/
theorem unshared_iff (options : Options) :
    sharedOptions.find? options.has = none ↔
      ∀ setting ∈ options.named.map Prod.fst, setting ∉ sharedSettings := by
  rw [List.find?_eq_none, keys_named, List.forall_mem_map]
  constructor
  · intro unshared option inside shared
    refine unshared option.1 ((mem_sharedOptions_iff _).2 shared) ?_
    exact (has_iff options _).2 (List.mem_map_of_mem inside)
  · intro unshared key shared given
    obtain ⟨option, inside, rfl⟩ := List.mem_map.1 ((has_iff options key).1 given)
    exact unshared option inside ((mem_sharedOptions_iff _).1 shared)

/-- What is set for every auxiliary. -/
def settledSettings : List Text :=
  ["signature", "bpm", "ticks", "lead", "metronome", "attribution", "name", "percussion"]

/-- Options that are not refused as shared spell plainly what is set for every auxiliary. -/
theorem plainly_of_unshared (unshared : sharedOptions.find? options.has = none) :
    ∀ setting ∈ settledSettings, options.Plainly setting := by
  have spelled : ∀ setting ∈ settledSettings, ∀ spelling ∈ aliases, spelling.2 = setting →
      spelling.1 ∈ sharedOptions := by decide
  intro setting settled key inside spelling
  exact List.find?_eq_none.1 unshared key (spelled setting settled _ spelling rfl)
    ((has_iff options key).2 inside)

/-- Options ask for a channel by the setting that they name. -/
theorem asksChannel_iff (options : Options) :
    options.asksChannel = true ↔ ("channel" : Text) ∈ options.named.map Prod.fst := by
  have only : ∀ key : Text, settingOf key = "channel" ↔ key = "channel" ∨ key = "chan" := by
    intro key
    have spelled : ∀ spelling ∈ aliases, spelling.2 = ("channel" : Text) →
        spelling.1 = ("chan" : Text) := by decide
    rw [settingOf_eq_iff (by decide), or_comm]
    refine or_congr Iff.rfl ⟨fun spelling => spelled _ spelling rfl, ?_⟩
    rintro rfl
    decide
  unfold Options.asksChannel
  rw [Bool.or_eq_true, has_iff, has_iff, keys_named, List.mem_map, List.mem_map, List.mem_map]
  simp only [only, ← exists_or, and_or_left]

theorem plainly_channel (unasked : options.asksChannel = false) : options.Plainly "channel" := by
  intro key inside spelling
  have named : ("channel" : Text) ∈ options.named.map Prod.fst := by
    obtain ⟨option, there, rfl⟩ := List.mem_map.1 inside
    rw [keys_named]
    exact List.mem_map.2 ⟨option, there, (settingOf_eq_iff (by decide) _).2 (.inl spelling)⟩
  rw [(asksChannel_iff options).2 named] at unasked
  cases unasked

theorem needsChannel_eq (options : Options) :
    needsChannel options =
      (((options.get? "percussion").getD .null).isNothing && !options.asksChannel) := by
  unfold needsChannel Options.asksChannel
  rw [Bool.not_or, Bool.and_assoc]

/-- Options that agree need a channel both, or neither. -/
theorem needsChannel_agree (h : Agree settledSettings options options') :
    needsChannel options = needsChannel options' := by
  have asks : options.asksChannel = options'.asksChannel := by
    rw [Bool.eq_iff_iff, asksChannel_iff, asksChannel_iff]
    exact (h.same.map Prod.fst).mem_iff
  rw [needsChannel_eq, needsChannel_eq, asks, h.get?_eq (by decide) (by decide)]

/-- Options that need a channel spell it plainly: they do not spell it at all. -/
theorem plainly_of_needsChannel (needs : needsChannel options = true) :
    options.Plainly "channel" := by
  rw [needsChannel_eq, Bool.and_eq_true, Bool.not_eq_true'] at needs
  exact plainly_channel needs.2

/-- What a master gives to its auxiliaries. -/
def sharedEntries (master : Config) : Options :=
  [("signature", .text master.signature.written), ("bpm", .number master.bpm),
    ("ticks", .number master.ticks), ("lead", (master.lead.map Datum.number).getD .null),
    ("metronome", .truth false), ("attribution", .truth false)]

theorem auxiliaryOptions_eq (master : Config) (count : Nat) (options : Options) :
    auxiliaryOptions master count options = do
      let shared := options.setAll (sharedEntries master)
      let settled ←
        if needsChannel options then do
          pure (shared.set "channel" (.number (← auxiliaryChannel (.whole count))))
        else pure shared
      return settled.setDefault "name" (.text (master.name.shown ++ " " ++ toString (count + 1))) :=
  rfl

/-- What an auxiliary is made of agrees, or there is no channel for either. -/
theorem auxiliaryOptions_agree (master : Config) (count : Nat)
    (h : Agree settledSettings options options') :
    (∃ f, auxiliaryOptions master count options = .error f ∧
        auxiliaryOptions master count options' = .error f) ∨
      ∃ full full', auxiliaryOptions master count options = .ok full ∧
        auxiliaryOptions master count options' = .ok full' ∧ Agree settledSettings full full' := by
  have names : ∀ key ∈ (sharedEntries master).map Prod.fst,
      key ∈ settings ∧ key ∈ settledSettings := by
    have all : ∀ key ∈ (["signature", "bpm", "ticks", "lead", "metronome", "attribution"] :
        List Text), key ∈ settings ∧ key ∈ settledSettings := by decide
    exact all
  have named : ("name" : Text) ∈ settings ∧ ("name" : Text) ∈ settledSettings := by decide
  rw [auxiliaryOptions_eq, auxiliaryOptions_eq]
  dsimp only
  by_cases needs : needsChannel options = true
  · have needs' : needsChannel options' = true := needsChannel_agree h ▸ needs
    rw [if_pos needs, if_pos needs']
    cases auxiliaryChannel (.whole count) with
    | error f => exact .inl ⟨f, rfl, rfl⟩
    | ok q =>
      -- A channel is set only where no option spells one, so it is spelled plainly, too.
      have plainly := h.cons (plainly_of_needsChannel needs) (plainly_of_needsChannel needs')
      have both := plainly.setAll (sharedEntries master) fun key inside =>
        ⟨(names key inside).1, List.mem_cons_of_mem _ (names key inside).2⟩
      have settled := (both.set (by decide) List.mem_cons_self (.number q)).tail
      exact .inr ⟨_, _, rfl, rfl, settled.setDefault named.1 named.2 _⟩
  · have needless : ¬ needsChannel options' = true := needsChannel_agree h ▸ needs
    rw [if_neg needs, if_neg needless]
    have shared := h.setAll (sharedEntries master) names
    exact .inr ⟨_, _, rfl, rfl, shared.setDefault named.1 named.2 _⟩

/-- The keys of the options stay in what an auxiliary is made of. -/
theorem auxiliaryOptions_keys (master : Config) (count : Nat) (options : Options) :
    Yields (auxiliaryOptions master count options) fun full =>
      (options.map Prod.fst).Sublist (full.map Prod.fst) := by
  have shared := keys_sublist_setAll options (sharedEntries master)
  rw [auxiliaryOptions_eq]
  dsimp only
  split
  · refine .bind fun q _ => .pure ?_
    exact (shared.trans (keys_sublist_set _ _ _)).trans (keys_sublist_setDefault _ _ _)
  · exact .pure (shared.trans (keys_sublist_setDefault _ _ _))

/-- The settings of an auxiliary depend on the settings that its options name. -/
theorem settled_alike (master : Config) (count : Nat)
    (same : options.named.Perm options'.named)
    (unshared : sharedOptions.find? options.has = none)
    (unshared' : sharedOptions.find? options'.has = none) :
    (auxiliaryOptions master count options >>= Config.ofOptions).toOption =
      (auxiliaryOptions master count options' >>= Config.ofOptions).toOption := by
  have refused : ∀ options : Options, ¬ options.Sound →
      (auxiliaryOptions master count options >>= Config.ofOptions).toOption = none := by
    intro options unsound
    cases settled : auxiliaryOptions master count options with
    | error f => rfl
    | ok full =>
      -- Setting what is shared takes no key away, so the options do not become sound by it.
      have keys := auxiliaryOptions_keys master count options full settled
      have wrong : ¬ full.Sound := fun sound => unsound (sound.of_sublist keys)
      obtain ⟨f, failed, -⟩ := Config.ofOptions_of_unsound wrong
      show (Config.ofOptions full).toOption = none
      rw [failed]
      rfl
  by_cases sound : options.Sound
  · have agree : Agree settledSettings options options' := ⟨sound, same, fun setting settled =>
      ⟨plainly_of_unshared unshared setting settled, plainly_of_unshared unshared' setting settled⟩⟩
    rcases auxiliaryOptions_agree master count agree with
      ⟨f, here, there⟩ | ⟨full, full', here, there, alike⟩
    · rw [here, there]
    · rw [here, there]
      exact congrArg Except.toOption (Config.ofOptions_perm alike.sound alike.same)
  · rw [refused options sound, refused options' fun sound' => sound (sound'.of_perm same.symm)]

end Perform

/-! ## §4. Joining. -/

namespace Act

variable {σ α β : Type}

/-- Acts that leave the same desk, and have the same value or fail both. -/
def SameButFault (act act' : Act σ α) : Prop :=
  ∀ desk, (act.start desk).1.toOption = (act'.start desk).1.toOption ∧
    (act.start desk).2 = (act'.start desk).2

namespace SameButFault

theorem refl (act : Act σ α) : SameButFault act act := fun _ => ⟨rfl, rfl⟩

theorem throw (f f' : Fault) :
    SameButFault (MonadExcept.throw f : Act σ α) (MonadExcept.throw f') := fun _ => ⟨rfl, rfl⟩

theorem bind (act : Act σ α) {next next' : α → Act σ β}
    (then_ : ∀ a, SameButFault (next a) (next' a)) :
    SameButFault (act >>= next) (act >>= next') := by
  intro desk
  rw [start_bind, start_bind]
  cases act.start desk with
  | mk outcome after =>
    cases outcome with
    | ok a => exact then_ a after
    | error f => exact ⟨rfl, rfl⟩

theorem lift_bind {result result' : Except Fault α} (same : result.toOption = result'.toOption)
    (next : α → Act σ β) :
    SameButFault ((liftM result : Act σ α) >>= next) ((liftM result' : Act σ α) >>= next) := by
  cases result with
  | ok a =>
    cases result' with
    | ok b =>
      obtain rfl := Option.some.inj same
      exact .refl _
    | error f => cases same
  | error f =>
    cases result' with
    | ok b => cases same
    | error f' => exact fun _ => ⟨rfl, rfl⟩

/-- Checks that refuse together, whatever they say. -/
theorem check {c c' : Prop} [Decidable c] [Decidable c'] {f f' : Fault}
    {next next' : Unit → Act σ α} (same : c ↔ c')
    (passed : ¬c → ¬c' → SameButFault (next ()) (next' ())) :
    SameButFault (if c then (MonadExcept.throw f : Act σ Unit) >>= next else next ())
      (if c' then (MonadExcept.throw f' : Act σ Unit) >>= next' else next' ()) := by
  by_cases here : c
  · rw [if_pos here, if_pos (same.1 here)]
    exact fun _ => ⟨rfl, rfl⟩
  · rw [if_neg here, if_neg (mt same.2 here)]
    exact passed here (mt same.2 here)

end SameButFault

/-- Computations one after the other are one computation. -/
theorem lift_bind_lift {γ : Type} (result : Except Fault α) (next : α → Except Fault β)
    (last : β → Act σ γ) :
    ((liftM result : Act σ α) >>= fun a => (liftM (next a) : Act σ β) >>= last) =
      (liftM (result >>= next) : Act σ β) >>= last := by
  cases result <;> rfl

end Act

namespace Perform

open Options

variable {γ : Type} {options options' : Options}

/-- The key of the instrument itself is no setting, and spells none. -/
theorem has_ownKey_iff (options : Options) :
    options.has Setup.ownKey = true ↔ Setup.ownKey ∈ options.named.map Prod.fst := by
  have only : ∀ key, settingOf key = Setup.ownKey ↔ key = Setup.ownKey := by
    intro key
    have spelled : ∀ spelling ∈ aliases, spelling.2 ≠ Setup.ownKey := by decide
    rw [settingOf_eq_iff (by decide), or_iff_right fun spelling => spelled _ spelling rfl]
  rw [has_iff, keys_named, List.mem_map, List.mem_map]
  simp only [only]

/-- Who joins depends on the settings that the options name. -/
theorem join_alike (part : Part) (same : options.named.Perm options'.named) :
    Act.SameButFault (join (γ := γ) part options) (join part options') := by
  have keys : ∀ key, key ∈ options.named.map Prod.fst ↔ key ∈ options'.named.map Prod.fst :=
    fun key => (same.map Prod.fst).mem_iff
  have own : options.has Setup.ownKey = true ↔ options'.has Setup.ownKey = true := by
    rw [has_ownKey_iff, has_ownKey_iff, keys]
  have shared : sharedOptions.find? options.has = none ↔
      sharedOptions.find? options'.has = none := by
    simp only [unshared_iff, keys]
  unfold join
  refine .check own fun _ _ => .bind _ fun v => ?_
  refine .check Iff.rfl fun _ _ => .check Iff.rfl fun _ _ => ?_
  cases here : sharedOptions.find? options.has with
  | some key =>
    cases there : sharedOptions.find? options'.has with
    | some key' => exact .throw _ _
    | none =>
      rw [shared.2 there] at here
      cases here
  | none =>
    rw [shared.1 here]
    refine .bind _ fun band => ?_
    rw [Act.lift_bind_lift, Act.lift_bind_lift]
    exact .lift_bind (settled_alike v.config band.auxiliaries.length same here (shared.1 here)) _

end Perform

/-- Neither the spelling nor the order of options counts.  Sound options describe what they do
under the names of their settings, in any order; the others are refused as a mistake of the
configuration.  Options that name the same settings with the same values let the same auxiliary
join, or none. -/
theorem Options.spelling_and_order (options : Options) :
    (options.Sound → ∀ canon : Options, canon.Perm options.named →
      Config.ofOptions options = Config.ofOptions canon) ∧
    (¬ options.Sound → ∃ f, Config.ofOptions options = .error f ∧ f.kind = .configuration) ∧
    ∀ options' : Options, options'.named.Perm options.named →
      ∀ {γ : Type} (part : Part) (desk : Desk (Band γ)),
        ((Perform.join part options').start desk).1.toOption =
            ((Perform.join part options).start desk).1.toOption ∧
          ((Perform.join part options').start desk).2 =
            ((Perform.join part options).start desk).2 := by
  refine ⟨fun sound canon same => ?_, Config.ofOptions_of_unsound, fun options' same γ part => ?_⟩
  · have names : ∀ option ∈ canon, (settingOf option.1, option.2) = option := by
      intro option inside
      have setting : option.1 ∈ settings :=
        (Sound.iff_named.1 sound).1 _ (List.mem_map_of_mem (same.subset inside))
      rw [(settingOf_eq_iff (not_alias_of_name setting) _).2 (.inr rfl)]
    have canonical : canon.named = canon := List.map_congr_left names |>.trans (List.map_id' _)
    exact Config.ofOptions_perm sound (canonical.symm ▸ same.symm)
  · exact Perform.join_alike part same

/-- The options of a guitar of one string, by other spellings and by the names of the settings. -/
def shortOptions : Options :=
  [("tempo", .whole 90), ("instruments", .list [.whole 40]), ("chan", .whole 3)]

def longOptions : Options :=
  [("channel", .whole 3), ("bpm", .whole 90), ("strings", .list [.whole 40])]

/-- The same with a tempo under its other name, too. -/
def twiceOptions : Options := ("bpm", .null) :: shortOptions

/-- The options of an auxiliary, spelled in two ways. -/
def shortPart : Options := [("kit", .whole 25), ("instruments", .list [.whole 50])]

def longPart : Options := [("strings", .list [.whole 50]), ("instrument", .whole 25)]

/-- Both guitars are the same, and so are both auxiliaries; a tempo that is given under both of its
names is refused. -/
theorem shortOptions_alike :
    (Config.ofOptions longOptions).toBool = true ∧
    Config.ofOptions shortOptions = Config.ofOptions longOptions ∧
    (∃ f, Config.ofOptions twiceOptions = .error f ∧ f.kind = .configuration) ∧
    ∃ (desk : Desk (Band Script)) (aux : Voice), Session.begin [] longOptions = .ok desk ∧
      ((Perform.join .master longPart).start desk).1.toOption = some aux ∧
      ((Perform.join .master shortPart).start desk).1.toOption = some aux := by
  have sound : shortOptions.Sound := ⟨by decide, by decide⟩
  have unsound : ¬ twiceOptions.Sound := by
    intro sound
    have once := sound.once
    revert once
    decide
  have seen : ((Session.begin ([] : Script) longOptions).toOption.map fun desk =>
      ((Perform.join .master longPart).start desk).1.toBool) = some true := by
    decide +kernel
  obtain ⟨desk, begun, joins⟩ := exists_ok_of_seen seen
  obtain ⟨aux, joined⟩ := exists_ok_of_toBool joins
  have well : ((Perform.join .master longPart).start desk).1.toOption = some aux := by
    rw [joined]
    rfl
  have guitars : longOptions.Perm shortOptions.named := by
    let others : Options := [("bpm", .whole 90), ("strings", .list [.whole 40])]
    exact (List.perm_append_singleton (("channel", .whole 3) : Text × Datum) others).symm
  have parts : shortPart.named.Perm longPart.named := .swap ..
  refine ⟨by decide +kernel, (Options.spelling_and_order shortOptions).1 sound _ guitars,
    (Options.spelling_and_order _).2.1 unsound, desk, aux, begun, well, ?_⟩
  exact ((Options.spelling_and_order longPart).2.2 shortPart parts .master desk).1.trans well

end Plectrum
