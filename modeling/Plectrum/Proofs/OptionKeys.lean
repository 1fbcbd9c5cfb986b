/-
  Plectrum.Proofs.OptionKeys
  ──────────────────────────
  **What options say under their keys.**

  Options are collected under the names of their settings, whatever the spelling of their keys.
  So an option that is accepted is found under its setting, and options of which one key is
  spelled another way describe the same settings.

  Main results:
    * `Options.canonical_get?` — an accepted option is found under the setting that its key spells;
    * `Options.canonical_respell` — another spelling of a key makes no difference, but for the key
      that is named when a setting is given twice.
-/
import Plectrum.Proofs.Bare

namespace Plectrum.Options

variable {options collected : Options} {key other : Text} {value : Datum}

/-! ## §1. Options that are set. -/

theorem get?_cons (key other : Text) (value : Datum) (options : Options) :
    get? ((other, value) :: options) key =
      if key = other then some value else options.get? key := by
  unfold get?
  rw [List.lookup_cons]
  by_cases same : key = other
  · rw [if_pos same, beq_iff_eq.2 same]
  · rw [if_neg same, beq_eq_false_iff_ne.2 same]

/-- An option that is set is there. -/
theorem get?_set_self (options : Options) (key : Text) (value : Datum) :
    (options.set key value).get? key = some value := by
  induction options with
  | nil => simp [set, get?_cons]
  | cons option options ih =>
    obtain ⟨k, v⟩ := option
    by_cases same : k = key
    · simp [set, get?_cons, same]
    · simp [set, get?_cons, same, Ne.symm same, ih]

/-- The others are what they were. -/
theorem get?_set_other (apart : other ≠ key) (value : Datum) :
    (options.set key value).get? other = options.get? other := by
  induction options with
  | nil => simp [set, apart, get?]
  | cons option options ih =>
    obtain ⟨k, v⟩ := option
    by_cases same : k = key
    · subst same
      simp [set, get?_cons, apart]
    · simp [set, get?_cons, same, ih]

theorem get?_append_of_some (found : collected.get? key = some value) (more : Options) :
    get? (collected ++ more) key = some value := by
  unfold get? at found ⊢
  rw [List.lookup_append, found]
  rfl

theorem get?_append_of_none (missing : collected.get? key = none) (more : Options) :
    get? (collected ++ more) key = more.get? key := by
  unfold get? at missing ⊢
  rw [List.lookup_append, missing]
  rfl

theorem get?_setDefault_other (apart : other ≠ key) (value : Datum) :
    (options.setDefault key value).get? other = options.get? other := by
  unfold setDefault
  split
  · rfl
  · cases found : options.get? other with
    | some d => exact get?_append_of_some found _
    | none =>
      rw [get?_append_of_none found, get?_cons, if_neg apart]
      rfl

/-! ## §2. Options that are accepted. -/

/-- What has been collected stays, and every option is added under the setting of its key. -/
theorem collect_get? :
    Yields (collect collected options) fun all =>
      (∀ setting d, collected.get? setting = some d → all.get? setting = some d) ∧
      ∀ key d, options.get? key = some d → all.get? (settingOf key) = some d := by
  induction options generalizing collected with
  | nil => exact .pure ⟨fun _ _ found => found, nofun⟩
  | cons option options ih =>
    obtain ⟨k, v⟩ := option
    rw [collect_cons]
    refine .ite_error fun _ => .ite_error fun fresh => ?_
    intro all gathered
    obtain ⟨kept, added⟩ := ih all gathered
    refine ⟨fun setting d found => kept setting d (get?_append_of_some found _),
      fun key d found => ?_⟩
    rw [get?_cons] at found
    by_cases same : key = k
    · -- The first option is the one that has just been added.
      rw [if_pos same] at found
      have missing : collected.get? (settingOf k) = none :=
        Option.not_isSome_iff_eq_none.1 fresh
      refine kept _ d ?_
      rw [same, get?_append_of_none missing, get?_cons, if_pos rfl]
      exact found
    · rw [if_neg same] at found
      exact added key d found

/-- An accepted option is found under the setting that its key spells. -/
theorem canonical_get? :
    Yields (canonical options) fun all =>
      ∀ key d, options.get? key = some d → all.get? (settingOf key) = some d :=
  fun all gathered => (collect_get? all gathered).2

/-! ## §3. Options spelled another way. -/

/-- A key, with `key'` in place of `key`. -/
def respellKey (key key' : Text) (k : Text) : Text := if k = key then key' else k

/-- Options with one key spelled another way. -/
def respell (key key' : Text) (options : Options) : Options :=
  options.map fun option => (respellKey key key' option.1, option.2)

section Respell

variable {key key' : Text}

theorem respell_cons (key key' k : Text) (v : Datum) (options : Options) :
    respell key key' ((k, v) :: options) = (respellKey key key' k, v) :: respell key key' options :=
  rfl

/-- Two spellings of one setting. -/
structure Synonyms (key key' : Text) : Prop where
  apart : key ≠ key'
  same : settingOf key = settingOf key'

namespace Synonyms

theorem symm (h : Synonyms key key') : Synonyms key' key := ⟨h.apart.symm, h.same.symm⟩

/-- A setting with two spellings is among those that have another one. -/
theorem respelled (h : Synonyms key key') : settingOf key ∈ aliases.map Prod.snd := by
  have target : ∀ {t setting : Text}, aliases.lookup t = some setting →
      setting ∈ aliases.map Prod.snd := by
    intro t setting spelled
    obtain ⟨before, after, place, -⟩ := List.lookup_eq_some_iff.1 spelled
    rw [place]
    simp
  have same := h.same
  unfold settingOf at same ⊢
  cases spelled : aliases.lookup key with
  | some setting => exact target spelled
  | none =>
    rw [spelled] at same
    cases spelled' : aliases.lookup key' with
    | some setting =>
      rw [spelled'] at same
      exact same ▸ target spelled'
    | none =>
      rw [spelled'] at same
      exact (h.apart same).elim

/-- A key of another setting is neither of the two. -/
theorem ne_of_plain (h : Synonyms key key') {k : Text}
    (plain : settingOf k ∉ aliases.map Prod.snd) : k ≠ key ∧ k ≠ key' := by
  constructor
  · rintro rfl
    exact plain h.respelled
  · rintro rfl
    exact plain h.symm.respelled

theorem known (h : Synonyms key key') : settingOf key ∈ settings := by
  have all : ∀ setting ∈ aliases.map Prod.snd, setting ∈ settings := by decide
  exact all _ h.respelled

end Synonyms

theorem settingOf_respellKey (h : Synonyms key key') (k : Text) :
    settingOf (respellKey key key' k) = settingOf k := by
  unfold respellKey
  split
  · next here => rw [here, h.same]
  · rfl

/-- The outcomes of reading options that differ in the spelling of a key: the same, or each names
its own key for a setting that is given twice. -/
def SameButKey (key key' : Text) {α : Type} (result result' : Except Fault α) : Prop :=
  result' = result ∨ ∃ setting,
    result = .error (.repeatedOption key setting) ∧ result' = .error (.repeatedOption key' setting)

namespace SameButKey

variable {α β : Type} {result result' : Except Fault α}

theorem refl (key key' : Text) (result : Except Fault α) : SameButKey key key' result result :=
  .inl rfl

/-- What is made of the same outcome is the same. -/
theorem bind (h : SameButKey key key' result result') (next : α → Except Fault β) :
    SameButKey key key' (result >>= next) (result' >>= next) := by
  rcases h with same | ⟨setting, rfl, rfl⟩
  · exact .inl (congrArg (· >>= next) same)
  · exact .inr ⟨setting, rfl, rfl⟩

end SameButKey

theorem collect_respell (h : Synonyms key key') (collected options : Options) :
    SameButKey key key' (collect collected options)
      (collect collected (respell key key' options)) := by
  induction options generalizing collected with
  | nil => exact .refl _ _ _
  | cons option options ih =>
    obtain ⟨k, v⟩ := option
    rw [respell_cons, collect_cons, collect_cons, settingOf_respellKey h]
    by_cases here : k = key
    · subst here
      rw [if_neg (not_not.2 h.known), if_neg (not_not.2 h.known)]
      by_cases twice : collected.has (settingOf k) = true
      · rw [if_pos twice, if_pos twice, show respellKey k key' k = key' from if_pos rfl]
        exact .inr ⟨_, rfl, rfl⟩
      · rw [if_neg twice, if_neg twice]
        exact ih _
    · rw [show respellKey key key' k = k from if_neg here]
      split
      · exact .refl _ _ _
      · split
        · exact .refl _ _ _
        · exact ih _

/-- Options with another spelling of a key describe the same settings. -/
theorem canonical_respell (h : Synonyms key key') (options : Options) :
    SameButKey key key' (canonical options) (canonical (respell key key' options)) :=
  collect_respell h [] options

end Respell

end Plectrum.Options
