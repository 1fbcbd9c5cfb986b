/-
  Plectrum.Proofs.Respellings
  ───────────────────────────
  **Scores with another spelling of an option.**

  Two scores that say the same, but for the spelling of one option of their instrument, are
  performed in the same way and set up the same instrument.  What is done to options commutes
  with spelling a key another way, down to the settings, which do not know the spelling.

  Main results:
    * `Score.Respelled.perform_eq` — the music is the same;
    * `Score.Respelled.setup` — the setup is the same, unless the setting is given twice: then both
      are refused, and each names its own key;
    * `Score.Respelled.namesFile_eq` — the same file is found to be named, if the option is not the
      name of a file, or names none;
    * `Score.Respelled.namesFile_other` — a file that is named by another spelling is overlooked.
-/
import Plectrum.Command.Run
import Plectrum.Proofs.OptionKeys

namespace Plectrum

/-! ## §1. Options. -/

namespace Options

variable {options : Options} {key key' k : Text} {value : Datum}

theorem respellKey_self (key key' : Text) : respellKey key key' key = key' := if_pos rfl

theorem respellKey_other (apart : k ≠ key) (key' : Text) : respellKey key key' k = k :=
  if_neg apart

/-- Keys stay apart, if none of them is the new spelling. -/
theorem respellKey_inj {l : Text} (fresh : k ≠ key') (fresh' : l ≠ key') :
    respellKey key key' k = respellKey key key' l ↔ k = l := by
  unfold respellKey
  by_cases here : k = key
  · by_cases there : l = key
    · simp [here, there]
    · rw [if_pos here, if_neg there]
      exact ⟨fun same => absurd same.symm fresh', fun same => absurd (same ▸ here) there⟩
  · by_cases there : l = key
    · rw [if_neg here, if_pos there]
      exact ⟨fun same => absurd same fresh, fun same => absurd (same ▸ there) here⟩
    · rw [if_neg here, if_neg there]

/-- What other keys say is the same. -/
theorem get?_respell (apart : k ≠ key) (apart' : k ≠ key') (options : Options) :
    (respell key key' options).get? k = options.get? k := by
  induction options with
  | nil => rfl
  | cons option options ih =>
    obtain ⟨l, v⟩ := option
    rw [respell_cons, get?_cons, get?_cons, ih]
    by_cases here : l = key
    · rw [here, respellKey_self, if_neg apart, if_neg apart']
    · rw [respellKey_other here]

theorem has_respell (apart : k ≠ key) (apart' : k ≠ key') (options : Options) :
    (respell key key' options).has k = options.has k :=
  congrArg Option.isSome (get?_respell apart apart' options)

/-- Options that do not have a key. -/
def Lacks (key : Text) (options : Options) : Prop := ∀ option ∈ options, option.1 ≠ key

theorem lacks_of_get? (missing : options.get? key = none) : Lacks key options := by
  intro option here
  have apart := List.lookup_eq_none_iff.1 missing option here
  exact (bne_iff_ne.1 apart).symm

/-- What the key said is found under its new spelling, -/
theorem get?_respell_new (lacks : Lacks key' options) :
    (respell key key' options).get? key' = options.get? key := by
  induction options with
  | nil => rfl
  | cons option options ih =>
    obtain ⟨l, v⟩ := option
    obtain ⟨here, rest⟩ := List.forall_mem_cons.1 lacks
    rw [respell_cons, get?_cons, get?_cons, ih rest]
    by_cases same : l = key
    · rw [same, respellKey_self, if_pos rfl, if_pos rfl]
    · rw [respellKey_other same, if_neg (Ne.symm here), if_neg (Ne.symm same)]

/-- and no longer under the old one. -/
theorem get?_respell_old (apart : key ≠ key') (options : Options) :
    (respell key key' options).get? key = none := by
  induction options with
  | nil => rfl
  | cons option options ih =>
    obtain ⟨l, v⟩ := option
    rw [respell_cons, get?_cons, ih]
    by_cases same : l = key
    · rw [same, respellKey_self, if_neg apart]
    · rw [respellKey_other same, if_neg (Ne.symm same)]

theorem without_respell (apart : k ≠ key) (apart' : k ≠ key') (options : Options) :
    Setup.without k (respell key key' options) = respell key key' (Setup.without k options) := by
  unfold Setup.without respell
  rw [List.filter_map]
  congr 1
  refine List.filter_congr fun option _ => ?_
  show (respellKey key key' option.1 != k) = (option.1 != k)
  by_cases here : option.1 = key
  · rw [here, respellKey_self, bne_iff_ne.2 apart.symm, bne_iff_ne.2 apart'.symm]
  · rw [respellKey_other here]

theorem Lacks.set (lacks : Lacks key' options) (fresh : k ≠ key') (value : Datum) :
    Lacks key' (options.set k value) := by
  induction options with
  | nil => simpa [Options.set, Lacks] using fresh
  | cons option options ih =>
    obtain ⟨here, rest⟩ := List.forall_mem_cons.1 lacks
    unfold Options.set
    split
    · exact List.forall_mem_cons.2 ⟨here, rest⟩
    · exact List.forall_mem_cons.2 ⟨here, ih rest⟩

theorem set_respell (lacks : Lacks key' options) (fresh : k ≠ key') (value : Datum) :
    respell key key' (options.set k value) =
      (respell key key' options).set (respellKey key key' k) value := by
  induction options with
  | nil => rfl
  | cons option options ih =>
    obtain ⟨l, v⟩ := option
    obtain ⟨here, rest⟩ := List.forall_mem_cons.1 lacks
    rw [respell_cons]
    unfold Options.set
    by_cases same : l = k
    · rw [if_pos (beq_iff_eq.2 same),
        if_pos (beq_iff_eq.2 ((respellKey_inj here fresh).2 same)), respell_cons]
    · rw [if_neg (beq_iff_eq.not.2 same),
        if_neg (beq_iff_eq.not.2 ((respellKey_inj here fresh).not.2 same)), respell_cons, ih rest]

theorem Lacks.ofPairs {pairs : List (Text × Datum)} (lacks : Lacks key' pairs) :
    Lacks key' (ofPairs pairs) := by
  have all : ∀ (pairs : List (Text × Datum)) (options : Options), Lacks key' pairs →
      Lacks key' options →
      Lacks key' (pairs.foldl (fun options pair => options.set pair.1 pair.2) options) := by
    intro pairs
    induction pairs with
    | nil => exact fun _ _ lacks => lacks
    | cons pair pairs ih =>
      intro options lacks lacks'
      obtain ⟨here, rest⟩ := List.forall_mem_cons.1 lacks
      exact ih _ rest (lacks'.set here pair.2)
  exact all pairs [] lacks nofun

/-- Options are made of pairs with another spelling as of the pairs themselves. -/
theorem ofPairs_respell {pairs : List (Text × Datum)} (lacks : Lacks key' pairs) :
    ofPairs (respell key key' pairs) = respell key key' (ofPairs pairs) := by
  -- The options that are made of the first pairs lack the new spelling as the pairs do.
  have all : ∀ (pairs : List (Text × Datum)) (options : Options), Lacks key' pairs →
      Lacks key' options →
      (respell key key' pairs).foldl (fun options pair => options.set pair.1 pair.2)
          (respell key key' options) =
        respell key key' (pairs.foldl (fun options pair => options.set pair.1 pair.2) options) := by
    intro pairs
    induction pairs with
    | nil => intro options _ _; rfl
    | cons pair pairs ih =>
      intro options lacks lacks'
      obtain ⟨here, rest⟩ := List.forall_mem_cons.1 lacks
      have next := ih (options.set pair.1 pair.2) rest (lacks'.set here pair.2)
      rwa [set_respell lacks' here] at next
  exact all pairs [] lacks nofun

end Options

/-- Another spelling of a key sets up the same instrument, or is refused as the key is: for a
setting that is given twice. -/
theorem Setup.ofOptions_respell {key key' : Text} (synonyms : Options.Synonyms key key')
    (options : Options) :
    Options.SameButKey key key' (ofOptions options)
      (ofOptions (options.respell key key')) := by
  -- None of these keys has another spelling, so what they say is found as before.
  obtain ⟨own, own'⟩ := synonyms.ne_of_plain (k := ownKey) (by decide)
  obtain ⟨config, config'⟩ := synonyms.ne_of_plain (k := configKey) (by decide)
  obtain ⟨chance, chance'⟩ := synonyms.ne_of_plain (k := chanceKey) (by decide)
  have given : ∀ {k : Text}, k ≠ key → k ≠ key' →
      Config.given? (options.respell key key') k = Config.given? options k := by
    intro k apart apart'
    unfold Config.given?
    rw [Options.get?_respell apart apart']
  have single : without configKey (without chanceKey (options.respell key key')) =
      Options.respell key key' (without configKey (without chanceKey options)) := by
    rw [Options.without_respell chance chance', Options.without_respell config config']
  have empty : (Options.respell key key' (without configKey (without chanceKey options))).isEmpty =
      (without configKey (without chanceKey options)).isEmpty := List.isEmpty_map
  unfold ofOptions isSeeded
  dsimp only
  rw [Options.has_respell own own', single, given config config', given chance chance', empty]
  split
  · exact .refl _ _ _
  · split
    · exact .refl _ _ _
    · -- From here on only the settings count, and they do not know the spelling.
      have settings := Options.canonical_respell synonyms
        (without configKey (without chanceKey options))
      exact (settings.bind Config.ofSettings).bind _

/-! ## §2. Entries. -/

namespace Score

variable {entries : List (Datum × Datum)} {key key' k : Text} {value : Datum}

/-- An entry, with `key'` in place of `key`. -/
def respellEntry (key key' : Text) : Datum × Datum → Datum × Datum
  | (.text k, value) => (.text (Options.respellKey key key' k), value)
  | entry => entry

/-- The entry of a text key. -/
def namedEntry : Datum × Datum → Option (Text × Datum)
  | (.text k, value) => some (k, value)
  | _ => none

/-- The entries with text keys. -/
def namedEntries (entries : List (Datum × Datum)) : Options := entries.filterMap namedEntry

/-- A text is looked up among the entries with text keys. -/
theorem lookup?_named (k : Text) (entries : List (Datum × Datum)) :
    Datum.lookup? (.text k) entries = (namedEntries entries).get? k := by
  induction entries with
  | nil => rfl
  | cons entry entries ih =>
    obtain ⟨other, value⟩ := entry
    unfold Datum.lookup? at ih ⊢
    rw [List.find?_cons]
    cases other with
    | text l =>
      show _ = Options.get? ((l, value) :: namedEntries entries) k
      rw [Options.get?_cons, ← ih]
      by_cases same : k = l
      · simp [Datum.sameKey, same]
      · simp [Datum.sameKey, same, beq_eq_false_iff_ne.2 (Ne.symm same)]
    | _ => exact ih

theorem namedEntries_respell (key key' : Text) (entries : List (Datum × Datum)) :
    namedEntries (entries.map (respellEntry key key')) =
      Options.respell key key' (namedEntries entries) := by
  unfold namedEntries Options.respell
  rw [List.filterMap_map, List.map_filterMap]
  refine List.filterMap_congr fun entry _ => ?_
  obtain ⟨other, value⟩ := entry
  cases other <;> rfl

/-- Entries are options, if all of their keys are texts. -/
theorem optionsOfEntries_eq (entries : List (Datum × Datum)) :
    optionsOfEntries entries =
      if entries.all fun entry => (namedEntry entry).isSome then
        .ok (Options.ofPairs (namedEntries entries))
      else .error .wrongKind := by
  have reads : optionsOfEntries entries =
      (entries.mapM fun entry => (namedEntry entry).elim (.error .wrongKind) .ok) >>=
        fun named => pure (Options.ofPairs named) := by
    refine congrArg₂ bind (congrArg (List.mapM · entries) (funext fun entry => ?_)) rfl
    obtain ⟨other, value⟩ := entry
    cases other <;> rfl
  rw [reads, mapM_elim]
  split <;> rfl

/-- What is looked up among the entries decides which options they are. -/
theorem optionsOfEntries_respell (fresh : Datum.lookup? (.text key') entries = none) :
    optionsOfEntries (entries.map (respellEntry key key')) =
      (optionsOfEntries entries).map (Options.respell key key') := by
  have lacks : Options.Lacks key' (namedEntries entries) :=
    Options.lacks_of_get? (lookup?_named key' entries ▸ fresh)
  have all : (entries.map (respellEntry key key')).all (fun entry => (namedEntry entry).isSome) =
      entries.all fun entry => (namedEntry entry).isSome := by
    rw [List.all_map]
    congr 1
    funext ⟨other, value⟩
    cases other <;> rfl
  rw [optionsOfEntries_eq, optionsOfEntries_eq, all, namedEntries_respell,
    Options.ofPairs_respell lacks]
  split <;> rfl

/-! ## §3. Instruments. -/

/-- The options of an instrument as they are written: the entries of a mapping, or the pairs of a
list. -/
def writtenOptions (d : Datum) : Except Fault (List (Datum × Datum)) :=
  match d.entries? with
  | some entries => .ok entries
  | none => do pairsOf 0 (← d.elements)

theorem optionsOfDatum_eq (d : Datum) :
    optionsOfDatum d = writtenOptions d >>= optionsOfEntries := by
  unfold optionsOfDatum writtenOptions
  cases d.entries? with
  | some entries => rfl
  | none => cases d.elements <;> rfl

/-- An instrument that is nothing has no options. -/
theorem writtenOptions_of_nothing :
    ∀ {d : Datum}, d.isNothing = true → Yields (writtenOptions d) (· = [])
  | .null, _ | .number _, _ => .error _
  | .text _, empty | .list _, empty | .set _, empty | .bytes _, empty | .mapping _, empty => by
    obtain rfl := List.isEmpty_iff.1 empty
    exact .pure rfl
  | .loop _ turn, empty => writtenOptions_of_nothing (d := turn) empty

/-- Two instruments that differ in the spelling of an option with a value. -/
structure RespelledInstrument (key key' : Text) (value d d' : Datum) : Prop where
  sort : d'.entries?.isSome = d.entries?.isSome
  options : ∃ entries, writtenOptions d = .ok entries ∧
    writtenOptions d' = .ok (entries.map (respellEntry key key')) ∧
    Datum.lookup? (.text key) entries = some value ∧ Datum.lookup? (.text key') entries = none

namespace RespelledInstrument

variable {d d' : Datum}

theorem isNothing (h : RespelledInstrument key key' value d d') :
    d.isNothing = false ∧ d'.isNothing = false := by
  obtain ⟨entries, written, written', found, -⟩ := h.options
  have some : entries ≠ [] := by
    rintro rfl
    cases found
  constructor
  · rw [← Bool.not_eq_true]
    exact fun nothing => some (writtenOptions_of_nothing nothing _ written)
  · rw [← Bool.not_eq_true]
    intro nothing
    exact some (List.map_eq_nil_iff.1 (writtenOptions_of_nothing nothing _ written'))

theorem optionsOfDatum_respell (h : RespelledInstrument key key' value d d') :
    optionsOfDatum d' = (optionsOfDatum d).map (Options.respell key key') := by
  obtain ⟨entries, written, written', -, fresh⟩ := h.options
  rw [optionsOfDatum_eq, optionsOfDatum_eq, written, written']
  exact optionsOfEntries_respell fresh

/-- Both instruments are lists, or both are mappings. -/
theorem cases (h : RespelledInstrument key key' value d d') :
    (d.entries? = none ∧ d'.entries? = none) ∨ ∃ entries, d.entries? = some entries ∧
      d'.entries? = some (entries.map (respellEntry key key')) ∧
      Datum.lookup? (.text key) entries = some value ∧
      Datum.lookup? (.text key') entries = none := by
  obtain ⟨entries, written, written', found, fresh⟩ := h.options
  have sort := h.sort
  unfold writtenOptions at written written'
  cases here : d.entries? with
  | none =>
    rw [here] at sort
    exact .inl ⟨rfl, Option.not_isSome_iff_eq_none.1 (Bool.not_eq_true _ ▸ sort)⟩
  | some es =>
    rw [here] at sort written
    obtain ⟨es', here'⟩ := Option.isSome_iff_exists.1 sort
    rw [here'] at written'
    cases written
    cases written'
    exact .inr ⟨entries, rfl, here', found, fresh⟩

theorem lacks (h : RespelledInstrument key key' value d d') :
    Yields (optionsOfDatum d) (Options.Lacks key') := by
  obtain ⟨entries, written, -, -, fresh⟩ := h.options
  have lacks : Options.Lacks key' (namedEntries entries) :=
    Options.lacks_of_get? (lookup?_named key' entries ▸ fresh)
  rw [optionsOfDatum_eq, written]
  show Yields (optionsOfEntries entries) _
  rw [optionsOfEntries_eq]
  split
  · exact .pure lacks.ofPairs
  · exact .error _

end RespelledInstrument

/-! ## §4. Scores. -/

/-- Two scores that differ in the spelling of an option of their instrument. -/
structure Respelled (key key' : Text) (value score score' : Datum) : Prop where
  others : ∀ name : Text, name ≠ "instrument" → score'.field? name = score.field? name
  instrument : ∃ d d', score.field? "instrument" = some d ∧ score'.field? "instrument" = some d' ∧
    RespelledInstrument key key' value d d'

/-- A field that is there, as it is read. -/
theorem fieldOr_of_field {d value default : Datum} {name : Text}
    (there : d.field? name = some value) :
    d.fieldOr name default = .ok (if value.isNothing then default else value) := by
  unfold Datum.field? at there
  unfold Datum.fieldOr Datum.entries
  cases entries : d.entries? with
  | none =>
    rw [entries] at there
    cases there
  | some es =>
    rw [entries] at there
    dsimp only [bind, Except.bind]
    rw [show Datum.lookup? (.text name) es = some value from there]
    rfl

theorem isSome_entries?_of_field {d value : Datum} {name : Text}
    (there : d.field? name = some value) : d.entries?.isSome = true := by
  unfold Datum.field? at there
  cases entries : d.entries? with
  | none =>
    rw [entries] at there
    cases there
  | some es => rfl

/-- Of mappings only the value at a field decides how the field is read. -/
theorem fieldOr_congr {d d' : Datum} {name : Text} (mapping : d.entries?.isSome = true)
    (mapping' : d'.entries?.isSome = true) (same : d'.field? name = d.field? name)
    (default : Datum) : d'.fieldOr name default = d.fieldOr name default := by
  obtain ⟨entries, here⟩ := Option.isSome_iff_exists.1 mapping
  obtain ⟨entries', here'⟩ := Option.isSome_iff_exists.1 mapping'
  unfold Datum.field? at same
  rw [here, here'] at same
  unfold Datum.fieldOr Datum.entries
  rw [here, here']
  dsimp only [bind, Except.bind]
  rw [show Datum.lookup? (.text name) entries' = Datum.lookup? (.text name) entries from same]

namespace Respelled

variable {score score' : Datum} (h : Respelled key key' value score score')
include h

theorem fieldOr_eq {name : Text} (other : name ≠ "instrument") (default : Datum) :
    score'.fieldOr name default = score.fieldOr name default := by
  obtain ⟨d, d', there, there', -⟩ := h.instrument
  exact fieldOr_congr (isSome_entries?_of_field there) (isSome_entries?_of_field there')
    (h.others name other) default

/-- The music is the same. -/
theorem perform_eq {γ : Type} [ChanceSource γ] :
    (perform score' : Play γ Unit) = perform score := by
  unfold perform
  rw [h.fieldOr_eq (by decide), h.fieldOr_eq (by decide), h.fieldOr_eq (by decide)]

/-- The instruments as they are read. -/
theorem exists_instrument : ∃ d d', (∀ default, score.fieldOr "instrument" default = .ok d) ∧
    (∀ default, score'.fieldOr "instrument" default = .ok d') ∧
    RespelledInstrument key key' value d d' := by
  obtain ⟨d, d', there, there', respelled⟩ := h.instrument
  obtain ⟨something, something'⟩ := respelled.isNothing
  refine ⟨d, d', fun default => ?_, fun default => ?_, respelled⟩
  · rw [fieldOr_of_field there, something]
    rfl
  · rw [fieldOr_of_field there', something']
    rfl

/-- The options of the instrument are the same, but for the spelling. -/
theorem instrumentOptions_eq (synonyms : Options.Synonyms key key') (seed : Datum) :
    instrumentOptions score' seed =
      (instrumentOptions score seed).map (Options.respell key key') := by
  obtain ⟨plain, plain'⟩ := synonyms.ne_of_plain (k := "seed") (by decide)
  obtain ⟨d, d', reads, reads', respelled⟩ := h.exists_instrument
  have lacks := respelled.lacks
  unfold instrumentOptions
  rw [reads, reads']
  dsimp only [bind, Except.bind]
  rw [respelled.optionsOfDatum_respell]
  cases found : optionsOfDatum d with
  | error f => rfl
  | ok options =>
    have set : Options.respell key key' (options.set "seed" seed) =
        (options.respell key key').set "seed" seed := by
      rw [Options.set_respell (lacks options found) plain', Options.respellKey_other plain]
    cases seed with
    | null => rfl
    | _ => exact congrArg Except.ok set.symm

/-- The setup is the same, unless the setting is given twice. -/
theorem setup (synonyms : Options.Synonyms key key') (seed : Datum) :
    Options.SameButKey key key' (instrumentOptions score seed >>= Setup.ofOptions)
      (instrumentOptions score' seed >>= Setup.ofOptions) := by
  rw [h.instrumentOptions_eq synonyms]
  cases instrumentOptions score seed with
  | error f => exact .refl _ _ _
  | ok options => exact Setup.ofOptions_respell synonyms options

/-- The same file is found to be named, if the option is not the name of a file or names none. -/
theorem namesFile_eq (apart : key ≠ key')
    (none : key = "midi" ∨ key' = "midi" → value.isNothing = true) :
    Command.namesFile score' = Command.namesFile score := by
  obtain ⟨d, d', reads, reads', respelled⟩ := h.exists_instrument
  unfold Command.namesFile
  rw [reads, reads']
  dsimp only [bind, Except.bind]
  rcases respelled.cases with ⟨list, list'⟩ | ⟨entries, mapping, mapping', found, fresh⟩
  · unfold Datum.entries
    rw [list, list']
  · unfold Datum.entries
    rw [mapping, mapping']
    dsimp only
    rw [lookup?_named] at found fresh
    rw [lookup?_named, lookup?_named, namedEntries_respell]
    have lacks := Options.lacks_of_get? fresh
    -- Where one spelling is looked at, a value that is nothing and a missing one count the same.
    by_cases here : key = "midi"
    · subst here
      rw [Options.get?_respell_old apart, found]
      show _ = Except.ok (!value.isNothing)
      rw [none (.inl rfl)]
      rfl
    · by_cases there : key' = "midi"
      · subst there
        rw [Options.get?_respell_new lacks, found, fresh]
        show Except.ok (!value.isNothing) = _
        rw [none (.inr rfl)]
        rfl
      · rw [Options.get?_respell (Ne.symm here) (Ne.symm there)]

/-- A file that is named by another spelling is overlooked. -/
theorem namesFile_other (apart : key ≠ key') (midi : key = "midi")
    (named : Command.namesFile score = .ok true) : Command.namesFile score' = .ok false := by
  obtain ⟨d, d', reads, reads', respelled⟩ := h.exists_instrument
  unfold Command.namesFile at named ⊢
  rw [reads] at named
  rw [reads']
  dsimp only [bind, Except.bind] at named ⊢
  rcases respelled.cases with ⟨list, -⟩ | ⟨entries, -, mapping', -⟩
  · unfold Datum.entries at named
    rw [list] at named
    cases named
  · unfold Datum.entries
    rw [mapping']
    dsimp only
    rw [lookup?_named, namedEntries_respell, ← midi, Options.get?_respell_old apart]
    rfl

end Respelled

end Score
end Plectrum
