/-
  Plectrum.Proofs.StrayKeys
  ─────────────────────────
  **Keys that a step has besides its own.**

  The first known key of a step decides of which kind the step is, and a kind has its companions: a
  tab may state its beats, and a ramp its shape.  Any other key strays.  A step of no kind is refused
  with all its keys.  But a step of some kind is read by the keys of its kind alone, as if those that
  stray were not there; so a companion that is misspelt changes the music without a word.

  Main results:
    * `Score.Step.read_tidied` — a step is read without its stray keys;
    * `Score.stray_key` — how a score with a stray key is performed, and when it is refused.
-/
import Plectrum.Proofs.ScoreCalls

namespace Plectrum.Score

/-! ## §1. Kinds of steps. -/

/-- What a step does. -/
inductive StepKind where
  | play
  | rest
  | tab
  | cresc
  | rit
  | tempo
  deriving Repr, DecidableEq

namespace StepKind

/-- All kinds, in the order in which their keys count. -/
def all : List StepKind := [.play, .rest, .tab, .cresc, .rit, .tempo]

/-- The key of a kind. -/
def key : StepKind → Text
  | .play => "play"
  | .rest => "rest"
  | .tab => "tab"
  | .cresc => "cresc"
  | .rit => "rit"
  | .tempo => "tempo"

/-- What else a step of a kind may state. -/
def companions : StepKind → List Text
  | .play | .rest | .tempo => []
  | .tab => ["beats"]
  | .cresc | .rit => ["shape"]

/-- All keys of a kind. -/
def keys (kind : StepKind) : List Text := kind.key :: kind.companions

/-- The keys that count before that of a kind. -/
def earlier (kind : StepKind) : List Text := (all.takeWhile (· ≠ kind)).map key

/-- Whether a step of a kind may have a key. -/
def allows (kind : StepKind) (given : Datum) : Bool :=
  kind.keys.any fun key => given.sameKey (.text key)

theorem key_mem_keys (kind : StepKind) : kind.key ∈ kind.keys := List.mem_cons_self

theorem mem_keys_of_companion {kind : StepKind} {key : Text} (here : key ∈ kind.companions) :
    key ∈ kind.keys := List.mem_cons_of_mem _ here

end StepKind

/-- The kind of a step: that of the first known key that it has. -/
def kindOf? (step : Datum) : Option StepKind :=
  StepKind.all.find? fun kind => (step.field? kind.key).isSome

/-- A step with a key that its kind does not have.  In a step of no kind, every key strays. -/
def Strays (step : Datum) : Prop :=
  ∃ entries, step.entries? = some entries ∧
    ∃ entry ∈ entries, ∀ kind, kindOf? step = some kind → kind.allows entry.1 = false

/-- A step without the keys that its kind does not have. -/
def tidied (step : Datum) : Datum :=
  match kindOf? step with
  | some kind => .mapping ((step.entries?.getD []).filter fun entry => kind.allows entry.1)
  | none => step

/-- A step of a kind has its key, and none that would count before it. -/
theorem keyed_of_kind {step : Datum} {kind : StepKind} (sort : kindOf? step = some kind) :
    ∃ d, Keyed step kind.earlier kind.key d := by
  obtain ⟨here, before, after, order, unused⟩ := List.find?_eq_some_iff_append.1 sort
  obtain ⟨d, found⟩ := Option.isSome_iff_exists.1 here
  -- No kind is listed twice, so what stands before this one are the earlier kinds.
  have once : StepKind.all.Nodup := by decide
  rw [order] at once
  have others : ∀ other ∈ before, other ≠ kind := by
    intro other inside
    exact (List.nodup_append.1 once).2.2 other inside kind List.mem_cons_self
  have same : kind.earlier = before.map StepKind.key := by
    unfold StepKind.earlier
    rw [order, List.takeWhile_append_of_pos (by simpa using others),
      List.takeWhile_cons_of_neg (by simp), List.append_nil]
  refine ⟨d, found, ?_⟩
  rw [same]
  simpa using unused

/-! ## §2. Reading without stray keys. -/

theorem sameKey_text {d : Datum} {t : Text} : d.sameKey (.text t) = true ↔ d = .text t := by
  cases d <;> simp [Datum.sameKey]

theorem StepKind.allows_text {kind : StepKind} {t : Text} :
    kind.allows (.text t) = true ↔ t ∈ kind.keys := by
  simp [StepKind.allows, sameKey_text]

section Kind

variable {step : Datum} {kind : StepKind}

theorem tidied_of_kind (sort : kindOf? step = some kind) :
    tidied step = .mapping ((step.entries?.getD []).filter fun entry => kind.allows entry.1) := by
  unfold tidied
  rw [sort]

/-- A tidied step has the keys of its kind, as they were, and no others. -/
theorem field?_tidied (sort : kindOf? step = some kind) (key : Text) :
    (tidied step).field? key = if key ∈ kind.keys then step.field? key else none := by
  obtain ⟨d, found, -⟩ := keyed_of_kind sort
  obtain ⟨entries, mapping⟩ := turned_of_field found
  have known : step.entries? = some entries := by
    unfold Datum.entries?
    rw [mapping]
  rw [tidied_of_kind sort, known]
  show Datum.lookup? (.text key) (entries.filter fun entry => kind.allows entry.1) = _
  unfold Datum.field? Datum.lookup?
  rw [known, List.find?_filter]
  split
  · next here =>
    -- The key itself is allowed, so the filter loses none of its entries.
    have same : (fun entry : Datum × Datum => decide (kind.allows entry.1 = true ∧
        entry.1.sameKey (.text key) = true)) = fun entry => entry.1.sameKey (.text key) := by
      funext entry
      rw [Bool.eq_iff_iff, decide_eq_true_iff, sameKey_text]
      constructor
      · exact And.right
      · intro named
        exact ⟨named ▸ StepKind.allows_text.2 here, named⟩
    rw [same]
    rfl
  · next absent =>
    rw [Option.map_eq_none_iff, List.find?_eq_none]
    intro entry _ both
    obtain ⟨allowed, named⟩ := decide_eq_true_iff.1 both
    rw [sameKey_text.1 named] at allowed
    exact absent (StepKind.allows_text.1 allowed)

theorem keyed_tidied (sort : kindOf? step = some kind) {d : Datum}
    (keyed : Keyed step kind.earlier kind.key d) : Keyed (tidied step) kind.earlier kind.key d := by
  constructor
  · rw [field?_tidied sort, if_pos kind.key_mem_keys]
    exact keyed.1
  · intro other here
    rw [field?_tidied sort, keyed.2 other here]
    exact ite_self none

/-- A tidied step keeps what its kind states besides. -/
theorem companion_tidied (sort : kindOf? step = some kind) {key : Text}
    (here : key ∈ kind.companions) : (tidied step).field? key = step.field? key := by
  rw [field?_tidied sort, if_pos (StepKind.mem_keys_of_companion here)]

/-- A step is read without its stray keys. -/
theorem Step.read_tidied (names : Names) (number : Nat) (step : Datum) :
    Step.read names number (tidied step) = Step.read names number step := by
  cases sort : kindOf? step with
  | none =>
    unfold tidied
    rw [sort]
  | some kind =>
    obtain ⟨d, keyed⟩ := keyed_of_kind sort
    have keyed' := keyed_tidied sort keyed
    cases kind with
    | play => rw [read_keyed [] keyed rfl, read_keyed [] keyed' rfl]
    | rest => rw [read_keyed [_] keyed rfl, read_keyed [_] keyed' rfl]
    | tab =>
      rw [read_keyed [_, _] keyed rfl, read_keyed [_, _] keyed' rfl,
        companion_tidied sort List.mem_cons_self]
    | cresc =>
      rw [read_keyed [_, _, _] keyed rfl, read_keyed [_, _, _] keyed' rfl]
      unfold shapeOf
      rw [companion_tidied sort List.mem_cons_self]
    | rit =>
      rw [read_keyed [_, _, _, _] keyed rfl, read_keyed [_, _, _, _] keyed' rfl]
      unfold shapeOf
      rw [companion_tidied sort List.mem_cons_self]
    | tempo => rw [read_keyed [_, _, _, _, _] keyed rfl, read_keyed [_, _, _, _, _] keyed' rfl]

/-- A tidied step is of the same kind. -/
theorem kindOf?_tidied (sort : kindOf? step = some kind) : kindOf? (tidied step) = some kind := by
  obtain ⟨here, before, after, order, unused⟩ := List.find?_eq_some_iff_append.1 sort
  refine List.find?_eq_some_iff_append.2 ⟨?_, before, after, order, ?_⟩
  · rw [field?_tidied sort, if_pos kind.key_mem_keys]
    exact here
  · intro other inside
    rw [field?_tidied sort]
    split
    · exact unused other inside
    · rfl

/-- Nothing strays in a tidied step. -/
theorem not_strays_tidied (sort : kindOf? step = some kind) : ¬Strays (tidied step) := by
  rintro ⟨entries, known, entry, inside, strays⟩
  have allowed := strays kind (kindOf?_tidied sort)
  rw [tidied_of_kind sort] at known
  cases known
  rw [(List.mem_filter.1 inside).2] at allowed
  cases allowed

/-- A step of no kind is refused. -/
theorem Step.read_of_no_kind {names : Names} {number : Nat} (sort : kindOf? step = none)
    {entries : List (Datum × Datum)} (known : step.entries? = some entries) :
    Step.read names number step = .error (.unknownStep number step) := by
  have mapping : step.turned = .mapping entries := by
    unfold Datum.entries? at known
    split at known
    · next shape =>
      cases known
      exact shape
    · cases known
  have unused : ∀ kind ∈ StepKind.all, step.field? kind.key = none := by
    simpa using List.find?_eq_none.1 sort
  simp only [StepKind.all, List.forall_mem_cons] at unused
  obtain ⟨play, rest, tab, cresc, rit, tempo, -⟩ := unused
  simp only [StepKind.key] at play rest tab cresc rit tempo
  rw [read_eq_first mapping]
  simp [readers, play, rest, tab, cresc, rit, tempo]

end Kind

/-! ## §3. Performing with stray keys. -/

variable {γ : Type} [ChanceSource γ]

/-- Steps are performed in two parts. -/
theorem performSteps_append (names : Names) (number : Nat) (before rest : List Datum) :
    (performSteps names number (before ++ rest) : Play γ Unit) =
      (do performSteps names number before; performSteps names (number + before.length) rest) := by
  induction before generalizing number with
  | nil => rfl
  | cons step before ih =>
    have count : number + (step :: before).length = number + 1 + before.length := by
      rw [List.length_cons]
      omega
    show (liftM (Step.read names number step) >>= fun s => s.perform >>= fun _ =>
        performSteps names (number + 1) (before ++ rest)) =
      (liftM (Step.read names number step) >>= fun s => s.perform >>= fun _ =>
        performSteps names (number + 1) before) >>= fun _ => performSteps names _ rest
    rw [count, ih]
    simp only [bind_assoc]

/-- A score up to one of its steps: all patterns are compiled, and the steps before it performed. -/
def performBefore (score : Datum) (before : List Datum) : Play γ Names := do
  let patterns ← compiled score
  let chords ← score.fieldOr "chords" (.mapping [])
  performSteps ⟨patterns, chords⟩ 1 before
  return ⟨patterns, chords⟩

/-- A score from a step on that has a stray key: a step of no kind is refused, and any other is
performed without the key. -/
def performAtStray (names : Names) (number : Nat) (step : Datum) (after : List Datum) :
    Play γ Unit :=
  match kindOf? step with
  | none => throw (.unknownStep number step)
  | some _ => performSteps names number (tidied step :: after)

/-- A score is performed up to a step, and from there on. -/
theorem perform_split {score : Datum} {before rest : List Datum}
    (listed : score.fieldOr "score" (.list []) >>= Datum.elements = .ok (before ++ rest)) :
    (perform score : Play γ Unit) =
      performBefore score before >>= fun names => performSteps names (before.length + 1) rest := by
  rw [perform_eq, listed]
  unfold performBefore
  show (compiled score >>= fun patterns => _ >>= fun chords =>
    performSteps ⟨patterns, chords⟩ 1 (before ++ rest)) = _
  simp only [performSteps_append, bind_assoc, pure_bind, Nat.add_comm 1]

theorem performSteps_stray {step : Datum} (strays : Strays step) (names : Names) (number : Nat)
    (after : List Datum) :
    (performSteps names number (step :: after) : Play γ Unit) =
      performAtStray names number step after := by
  unfold performAtStray
  cases sort : kindOf? step with
  | none =>
    obtain ⟨entries, known, -⟩ := strays
    unfold performSteps
    rw [Step.read_of_no_kind sort known]
    rfl
  | some kind =>
    unfold performSteps
    rw [Step.read_tidied]

/-- A performance that is refused by a mistake in the settings. -/
def Misconfigured {α : Type} (result : Except Fault α) : Prop :=
  ∃ f, result = .error f ∧ f.kind.isConfiguration = true

theorem misconfigured_bind {σ α β : Type} (act : Act σ α) (next : α → Act σ β) (desk : Desk σ) :
    Misconfigured ((act >>= next).start desk).1 ↔
      Misconfigured (act.start desk).1 ∨ ∃ a, (act.start desk).1 = .ok a ∧
        Misconfigured ((next a).start (act.start desk).2).1 := by
  rw [Act.start_bind]
  cases act.start desk with
  | mk outcome reached => cases outcome <;> simp [Misconfigured]

/-- A step that is unknown is a mistake in the settings, if it can be shown. -/
theorem misconfigured_unknownStep {number : Nat} {step : Datum} :
    Misconfigured (.error (.unknownStep number step) : Except Fault Unit) ↔
      (Fault.unknownStep number step).wording.isWritable = true := by
  have kind : (Fault.unknownStep number step).kind =
      if (Fault.unknownStep number step).wording.isWritable then .configuration else .value := rfl
  constructor
  · rintro ⟨f, ⟨rfl⟩, config⟩
    rw [kind] at config
    split at config
    · next writable => exact writable
    · cases config
  · intro writable
    exact ⟨_, rfl, by rw [kind, if_pos writable]; rfl⟩

/-- A score with a stray key is performed up to the step that has it; then the step is refused if it
is of no kind, and performed without the key if it is of some.  So such a score is refused by a
mistake in the settings exactly if it is before this step, or if the step is of no kind and can be
shown, or if the score is refused without the key as well. -/
theorem stray_key {score step : Datum} {before after : List Datum}
    (listed : score.fieldOr "score" (.list []) >>= Datum.elements = .ok (before ++ step :: after))
    (strays : Strays step) (desk : Desk (Player γ)) :
    let begun := (performBefore score before).start desk
    let number := before.length + 1
    (perform score).start desk =
        (performBefore score before >>= fun names =>
          performAtStray names number step after).start desk ∧
      (kindOf? step ≠ none → ¬Strays (tidied step)) ∧
      (Misconfigured ((perform score).start desk).1 ↔
        Misconfigured begun.1 ∨ ∃ names, begun.1 = .ok names ∧
          match kindOf? step with
          | none => (Fault.unknownStep number step).wording.isWritable = true
          | some _ =>
            Misconfigured
              ((performSteps names number (tidied step :: after)).start begun.2).1) := by
  intro begun number
  have whole : (perform score : Play γ Unit) = performBefore score before >>= fun names =>
      performAtStray names number step after := by
    rw [perform_split listed]
    exact bind_congr fun names => performSteps_stray strays names number after
  refine ⟨by rw [whole], ?_, ?_⟩
  · intro some_
    obtain ⟨kind, sort⟩ := Option.ne_none_iff_exists'.1 some_
    exact not_strays_tidied sort
  · rw [whole, misconfigured_bind]
    unfold performAtStray
    cases sort : kindOf? step with
    | none =>
      show Misconfigured begun.1 ∨ (∃ names, begun.1 = .ok names ∧
        Misconfigured (.error (.unknownStep number step) : Except Fault Unit)) ↔ _
      rw [misconfigured_unknownStep]
    | some kind => rfl

/-- A tab of two beats, if its beats were spelled right. -/
def misspeltStep : Datum := .mapping [(.text "tab", .text "|0-|"), (.text "beat", .whole 2)]

/-- A step of no kind. -/
def singStep : Datum := .mapping [(.text "sing", .whole 1)]

/-- A score is refused at a step of no kind, but not at one with a misspelt companion. -/
theorem singStep_refused :
    ∃ p, oneString = .ok p ∧ Strays singStep ∧
      Misconfigured ((perform (smallScore [misspeltStep, singStep])).start ⟨p, #[]⟩).1 := by
  have seen : (oneString.toOption.map fun p =>
      ((performBefore (smallScore [misspeltStep, singStep]) [misspeltStep]).start
        ⟨p, #[]⟩).1.toBool) = some true := by
    decide +kernel
  obtain ⟨p, created, well⟩ := exists_ok_of_seen seen
  obtain ⟨names, begun⟩ := exists_ok_of_toBool well
  have strays : Strays singStep := ⟨_, rfl, _, List.mem_cons_self, fun _ sort => nomatch sort⟩
  have shows : (Fault.unknownStep 2 singStep).wording.isWritable = true := by decide +kernel
  have listed :
      (smallScore [misspeltStep, singStep]).fieldOr "score" (.list []) >>= Datum.elements =
      .ok ([misspeltStep] ++ singStep :: []) := rfl
  have refused := (stray_key listed strays ⟨p, #[]⟩).2.2.2
  exact ⟨p, created, strays, refused (.inr ⟨names, begun, shows⟩)⟩

/-- The misspelt key strays, and the tab is played, with the four beats of a whole measure. -/
theorem misspelt_performed :
    ∃ p, oneString = .ok p ∧ Strays misspeltStep ∧
      ((perform (smallScore [misspeltStep])).start ⟨p, #[]⟩).1 = .ok () ∧
      ((perform (smallScore [misspeltStep])).start ⟨p, #[]⟩).2.state.voice.clock.integer? =
        some 768 := by
  have seen : (oneString.toOption.map fun p =>
      let performed := (perform (smallScore [misspeltStep])).start ⟨p, #[]⟩
      (performed.1.toBool, performed.2.state.voice.clock.integer?)) = some (true, some 768) := by
    decide +kernel
  obtain ⟨p, created, seen⟩ := exists_ok_of_seen seen
  simp only [Prod.mk.injEq] at seen
  obtain ⟨well, clock⟩ := seen
  obtain ⟨⟨⟩, performed⟩ := exists_ok_of_toBool well
  have sort : kindOf? misspeltStep = some .tab := by decide +kernel
  refine ⟨p, created, ⟨_, rfl, (.text "beat", .whole 2), by simp, ?_⟩, performed, clock⟩
  intro kind same
  rw [sort] at same
  cases same
  decide +kernel

end Plectrum.Score
