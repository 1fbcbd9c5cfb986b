/-
  Plectrum.Proofs.ScoreCalls
  ──────────────────────────
  **A score is the sequence of its calls.**

  `Means` says which call a step stands for, from what is written in the step alone: the key
  that counts, and the shapes of its value.  Reading a step finds that call whenever there is
  one, and a step that stands for no call cannot be read.  So performing a score makes the calls
  of its steps in order, up to the first step that stands for none, and ends as these calls end.
  One shape does not stand for the call that it spells: no measures of rest are one measure.

  Main results:
    * `Score.Step.read_iff` — reading a step is finding the call that it stands for;
    * `Score.performSteps_calls` — performing steps is making their calls, step by step;
    * `Score.perform_calls` — so a score whose patterns compile is exactly its calls.
-/
import Plectrum.Proofs.Atomicity
import Plectrum.Proofs.Moves
import Plectrum.Proofs.Tracks
import Plectrum.Score.Render

namespace Plectrum.Score

/-! ## §1. What steps stand for. -/

/-- A step has a key, and none of those that would count `instead`. -/
def Keyed (step : Datum) (instead : List Text) (key : Text) (d : Datum) : Prop :=
  step.field? key = some d ∧ ∀ other ∈ instead, step.field? other = none

/-- The chord that a step asks for: a text names a chord of the book, or spells one. -/
inductive ChordFor (chords : Datum) : Datum → Datum → Prop where
  | named {t : Text} {book : List (Datum × Datum)} {chord : Datum}
      (known : chords.entries? = some book) (found : Datum.lookup? (.text t) book = some chord) :
    ChordFor chords (.text t) chord
  | unnamed {t : Text} {book : List (Datum × Datum)}
      (known : chords.entries? = some book) (missing : Datum.lookup? (.text t) book = none) :
    ChordFor chords (.text t) (.text t)
  | spelled {d : Datum} (noText : d.text? = none) : ChordFor chords d d

/-- What is written for a play step: the name of a pattern, and chords. -/
inductive Entries : Datum → List Datum → Prop where
  | name (t : Text) : Entries (.text t) [.text t]
  | nothing {d : Datum} (noText : d.text? = none) (empty : d.isNothing = true) : Entries d []
  | items {d : Datum} {parts : List Datum} (noText : d.text? = none)
      (something : d.isNothing = false) (each : d.elements = .ok parts) : Entries d parts

/-- The pattern with a name. -/
def PatternFor (patterns : List (Datum × Pattern)) (name : Datum) (pattern : Pattern) : Prop :=
  name.isKey = true ∧ ∃ entry, patterns.find? (fun entry => entry.1.sameKey name) = some entry ∧
    entry.2 = pattern

/-- What is written for a ramp: a factor, for one measure, or a factor and measures. -/
inductive RampFor : Datum → Binary64 → Int → Prop where
  | factor {d : Datum} {q : Quantity} {factor : Binary64} (alone : d.turned = .number q)
      (reads : d.readDouble = .ok factor) : RampFor d factor 1
  | both {d first second : Datum} {factor : Binary64} {measures : Int}
      (two : d.turned = .list [first, second]) (reads : first.readDouble = .ok factor)
      (counts : second.readWhole = .ok measures) : RampFor d factor measures

/-- The call that a step stands for. -/
inductive Means (names : Names) (step : Datum) : Move → Prop where
  /-- An empty play step is a measure of silence. -/
  | silence {d : Datum} (keyed : Keyed step [] "play" d) (entries : Entries d []) :
    Means names step (.play .silence [])
  | play {d name : Datum} {given chords : List Datum} {pattern : Pattern}
      (keyed : Keyed step [] "play" d) (entries : Entries d (name :: given))
      (known : PatternFor names.patterns name pattern)
      (looked : List.Forall₂ (ChordFor names.chords) given chords) :
    Means names step (.play (.pattern pattern) chords)
  | rest {d : Datum} {measures : Int} (keyed : Keyed step ["play"] "rest" d)
      (something : d.isNothing = false) (counts : d.readWhole = .ok measures) :
    Means names step (.rest (.whole measures))
  /-- Nothing stands for one measure, and zero counts as nothing. -/
  | restOne {d : Datum} (keyed : Keyed step ["play"] "rest" d) (nothing : d.isNothing = true) :
    Means names step (.rest (.whole 1))
  | tab {d : Datum} (keyed : Keyed step ["play", "rest"] "tab" d) :
    Means names step (.tab [d] ((step.field? "beats").getD .null))
  | cresc {d : Datum} {factor : Binary64} {measures : Int}
      (keyed : Keyed step ["play", "rest", "tab"] "cresc" d) (ramp : RampFor d factor measures) :
    Means names step (.cresc (ofDouble factor) (.whole measures) (shapeOf step))
  | rit {d : Datum} {factor : Binary64} {measures : Int}
      (keyed : Keyed step ["play", "rest", "tab", "cresc"] "rit" d)
      (ramp : RampFor d factor measures) :
    Means names step (.rit (ofDouble factor) (.whole measures) (shapeOf step))
  | tempo {d : Datum} {bpm : Binary64}
      (keyed : Keyed step ["play", "rest", "tab", "cresc", "rit"] "tempo" d)
      (reads : d.readDouble = .ok bpm) : Means names step (.tempo (ofDouble bpm) .null)

/-- The call of a step that has been read. -/
def Step.move : Step → Move
  | .silence => .play .silence []
  | .play pattern chords => .play (.pattern pattern) chords
  | .rest measures => .rest (.whole measures)
  | .tab text beats => .tab [text] beats
  | .cresc factor measures shape => .cresc (ofDouble factor) (.whole measures) shape
  | .rit factor measures shape => .rit (ofDouble factor) (.whole measures) shape
  | .tempo bpm => .tempo (ofDouble bpm) .null

theorem Step.perform_eq {γ : Type} [ChanceSource γ] (s : Step) :
    (s.perform : Play γ Unit) = s.move.act := by
  cases s <;> rfl

/-! ## §2. Reading the parts of a step. -/

/-- What has a field is a mapping. -/
theorem turned_of_field {d value : Datum} {key : Text} (h : d.field? key = some value) :
    ∃ entries, d.turned = .mapping entries := by
  unfold Datum.field? Datum.entries? at h
  cases shape : d.turned with
  | mapping entries => exact ⟨entries, rfl⟩
  | _ =>
    rw [shape] at h
    cases h

/-- A text is looked up in a book of chords, and stands for itself if it is not there. -/
theorem chordOf_text {names : Names} {book : List (Datum × Datum)}
    (known : names.chords.entries? = some book) (t : Text) :
    chordOf names (.text t) = .ok ((Datum.lookup? (.text t) book).getD (.text t)) := by
  unfold chordOf Datum.entries
  rw [known]
  rfl

/-- A chord is read exactly as what a step asks for. -/
theorem chordOf_iff {names : Names} {d chord : Datum} :
    chordOf names d = .ok chord ↔ ChordFor names.chords d chord := by
  constructor
  · intro read
    cases d with
    | text t =>
      cases known : names.chords.entries? with
      | none =>
        unfold chordOf Datum.entries at read
        rw [known] at read
        cases read
      | some book =>
        rw [chordOf_text known] at read
        cases found : Datum.lookup? (.text t) book with
        | none =>
          rw [found] at read
          cases read
          exact .unnamed known found
        | some chord' =>
          rw [found] at read
          cases read
          exact .named known found
    | _ =>
      cases read
      exact .spelled rfl
  · intro asked
    cases asked with
    | named known found =>
      rw [chordOf_text known, found]
      rfl
    | unnamed known missing =>
      rw [chordOf_text known, missing]
      rfl
    | spelled noText =>
      cases d with
      | text t => cases noText
      | _ => rfl

theorem patternOf_iff {names : Names} {number : Nat} {name : Datum} {pattern : Pattern} :
    patternOf names number name = .ok pattern ↔ PatternFor names.patterns name pattern := by
  unfold patternOf PatternFor
  cases key : name.isKey with
  | false =>
    constructor
    · intro read
      cases read
    · intro known
      cases known.1
  | true =>
    cases found : names.patterns.find? fun entry => entry.1.sameKey name with
    | none =>
      constructor
      · intro read
        cases read
      · rintro ⟨-, entry, there, -⟩
        cases there
    | some entry =>
      constructor
      · intro read
        exact ⟨rfl, entry, rfl, Except.ok.inj read⟩
      · rintro ⟨-, _, ⟨rfl⟩, rfl⟩
        rfl

/-- What is read of the parts of a play step: silence, or a pattern and chords. -/
def readParts (names : Names) (number : Nat) : List Datum → Except Fault Step
  | [] => .ok .silence
  | name :: given => do return .play (← patternOf names number name) (← given.mapM (chordOf names))

/-- A play step is read from what is written for it. -/
theorem readPlay_eq {names : Names} {number : Nat} {d : Datum} {parts : List Datum}
    (entries : Entries d parts) : readPlay names number d = readParts names number parts := by
  have other : d.text? = none → readPlay names number d = (do
      let parts ← if d.isNothing then pure [] else d.elements
      readParts names number parts) := by
    intro noText
    cases d with
    | text t => cases noText
    | _ => rfl
  cases entries with
  | name t => rfl
  | nothing noText empty =>
    rw [other noText, if_pos empty]
    rfl
  | items noText something each =>
    rw [other noText, if_neg (by rw [something]; decide), each]
    rfl

/-- Where nothing can be taken for the parts of a play step, it cannot be read. -/
theorem readPlay_error {d : Datum} (names : Names) (number : Nat)
    (unreadable : ∀ parts, ¬Entries d parts) : ∃ f, readPlay names number d = .error f := by
  cases noText : d.text? with
  | some t =>
    cases d with
    | text t => exact (unreadable _ (.name t)).elim
    | _ => cases noText
  | none =>
    cases empty : d.isNothing with
    | true => exact (unreadable _ (.nothing noText empty)).elim
    | false =>
      cases each : d.elements with
      | ok parts => exact (unreadable _ (.items noText empty each)).elim
      | error f =>
        refine ⟨f, ?_⟩
        unfold readPlay
        cases d with
        | text t => cases noText
        | _ =>
          dsimp only
          rw [if_neg (by rw [empty]; decide), each]
          rfl

/-- A ramp is read exactly as what is written for it. -/
theorem readRamp_iff {key : String} {d : Datum} {factor : Binary64} {measures : Int} :
    readRamp key d = .ok (factor, measures) ↔ RampFor d factor measures := by
  unfold readRamp
  constructor
  · intro read
    split at read
    · next shape =>
      obtain ⟨x, reads, same⟩ := bind_ok read
      cases same
      exact .factor shape reads
    · next shape =>
      obtain ⟨x, reads, same⟩ := bind_ok read
      cases same
      exact .factor shape reads
    · next shape =>
      obtain ⟨x, reads, read⟩ := bind_ok read
      obtain ⟨n, counts, same⟩ := bind_ok read
      cases same
      exact .both shape reads counts
    · cases read
  · intro ramp
    cases ramp with
    | @factor q _ alone reads =>
      rw [alone, reads]
      cases q <;> rfl
    | both two reads counts =>
      rw [two]
      dsimp only
      rw [reads, counts]
      rfl

/-! ## §3. Reading a step. -/

section Reading

variable {names : Names} {number : Nat} {step : Datum} {m : Move} {s : Step}

/-- How the value of each key is read, in the order in which the keys count. -/
def readers (names : Names) (number : Nat) (step : Datum) :
    List (Text × (Datum → Except Fault Step)) :=
  [("play", readPlay names number),
   ("rest", fun d => if d.isNothing then .ok (.rest 1) else do return .rest (← d.readWhole)),
   ("tab", fun d => .ok (.tab d ((step.field? "beats").getD .null))),
   ("cresc", fun d => do
      let (factor, measures) ← readRamp "cresc" d
      return .cresc factor measures (shapeOf step)),
   ("rit", fun d => do
      let (factor, measures) ← readRamp "rit" d
      return .rit factor measures (shapeOf step)),
   ("tempo", fun d => do return .tempo (← d.readDouble))]

/-- A mapping is read by the first key that it has. -/
theorem Step.read_eq_first {entries : List (Datum × Datum)} (mapping : step.turned = .mapping entries) :
    Step.read names number step =
      ((readers names number step).findSome? fun (key, read) => (step.field? key).map read).getD
        (.error (.unknownStep number step)) := by
  unfold Step.read readers
  rw [mapping]
  -- Both sides try the keys in the same order.
  dsimp only [List.findSome?]
  cases step.field? "play" with
  | some d => rfl
  | none =>
    cases step.field? "rest" with
    | some d => rfl
    | none =>
      cases step.field? "tab" with
      | some d => rfl
      | none =>
        cases step.field? "cresc" with
        | some d => rfl
        | none =>
          cases step.field? "rit" with
          | some d => rfl
          | none => cases step.field? "tempo" <;> rfl

/-- So a step is read by its key, if it has none of the keys before. -/
theorem Step.read_keyed {key : Text} {d : Datum} {read : Datum → Except Fault Step}
    {after : List (Text × (Datum → Except Fault Step))}
    (before : List (Text × (Datum → Except Fault Step)))
    (keyed : Keyed step (before.map Prod.fst) key d)
    (order : readers names number step = before ++ (key, read) :: after) :
    Step.read names number step = read d := by
  obtain ⟨entries, mapping⟩ := turned_of_field keyed.1
  have unused : (before.findSome? fun (key, read) => (step.field? key).map read) = none := by
    rw [List.findSome?_eq_none_iff]
    intro entry here
    have absent := keyed.2 entry.1 (List.mem_map_of_mem here)
    show (step.field? entry.1).map entry.2 = none
    rw [absent]
    rfl
  rw [read_eq_first mapping, order, List.findSome?_append, unused, Option.none_or,
    List.findSome?_cons]
  dsimp only
  rw [keyed.1]
  rfl

/-- A step with none of the keys cannot be read. -/
theorem Step.read_unkeyed
    (unused : ∀ entry ∈ readers names number step, step.field? entry.1 = none) :
    ∃ f, Step.read names number step = .error f := by
  cases shape : step.turned with
  | mapping entries =>
    have nothing : ((readers names number step).findSome? fun (key, read) =>
        (step.field? key).map read) = none := by
      rw [List.findSome?_eq_none_iff]
      intro entry here
      show (step.field? entry.1).map entry.2 = none
      rw [unused entry here]
      rfl
    exact ⟨_, by rw [read_eq_first shape, nothing]; rfl⟩
  | _ =>
    unfold Step.read
    rw [shape]
    exact ⟨_, rfl⟩

/-- A play step that has been read stands for a call of play. -/
theorem means_of_play {d : Datum} (keyed : Keyed step [] "play" d)
    (read : readPlay names number d = .ok s) : Means names step s.move := by
  by_cases readable : ∃ parts, Entries d parts
  · obtain ⟨parts, entries⟩ := readable
    rw [readPlay_eq entries] at read
    cases parts with
    | nil =>
      cases read
      exact .silence keyed entries
    | cons name given =>
      obtain ⟨pattern, known, read⟩ := bind_ok read
      obtain ⟨chords, looked, same⟩ := bind_ok read
      cases same
      apply Means.play keyed entries (patternOf_iff.1 known)
      exact (mapM_ok_iff_forall₂.1 looked).imp fun _ _ => chordOf_iff.1
  · obtain ⟨f, failed⟩ := readPlay_error names number (not_exists.1 readable)
    rw [failed] at read
    cases read

/-- A step that has been read stands for the call that was read from it. -/
theorem Step.means_of_read (read : Step.read names number step = .ok s) :
    Means names step s.move := by
  -- The first of the keys that the step has decides.
  cases play : step.field? "play" with
  | some d =>
    have keyed : Keyed step [] "play" d := ⟨play, fun _ here => nomatch here⟩
    rw [read_keyed [] keyed rfl] at read
    exact means_of_play keyed read
  | none =>
  cases rest : step.field? "rest" with
  | some d =>
    have keyed : Keyed step ["play"] "rest" d := ⟨rest, by simp [play]⟩
    rw [read_keyed [_] keyed rfl] at read
    split at read
    · next nothing =>
      cases read
      exact .restOne keyed nothing
    · next something =>
      obtain ⟨measures, counts, same⟩ := bind_ok read
      cases same
      exact .rest keyed (Bool.eq_false_iff.2 something) counts
  | none =>
  cases tab : step.field? "tab" with
  | some d =>
    have keyed : Keyed step ["play", "rest"] "tab" d := ⟨tab, by simp [play, rest]⟩
    rw [read_keyed [_, _] keyed rfl] at read
    cases read
    exact .tab keyed
  | none =>
  cases cresc : step.field? "cresc" with
  | some d =>
    have keyed : Keyed step ["play", "rest", "tab"] "cresc" d := ⟨cresc, by simp [play, rest, tab]⟩
    rw [read_keyed [_, _, _] keyed rfl] at read
    obtain ⟨⟨factor, measures⟩, ramp, same⟩ := bind_ok read
    cases same
    exact .cresc keyed (readRamp_iff.1 ramp)
  | none =>
  cases rit : step.field? "rit" with
  | some d =>
    have keyed : Keyed step ["play", "rest", "tab", "cresc"] "rit" d :=
      ⟨rit, by simp [play, rest, tab, cresc]⟩
    rw [read_keyed [_, _, _, _] keyed rfl] at read
    obtain ⟨⟨factor, measures⟩, ramp, same⟩ := bind_ok read
    cases same
    exact .rit keyed (readRamp_iff.1 ramp)
  | none =>
  cases tempo : step.field? "tempo" with
  | some d =>
    have keyed : Keyed step ["play", "rest", "tab", "cresc", "rit"] "tempo" d :=
      ⟨tempo, by simp [play, rest, tab, cresc, rit]⟩
    rw [read_keyed [_, _, _, _, _] keyed rfl] at read
    obtain ⟨bpm, reads, same⟩ := bind_ok read
    cases same
    exact .tempo keyed reads
  | none =>
    obtain ⟨f, failed⟩ := read_unkeyed (show ∀ entry ∈ readers names number step, step.field? entry.1 = none
      by simp [readers, play, rest, tab, cresc, rit, tempo])
    rw [failed] at read
    cases read

/-- A step that stands for a call is read as that call. -/
theorem Step.read_of_means (number : Nat) (means : Means names step m) :
    ∃ s, Step.read names number step = .ok s ∧ s.move = m := by
  cases means with
  | silence keyed entries =>
    refine ⟨.silence, ?_, rfl⟩
    rw [read_keyed [] keyed rfl, readPlay_eq entries]
    rfl
  | @play _ _ _ chords pattern keyed entries known looked =>
    refine ⟨.play pattern chords, ?_, rfl⟩
    rw [read_keyed [] keyed rfl, readPlay_eq entries]
    show (patternOf names number _ >>= _) = _
    rw [patternOf_iff.2 known, mapM_ok_iff_forall₂.2 (looked.imp fun _ _ => chordOf_iff.2)]
    rfl
  | @rest _ measures keyed something counts =>
    refine ⟨.rest measures, ?_, rfl⟩
    rw [read_keyed [_] keyed rfl]
    rw [something, counts]
    rfl
  | restOne keyed nothing =>
    refine ⟨.rest 1, ?_, rfl⟩
    rw [read_keyed [_] keyed rfl]
    exact if_pos nothing
  | @tab d keyed =>
    refine ⟨.tab d ((step.field? "beats").getD .null), ?_, rfl⟩
    rw [read_keyed [_, _] keyed rfl]
  | @cresc _ factor measures keyed ramp =>
    refine ⟨.cresc factor measures (shapeOf step), ?_, rfl⟩
    rw [read_keyed [_, _, _] keyed rfl]
    rw [readRamp_iff.2 ramp]
    rfl
  | @rit _ factor measures keyed ramp =>
    refine ⟨.rit factor measures (shapeOf step), ?_, rfl⟩
    rw [read_keyed [_, _, _, _] keyed rfl]
    rw [readRamp_iff.2 ramp]
    rfl
  | @tempo _ bpm keyed reads =>
    refine ⟨.tempo bpm, ?_, rfl⟩
    rw [read_keyed [_, _, _, _, _] keyed rfl]
    rw [reads]
    rfl

/-- Reading a step is finding the call that it stands for. -/
theorem Step.read_iff :
    (∃ s, Step.read names number step = .ok s ∧ s.move = m) ↔ Means names step m := by
  constructor
  · rintro ⟨s, read, rfl⟩
    exact means_of_read read
  · exact read_of_means number

/-- A step stands for one call at most. -/
theorem Means.unique {m' : Move} (means : Means names step m) (means' : Means names step m') :
    m = m' := by
  obtain ⟨s, read, rfl⟩ := Step.read_of_means 1 means
  obtain ⟨s', read', rfl⟩ := Step.read_of_means 1 means'
  rw [read] at read'
  cases read'
  rfl

end Reading

/-! ## §4. Performing. -/

/-- The calls of steps, from a number on, up to the first step that stands for none, and how
the steps end when all of these calls go well. -/
inductive Calls (names : Names) : Nat → List Datum → List Move → Except Fault Unit → Prop where
  | nil {number : Nat} : Calls names number [] [] (.ok ())
  | cons {number : Nat} {step : Datum} {steps : List Datum} {m : Move} {moves : List Move}
      {ending : Except Fault Unit} (means : Means names step m)
      (later : Calls names (number + 1) steps moves ending) :
    Calls names number (step :: steps) (m :: moves) ending
  /-- What would come after a step that stands for no call does not count. -/
  | unreadable {number : Nat} {step : Datum} {steps : List Datum} {f : Fault}
      (meaningless : ∀ m, ¬Means names step m) (fault : Step.read names number step = .error f) :
    Calls names number (step :: steps) [] (.error f)

variable {γ : Type} [ChanceSource γ]

/-- Calls on one voice, one after the other. -/
def inOrder (moves : List Move) : Play γ Unit := moves.forM Move.act

/-- Performing steps is making their calls. -/
theorem performSteps_calls (names : Names) (number : Nat) (steps : List Datum) :
    ∃ moves ending, Calls names number steps moves ending ∧
      (performSteps names number steps : Play γ Unit) =
        (do inOrder moves; liftM ending) := by
  -- The steps are read one at a time, so the first that cannot be read ends the calls.
  induction steps generalizing number with
  | nil => exact ⟨[], .ok (), .nil, rfl⟩
  | cons step steps ih =>
    cases read : Step.read names number step with
    | error f =>
      refine ⟨[], .error f, .unreadable ?_ read, ?_⟩
      · intro m means
        obtain ⟨s, well, -⟩ := Step.read_iff.2 means
        rw [read] at well
        cases well
      · unfold performSteps
        rw [read]
        rfl
    | ok s =>
      obtain ⟨moves, ending, calls, same⟩ := ih (number + 1)
      refine ⟨s.move :: moves, ending, .cons (Step.read_iff.1 ⟨s, read, rfl⟩) calls, ?_⟩
      unfold performSteps
      rw [read, same]
      show (s.perform >>= fun _ => inOrder moves >>= fun _ => liftM ending : Play γ Unit) =
        (s.move.act >>= fun _ => inOrder moves) >>= fun _ => liftM ending
      rw [Step.perform_eq, bind_assoc]

/-- Compile the patterns of a score. -/
def compiled {σ : Type} (score : Datum) : Act σ (List (Datum × Pattern)) := do
  compilePatterns (← (← score.fieldOr "patterns" (.mapping [])).entries)

/-- Compiling patterns keeps the state. -/
theorem keeps_compilePatterns {σ : Type} {I : σ → Prop} (entries : List (Datum × Datum)) :
    Act.Keeps I (compilePatterns entries) := by
  induction entries with
  | nil => exact .pure _
  | cons entry entries ih =>
    unfold compilePatterns
    apply Act.Keeps.bind (.lift _)
    intro kind
    apply Act.Keeps.bind
    · unfold compile
      apply Act.Keeps.bind (.lift _)
      intro specs
      apply Act.Keeps.bind (.lift _)
      intro pattern
      exact .bind (.report _ _ _) fun _ => .pure _
    · intro pattern
      exact .bind ih fun _ => .pure _

theorem keeps_compiled {σ : Type} {I : σ → Prop} (score : Datum) :
    Act.Keeps I (compiled score : Act σ _) :=
  .bind (.lift _) fun _ => .bind (.lift _) fun _ => keeps_compilePatterns _

/-- A computation after a computation is lifted as two acts. -/
theorem lift_bind {σ α β : Type} (result : Except Fault α) (next : α → Except Fault β) :
    (liftM (result >>= next) : Act σ β) = liftM result >>= fun a => liftM (next a) := by
  cases result <;> rfl

/-- A mapping has a value at every key, if only a default. -/
theorem exists_fieldOr {d : Datum} {entries : List (Datum × Datum)} (mapping : d.entries = .ok entries)
    (key : Text) (default : Datum) : ∃ value, d.fieldOr key default = .ok value := by
  unfold Datum.fieldOr
  rw [mapping]
  dsimp only [bind, Except.bind]
  split
  · exact ⟨_, rfl⟩
  · exact ⟨_, rfl⟩

/-- A score is performed in parts: its patterns, its chords, and its steps. -/
theorem perform_eq (score : Datum) : (perform score : Play γ Unit) = (do
    let patterns ← compiled score
    let chords ← score.fieldOr "chords" (.mapping [])
    let steps ← liftM (score.fieldOr "score" (.list []) >>= Datum.elements)
    performSteps ⟨patterns, chords⟩ 1 steps) := by
  unfold perform compiled
  simp only [bind_assoc, lift_bind]

/-- A score whose patterns compile is exactly its calls. -/
theorem perform_calls {score : Datum} {patterns : List (Datum × Pattern)}
    {desk ready : Desk (Player γ)}
    (compiles : (compiled score).start desk = (.ok patterns, ready)) :
    ready.state = desk.state ∧ ∃ chords, score.fieldOr "chords" (.mapping []) = .ok chords ∧
      match score.fieldOr "score" (.list []) >>= Datum.elements with
      | .error f => (perform score : Play γ Unit).start desk = (.error f, ready)
      | .ok steps => ∃ moves ending, Calls ⟨patterns, chords⟩ 1 steps moves ending ∧
        (perform score : Play γ Unit).start desk =
          Act.start (do inOrder moves; liftM ending) ready := by
  have kept : ready.state = desk.state := by
    have keeps : Act.Keeps (fun p => p = desk.state) (compiled score : Play γ _) :=
      keeps_compiled score
    have ended := (keeps desk.state rfl).always desk.journal
    rw [show (compiled score).start ⟨desk.state, desk.journal⟩ = _ from compiles] at ended
    exact ended
  -- A score that compiles is a mapping, so all its fields can be looked up.
  obtain ⟨book, mapping⟩ : ∃ book, score.entries = .ok book := by
    cases mapping : score.entries with
    | ok book => exact ⟨book, rfl⟩
    | error f =>
      unfold compiled Datum.fieldOr at compiles
      rw [mapping] at compiles
      cases compiles
  obtain ⟨chords, known⟩ := exists_fieldOr mapping "chords" (.mapping [])
  refine ⟨kept, chords, known, ?_⟩
  rw [perform_eq, Act.start_bind, compiles, known]
  cases listed : score.fieldOr "score" (.list []) >>= Datum.elements with
  | error f => rfl
  | ok steps =>
    obtain ⟨moves, ending, calls, same⟩ := performSteps_calls (γ := γ) ⟨patterns, chords⟩ 1 steps
    exact ⟨moves, ending, calls, congrArg (Act.start · ready) same⟩

/-! ## §5. Two scores. -/

/-- A score with the given steps, a pattern of one stroke, and a chord. -/
def smallScore (steps : List Datum) : Datum :=
  let stroke := Datum.mapping [(.text "pluck", .text "1 1:80")]
  .mapping [(.text "patterns", .mapping [(.text "p", stroke)]),
    (.text "chords", .mapping [(.text "C", .list [.whole 3])]), (.text "score", .list steps)]

/-- A chord by its name and one that is spelled, then silence, and a step that is none. -/
def strayScore : Datum :=
  smallScore [.mapping [(.text "play", .list [.text "p", .text "C", .list [.whole 5]])],
    .mapping [(.text "rest", .null)], .mapping [(.text "sing", .whole 1)],
    .mapping [(.text "play", .null)]]

/-- A score whose only step asks for no measures of rest. -/
def pauseScore : Datum := smallScore [.mapping [(.text "rest", .whole 0)]]

/-- Two measures of music and one of silence, and the step that is none ends the score. -/
theorem strayScore_performed :
    ∃ p patterns ready chords steps moves ending, oneString = .ok p ∧
      (compiled strayScore).start ⟨p, #[]⟩ = (.ok patterns, ready) ∧
      Calls ⟨patterns, chords⟩ 1 steps moves ending ∧
      (perform strayScore).start ⟨p, #[]⟩ = Act.start (do inOrder moves; liftM ending) ready ∧
      ((perform strayScore).start ⟨p, #[]⟩).1.toBool = false ∧
      ((perform strayScore).start ⟨p, #[]⟩).2.state.voice.clock.integer? = some 2304 := by
  have seen : (oneString.toOption.map fun p =>
      let performed := (perform strayScore).start ⟨p, #[]⟩
      (((compiled strayScore).start ⟨p, #[]⟩).1.toBool, performed.1.toBool,
        performed.2.state.voice.clock.integer?)) = some (true, false, some 2304) := by
    decide +kernel
  obtain ⟨p, created, seen⟩ := exists_ok_of_seen seen
  simp only [Prod.mk.injEq] at seen
  obtain ⟨compiles, fails, clock⟩ := seen
  cases compilation : (compiled strayScore).start ⟨p, #[]⟩ with
  | mk outcome ready =>
    rw [compilation] at compiles
    cases outcome with
    | error f => cases compiles
    | ok patterns =>
      obtain ⟨-, chords, -, performed⟩ := perform_calls compilation
      obtain ⟨moves, ending, calls, same⟩ := performed
      exact ⟨p, patterns, ready, chords, _, moves, ending, created, compilation, calls, same,
        fails, clock⟩

/-- No measures of rest are performed as one measure, and the call that asks for none plays
none. -/
theorem pauseScore_rests :
    ∃ p, oneString = .ok p ∧ ((compiled pauseScore).start ⟨p, #[]⟩).1.toBool = true ∧
      ((perform pauseScore).start ⟨p, #[]⟩).2.state.voice.clock.integer? = some 768 ∧
      ((Play.rest (.whole 0)).start ⟨p, #[]⟩).2.state.voice.clock.integer? = some 0 := by
  have seen : (oneString.toOption.map fun p =>
      (((compiled pauseScore).start ⟨p, #[]⟩).1.toBool,
        ((perform pauseScore).start ⟨p, #[]⟩).2.state.voice.clock.integer?,
        ((Play.rest (.whole 0)).start ⟨p, #[]⟩).2.state.voice.clock.integer?)) =
      some (true, some 768, some 0) := by
    decide +kernel
  obtain ⟨p, created, seen⟩ := exists_ok_of_seen seen
  simp only [Prod.mk.injEq] at seen
  obtain ⟨compiles, performed, called⟩ := seen
  exact ⟨p, created, compiles, performed, called⟩

end Plectrum.Score
