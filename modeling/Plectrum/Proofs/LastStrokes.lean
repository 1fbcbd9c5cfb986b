/-
  Plectrum.Proofs.LastStrokes
  ───────────────────────────
  **The last stroke on a string decides.**

  A pattern may name a string many times, and strings that the voice does not have.  What a
  measure of it leaves on a string depends on the last stroke that names the string: it sounds
  the pitch of its fret after a stroke with force, and nothing after a mute.  A string that no
  stroke names, or that the chord leaves alone, goes on as before, and nothing is recorded for
  it.

  `Aim` is what a stroke asks of a string, and `Touch` what comes of it, without its time and
  its force.  The touches of a measure follow from its aims and from the strings that sound
  before it; the acts are shown to record just these, and the rest is about lists.

  Main results:
    * `Play.ensures_strike_answered` — a strike records the touches of its aim;
    * `Bank.after_last`, `Bank.after_untouched` — what a list of aims leaves on a string;
    * `Play.play_within` — strokes beyond the strings have no effect at all;
    * `Session.last_stroke` — what a measure of a pattern leaves and records.
-/
import Plectrum.Proofs.OpenPitches
import Plectrum.Proofs.Playable
import Plectrum.Proofs.SameNotes

namespace Plectrum

/-! ## §1. Aims and touches. -/

/-- What a stroke asks of a string: the place of the string, lowest first, the pitch that the
chord holds there, and the force. -/
structure Aim where
  index : Nat
  pitch : Quantity
  velocity : Nat
  deriving DecidableEq

namespace Aim

/-- What a string sounds after a stroke: nothing without force. -/
def leaves (a : Aim) : Option Quantity := if a.velocity = 0 then none else some a.pitch

/-- What a stroke asks of strings with some roots, over a chord.  Strings that are not there and
strings that the chord leaves alone are asked nothing. -/
def ofStroke? (roots : List Quantity) (frets : List (Option Int)) (s : Stroke) : Option Aim :=
  match Play.stringIndex? roots.length s.string with
  | none => none
  | some index =>
    match frets[index]?, roots[index]? with
    | some (some fret), some root =>
      (root.add (.whole fret)).toOption.map fun pitch => ⟨index, pitch, s.velocity⟩
    | _, _ => none

end Aim

/-- What happens on a string: a pitch starts there, or stops. -/
structure Touch where
  index : Nat
  pitch : Quantity
  starts : Bool
  deriving DecidableEq

/-- The event that a touch is recorded as.  If draws are not fair, a start may have strayed down
to silence. -/
inductive Touch.Seen (channel : Datum) (fair : Prop) : Touch → Event → Prop where
  | stop (index : Nat) (tick : Int) (pitch : Quantity) :
    Seen channel fair ⟨index, pitch, false⟩ (.stop channel tick pitch)
  | start (index : Nat) (tick : Int) (pitch : Quantity) {velocity : Int} (low : 1 ≤ velocity)
      (high : velocity ≤ 127) :
    Seen channel fair ⟨index, pitch, true⟩ (.start channel tick pitch velocity)
  | astray (index : Nat) (tick : Int) (pitch : Quantity) (unfair : ¬fair) :
    Seen channel fair ⟨index, pitch, true⟩ (.stop channel tick pitch)

/-- What a stroke starts: its pitch, if it has force. -/
def Aim.sounds (a : Aim) : List Touch := if a.velocity = 0 then [] else [⟨a.index, a.pitch, true⟩]

namespace Bank

/-- What a stroke cuts: the note that sounds on its string. -/
def cuts (bank : Bank) (a : Aim) : List Touch :=
  match bank[a.index]? with
  | some (some old) => [⟨a.index, old, false⟩]
  | _ => []

/-- What sounds after some strokes. -/
def after (bank : Bank) (aims : List Aim) : Bank :=
  aims.foldl (fun bank a => bank.set a.index a.leaves) bank

/-- What some strokes touch, one after the other. -/
def touches : Bank → List Aim → List Touch
  | _, [] => []
  | bank, a :: aims => bank.cuts a ++ a.sounds ++ touches (bank.set a.index a.leaves) aims

variable {bank : Bank} {aims aims' : List Aim} {i : Nat}

theorem after_append (bank : Bank) (aims aims' : List Aim) :
    bank.after (aims ++ aims') = (bank.after aims).after aims' := List.foldl_append

theorem touches_append (bank : Bank) (aims aims' : List Aim) :
    bank.touches (aims ++ aims') = bank.touches aims ++ (bank.after aims).touches aims' := by
  induction aims generalizing bank with
  | nil => rfl
  | cons a aims ih =>
    show bank.cuts a ++ a.sounds ++ touches _ (aims ++ aims') =
      bank.cuts a ++ a.sounds ++ touches _ aims ++ _
    rw [ih, ← List.append_assoc]
    rfl

theorem length_after (bank : Bank) (aims : List Aim) : (bank.after aims).length = bank.length := by
  induction aims generalizing bank with
  | nil => rfl
  | cons a aims ih => exact (ih _).trans List.length_set

/-! ## §2. What is left on one string. -/

/-- A string that is not aimed at sounds what it did. -/
theorem after_untouched (none_ : ∀ a ∈ aims, a.index ≠ i) : (bank.after aims)[i]? = bank[i]? := by
  induction aims generalizing bank with
  | nil => rfl
  | cons a aims ih =>
    obtain ⟨here, there⟩ := List.forall_mem_cons.1 none_
    exact (ih there).trans (List.getElem?_set_ne here)

/-- The last stroke on a string decides what it sounds. -/
theorem after_last {a : Aim} (inBank : i < bank.length)
    (last : (aims.filter (·.index = i)).getLast? = some a) :
    (bank.after aims)[i]? = some a.leaves := by
  -- The induction is on the strokes before the last one, so they are taken from the end.
  induction aims using List.reverseRecOn with
  | nil => cases last
  | append_singleton aims b ih =>
    rw [after_append]
    show ((bank.after aims).set b.index b.leaves)[i]? = _
    rw [List.filter_append] at last
    by_cases here : b.index = i
    · have self : [b].filter (·.index = i) = [b] := by simp [here]
      rw [self, List.getLast?_concat] at last
      cases last
      rw [here, List.getElem?_set_self]
      rw [length_after]
      exact inBank
    · have other : [b].filter (·.index = i) = [] := by simp [here]
      rw [other, List.append_nil] at last
      rw [List.getElem?_set_ne here]
      exact ih last

/-- Nothing happens on a string that is not aimed at. -/
theorem touches_apart (none_ : ∀ a ∈ aims, a.index ≠ i) : ∀ t ∈ bank.touches aims, t.index ≠ i := by
  induction aims generalizing bank with
  | nil => exact fun _ inside => nomatch inside
  | cons a aims ih =>
    obtain ⟨here, there⟩ := List.forall_mem_cons.1 none_
    refine List.forall_mem_append.2 ⟨List.forall_mem_append.2 ⟨?_, ?_⟩, ih there⟩
    · unfold cuts
      split
      · exact List.forall_mem_singleton.2 here
      · exact List.forall_mem_nil _
    · unfold Aim.sounds
      split
      · exact List.forall_mem_nil _
      · exact List.forall_mem_singleton.2 here

/-- The strokes with force are what starts, in their order. -/
theorem touches_starts (bank : Bank) (aims : List Aim) :
    (bank.touches aims).filter Touch.starts = aims.flatMap Aim.sounds := by
  induction aims generalizing bank with
  | nil => rfl
  | cons a aims ih =>
    have cut : (bank.cuts a).filter Touch.starts = [] := by
      unfold cuts
      split <;> rfl
    have kept : a.sounds.filter Touch.starts = a.sounds := by
      unfold Aim.sounds
      split <;> rfl
    show (bank.cuts a ++ a.sounds ++ touches _ aims).filter _ = a.sounds ++ aims.flatMap Aim.sounds
    rw [List.filter_append, List.filter_append, cut, kept, ih, List.nil_append]

end Bank

/-! ## §3. Strokes and their aims. -/

section Aims

variable {roots : List Quantity} {frets : List (Option Int)} {i : Nat}

/-- A stroke names the string at a place if the string has its number, counted from the
highest. -/
theorem stringIndex_eq_some {count string : Nat} (inRange : i < count) :
    Play.stringIndex? count string = some i ↔ string = count - i := by
  unfold Play.stringIndex?
  constructor
  · intro found
    split at found
    · cases found
      omega
    · cases found
  · rintro rfl
    rw [if_pos (by omega)]
    exact congrArg some (by omega)

/-- A stroke aims at the string that it names, and only where the chord holds a fret. -/
theorem Aim.ofStroke_index {s : Stroke} {a : Aim} (aims : ofStroke? roots frets s = some a) :
    Play.stringIndex? roots.length s.string = some a.index ∧
      ∃ fret, frets[a.index]? = some (some fret) := by
  unfold ofStroke? at aims
  split at aims
  · cases aims
  · next index named =>
    split at aims
    · next fret root fretted rooted =>
      obtain ⟨pitch, -, rfl⟩ := Option.map_eq_some_iff.1 aims
      exact ⟨named, fret, fretted⟩
    · cases aims

/-- A stroke on a string with a fret aims at the pitch of that fret. -/
theorem Aim.ofStroke_fretted {root pitch : Quantity} {fret : Int} (rooted : roots[i]? = some root)
    (fretted : frets[i]? = some (some fret)) (pitched : root.add (.whole fret) = .ok pitch)
    {s : Stroke} (names : s.string = roots.length - i) :
    ofStroke? roots frets s = some ⟨i, pitch, s.velocity⟩ := by
  have inRange : i < roots.length := (List.getElem?_eq_some_iff.1 rooted).1
  unfold ofStroke?
  rw [(stringIndex_eq_some inRange).2 names]
  dsimp only
  rw [fretted, rooted]
  dsimp only
  rw [pitched]
  rfl

/-- A string that no stroke names, or that the chord leaves alone, is not aimed at. -/
theorem not_aimed {strokes : List Stroke} (inRange : i < roots.length)
    (alone : frets[i]? = some none ∨ ∀ s ∈ strokes, s.string ≠ roots.length - i) :
    ∀ a ∈ strokes.filterMap (Aim.ofStroke? roots frets), a.index ≠ i := by
  rintro a here rfl
  obtain ⟨s, inside, aims⟩ := List.mem_filterMap.1 here
  obtain ⟨names, fret, fretted⟩ := Aim.ofStroke_index aims
  rcases alone with left | unnamed
  · rw [left] at fretted
    cases fretted
  · exact unnamed s inside ((stringIndex_eq_some inRange).1 names)

/-- The aims at a string with a fret are the strokes that name it. -/
theorem aimed_filter {root pitch : Quantity} {fret : Int} (rooted : roots[i]? = some root)
    (fretted : frets[i]? = some (some fret)) (pitched : root.add (.whole fret) = .ok pitch)
    (strokes : List Stroke) :
    (strokes.filterMap (Aim.ofStroke? roots frets)).filter (·.index = i) =
      (strokes.filter (·.string = roots.length - i)).map fun s => ⟨i, pitch, s.velocity⟩ := by
  have inRange : i < roots.length := (List.getElem?_eq_some_iff.1 rooted).1
  induction strokes with
  | nil => rfl
  | cons s strokes ih =>
    by_cases names : s.string = roots.length - i
    · rw [List.filterMap_cons_some (Aim.ofStroke_fretted rooted fretted pitched names)]
      simp only [List.filter_cons, names, decide_true, if_true, List.map_cons, ih]
    · have passed : (s :: strokes).filter (·.string = roots.length - i) =
          strokes.filter (·.string = roots.length - i) := by simp [names]
      rw [passed, ← ih]
      cases aims : Aim.ofStroke? roots frets s with
      | none => rw [List.filterMap_cons_none aims]
      | some a =>
        have apart : a.index ≠ i := by
          rintro rfl
          exact names ((stringIndex_eq_some inRange).1 (Aim.ofStroke_index aims).1)
        rw [List.filterMap_cons_some aims]
        simp [apart]

end Aims

/-! ## §4. What a measure records. -/

/-- A voice of which some aims have been struck: they are what its strings have changed by, and
what has been recorded. -/
structure Voice.Answered (fair : Prop) (aims : List Aim) (v w : Voice) : Prop where
  config : w.config = v.config
  tuning : w.tuning = v.tuning
  finished : w.finished = v.finished
  sounding : w.sounding = Bank.after v.sounding aims
  events : ∃ es : List Event, w.events = v.events ++ es.toArray ∧
    List.Forall₂ (Touch.Seen v.channel fair) (Bank.touches v.sounding aims) es

namespace Voice.Answered

variable {fair : Prop} {aims aims' : List Aim} {v w x : Voice}

/-- Where nothing is struck, nothing is recorded. -/
theorem refl (fair : Prop) (v : Voice) : v.Answered fair [] v :=
  ⟨rfl, rfl, rfl, rfl, [], Array.append_empty.symm, .nil⟩

theorem trans (first : v.Answered fair aims w) (second : w.Answered fair aims' x) :
    v.Answered fair (aims ++ aims') x := by
  obtain ⟨es, gained, seen⟩ := first.events
  obtain ⟨es', gained', seen'⟩ := second.events
  have channel : w.channel = v.channel :=
    congrArg (fun c : Config => Datum.number c.channel) first.config
  refine ⟨second.config.trans first.config, second.tuning.trans first.tuning,
    second.finished.trans first.finished, ?_, es ++ es', ?_, ?_⟩
  · rw [second.sounding, first.sounding, Bank.after_append]
  · rw [gained', gained, Array.append_assoc]
    exact congrArg (v.events ++ ·) (List.append_toArray es es')
  · rw [channel, first.sounding] at seen'
    rw [Bank.touches_append]
    exact List.rel_append seen seen'

/-- What changes neither the strings nor the timeline changes nothing about this. -/
theorem same (h : v.Answered fair aims w) (config : x.config = w.config)
    (tuning : x.tuning = w.tuning) (finished : x.finished = w.finished)
    (sounding : x.sounding = w.sounding) (events : x.events = w.events) :
    v.Answered fair aims x := by
  obtain ⟨es, gained, seen⟩ := h.events
  exact ⟨config.trans h.config, tuning.trans h.tuning, finished.trans h.finished,
    sounding.trans h.sounding, es, events.trans gained, seen⟩

/-- One aim: the note that sounds there is cut, and what follows starts the pitch, or nothing. -/
theorem struck (v : Voice) (a : Aim) (tick : Int) (d : Loudness) {es : List Event}
    (seen : List.Forall₂ (Touch.Seen v.channel fair) a.sounds es) :
    v.Answered fair [a] (v.extended d (v.sounding.set a.index a.leaves)
      (Bank.cut v.sounding v.channel tick a.index ++ es)) := by
  have cut : List.Forall₂ (Touch.Seen v.channel fair) (Bank.cuts v.sounding a)
      (Bank.cut v.sounding v.channel tick a.index) := by
    unfold Bank.cuts Bank.cut
    cases v.sounding[a.index]? with
    | none => exact .nil
    | some sounds =>
      cases sounds with
      | none => exact .nil
      | some old => exact .cons (.stop _ _ _) .nil
  refine ⟨rfl, rfl, rfl, rfl, _, rfl, ?_⟩
  show List.Forall₂ _ (Bank.cuts v.sounding a ++ a.sounds ++ []) _
  rw [List.append_nil]
  exact List.rel_append cut seen

end Voice.Answered

namespace Play

variable {γ : Type} {p : Player γ} {tick : Int} {stray : Binary64} {fair : Prop}

/-- How an act that strikes some aims goes well. -/
abbrev Answers (act : Play γ Unit) (p : Player γ) (fair : Prop) (aims : List Aim) : Prop :=
  act.Ensures p (fun _ q => p.voice.Answered fair aims q.voice) fun _ _ => True

/-- What follows the cut starts the pitch of the aim, or nothing. -/
theorem ensures_muteOrSound_answered (isOpen : p.voice.finished = false)
    (loud : fair → NeverSilent p.voice.config stray) (a : Aim) :
    (muteOrSound tick a.index a.pitch a.velocity stray true).Ensures p
      (fun _ q => ∃ d es, List.Forall₂ (Touch.Seen p.voice.channel fair) a.sounds es ∧
        q = p.extended d (p.voice.sounding.set a.index a.leaves) es)
      fun _ _ => True := by
  unfold muteOrSound
  split
  · next silent =>
    have muted : a.velocity = 0 := by omega
    rw [Aim.sounds, Aim.leaves, if_pos muted, if_pos muted]
    refine (ensures_mute isOpen tick a.index a.pitch true).mono ?_ fun _ _ never => never.elim
    rintro _ _ rfl
    exact ⟨_, [], .nil, rfl⟩
  · next positive =>
    have forced : a.velocity ≠ 0 := by omega
    rw [Aim.sounds, Aim.leaves, if_neg forced, if_neg forced]
    unfold sound
    rw [ensures_voice_bind, Act.ensures_lift_bind]
    refine ⟨fun force strays => ?_, fun _ _ => True.intro⟩
    cases silent : force.le (.whole 0) with
    | true =>
      -- The velocity has strayed down to silence, which fair draws never cause.
      have unfair : ¬fair := by
        intro isFair
        have loud := loud isFair a.velocity force (Int.not_le.1 positive) strays
        rw [silent] at loud
        cases loud
      refine (ensures_note_stop isOpen _ _ silent).bind_eq fun _ => ?_
      unfold setSounding
      rw [ensures_changeVoice]
      exact ⟨_, _, .cons (.astray _ tick _ unfair) .nil, rfl⟩
    | false =>
      refine ((ensures_note_start isOpen _ _ silent).mono (fun _ _ h => h)
        fun _ _ _ => True.intro).bind ?_
      rintro _ _ ⟨d, velocity, low, high, rfl⟩
      unfold setSounding
      rw [ensures_changeVoice]
      exact ⟨d, _, .cons (.start _ tick _ low high) .nil, rfl⟩

/-- A strike that cuts records the touches of its aim. -/
theorem ensures_strike_answered (isOpen : p.voice.finished = false)
    (loud : fair → NeverSilent p.voice.config stray) (a : Aim) :
    Answers (strike tick a.index a.pitch a.velocity stray true) p fair [a] := by
  show (cut tick a.index >>= fun _ =>
    muteOrSound tick a.index a.pitch a.velocity stray true).Ensures p _ _
  refine (ensures_cut isOpen tick a.index).bind_eq fun _ => ?_
  let q := p.extended p.voice.dynamics.loudness p.voice.sounding
    (Bank.cut p.voice.sounding p.voice.channel tick a.index)
  have isOpen' : q.voice.finished = false := isOpen
  refine (ensures_muteOrSound_answered (p := q) isOpen' loud a).mono ?_ fun _ _ _ => True.intro
  rintro _ _ ⟨d, es, seen, rfl⟩
  have struck : q.extended d (q.voice.sounding.set a.index a.leaves) es = p.extended d
      (p.voice.sounding.set a.index a.leaves)
      (Bank.cut p.voice.sounding p.voice.channel tick a.index ++ es) :=
    Player.extended_extended ..
  rw [struck]
  exact .struck p.voice a tick d seen

/-- A stroke strikes its aim, or does nothing. -/
theorem ensures_stroke_answered (isOpen : p.voice.finished = false)
    (loud : fair → NeverSilent p.voice.config stray) (frets : List (Option Int)) (s : Stroke) :
    Answers (stroke tick stray frets s) p fair (Aim.ofStroke? p.voice.roots frets s).toList := by
  have nothing : Answers (pure () : Play γ Unit) p fair [] :=
    (Act.ensures_pure _).2 (.refl fair p.voice)
  unfold Answers stroke Aim.ofStroke?
  rw [ensures_voice_bind]
  unfold Voice.stringCount
  cases stringIndex? p.voice.roots.length s.string with
  | none =>
    dsimp only
    split
    · exact (Act.ensures_throw _).2 True.intro
    · exact nothing
  | some index =>
    dsimp only
    cases frets[index]? with
    | none => exact nothing
    | some fret? =>
      cases fret? with
      | none => exact nothing
      | some fret =>
        cases p.voice.roots[index]? with
        | none => exact nothing
        | some root =>
          dsimp only
          rw [Act.ensures_lift_bind]
          refine ⟨fun pitch pitched => ?_, fun _ _ => True.intro⟩
          rw [pitched]
          exact ensures_strike_answered isOpen loud ⟨index, pitch, s.velocity⟩

theorem ensures_strokes_answered (isOpen : p.voice.finished = false)
    (loud : fair → NeverSilent p.voice.config stray) (frets : List (Option Int))
    (strokes : List Stroke) :
    Answers (strokes.forM (stroke tick stray frets)) p fair
      (strokes.filterMap (Aim.ofStroke? p.voice.roots frets)) := by
  induction strokes generalizing p with
  | nil => exact (Act.ensures_pure _).2 (.refl fair p.voice)
  | cons s strokes ih =>
    show (stroke tick stray frets s >>= fun _ =>
      strokes.forM (stroke tick stray frets)).Ensures p _ _
    refine (ensures_stroke_answered isOpen loud frets s).bind ?_
    intro _ q first
    have isOpen' : q.voice.finished = false := first.finished.trans isOpen
    have loud' : fair → NeverSilent q.voice.config stray := by
      rw [first.config]
      exact loud
    refine (ih isOpen' loud').mono (fun _ r rest => ?_) fun _ _ _ => True.intro
    have roots : q.voice.roots = p.voice.roots := congrArg Tuning.roots first.tuning
    rw [roots] at rest
    have aims : (s :: strokes).filterMap (Aim.ofStroke? p.voice.roots frets) =
        (Aim.ofStroke? p.voice.roots frets s).toList ++
          strokes.filterMap (Aim.ofStroke? p.voice.roots frets) := by
      rw [List.filterMap_cons]
      cases Aim.ofStroke? p.voice.roots frets s <;> rfl
    rw [aims]
    exact first.trans rest

variable [ChanceSource γ]

/-- The strokes of a group are struck at one time and with one stray. -/
theorem ensures_group_answered (isOpen : p.voice.finished = false)
    (inBounds : p.voice.config.InBounds) (frets : List (Option Int)) (g : Group) :
    Answers (group frets g) p (p.voice.config.FairDraws γ)
      (g.strokes.filterMap (Aim.ofStroke? p.voice.roots frets)) := by
  unfold Answers group
  rw [ensures_voice_bind, Act.ensures_lift_bind]
  refine ⟨fun nominal _ => ?_, fun _ _ => True.intro⟩
  refine ((ensures_humanize nominal).mono (fun _ _ h => h) fun _ _ _ => True.intro).bind ?_
  rintro tick q ⟨-, settled⟩
  refine (ensures_jitter.mono (fun _ _ h => h) fun _ _ _ => True.intro).bind ?_
  rintro stray r ⟨strays, same⟩
  have settled' : r.voice = p.voice.struckAt nominal tick := same.trans settled
  have config : r.voice.config = p.voice.config := by
    rw [settled']
    rfl
  have isOpen' : r.voice.finished = false := by
    rw [settled']
    exact isOpen
  rw [settled] at strays
  have loud : p.voice.config.FairDraws γ → NeverSilent r.voice.config stray := by
    rw [config]
    exact fun fair _ _ => strayed_pos inBounds.volumeSpread (strays.within fair)
  have landed : p.voice.Answered (p.voice.config.FairDraws γ) [] r.voice := by
    rw [settled']
    exact (Voice.Answered.refl _ p.voice).same rfl rfl rfl rfl rfl
  refine (ensures_strokes_answered isOpen' loud frets g.strokes).mono ?_ fun _ _ _ => True.intro
  intro _ t answered
  have roots : r.voice.roots = p.voice.roots := congrArg Tuning.roots landed.tuning
  rw [roots] at answered
  exact landed.trans answered

theorem ensures_groups_answered (isOpen : p.voice.finished = false)
    (inBounds : p.voice.config.InBounds) (frets : List (Option Int)) (groups : List Group) :
    Answers (groups.forM (group frets)) p (p.voice.config.FairDraws γ)
      ((groups.flatMap Group.strokes).filterMap (Aim.ofStroke? p.voice.roots frets)) := by
  induction groups generalizing p with
  | nil => exact (Act.ensures_pure _).2 (.refl _ p.voice)
  | cons g groups ih =>
    refine Act.Ensures.bind (ensures_group_answered isOpen inBounds frets g) ?_
    intro _ q first
    have isOpen' : q.voice.finished = false := first.finished.trans isOpen
    have inBounds' : q.voice.config.InBounds := by
      rw [first.config]
      exact inBounds
    refine (ih isOpen' inBounds').mono (fun _ r rest => ?_) fun _ _ _ => True.intro
    have roots : q.voice.roots = p.voice.roots := congrArg Tuning.roots first.tuning
    rw [roots, first.config] at rest
    rw [List.flatMap_cons, List.filterMap_append]
    exact first.trans rest

end Play

/-- The strokes of a pattern, in the order in which they are struck. -/
def Pattern.strokes (p : Pattern) : List Stroke := p.groups.flatMap Group.strokes

namespace Play

variable {γ : Type} [ChanceSource γ] {p : Player γ}

/-- One chord is read as its frets. -/
theorem readChords_one (roots : List Quantity) (chord : Datum) :
    Yields (readChords roots [chord]) fun parsed =>
      ∃ frets, Chord.frets roots chord = .ok frets ∧ parsed = [frets] := by
  unfold readChords
  refine .check fun _ => ?_
  rw [List.mapM_cons]
  refine .bind fun frets read => .bind fun rest none_ => ?_
  cases none_
  exact .pure ⟨frets, read, rfl⟩

theorem ensures_playMeasure_answered (isOpen : p.voice.finished = false)
    (inBounds : p.voice.config.InBounds) (pattern : Pattern) (frets : List (Option Int)) :
    Answers (playMeasure pattern frets) p (p.voice.config.FairDraws γ)
      (pattern.strokes.filterMap (Aim.ofStroke? p.voice.roots frets)) := by
  unfold playMeasure
  refine (ensures_groups_answered isOpen inBounds frets pattern.groups).bind ?_
  intro _ q answered
  rw [ensures_voice_bind, Act.ensures_lift_bind]
  refine ⟨fun clock _ => ?_, fun _ _ => True.intro⟩
  rw [ensures_changeVoice]
  exact answered.same rfl rfl rfl rfl rfl

/-- A pattern over one chord, if that goes well, strikes the aims of its strokes over the frets
of the chord. -/
theorem ensures_play_answered (inBounds : p.voice.config.InBounds) (pattern : Pattern)
    (chord : Datum) :
    (play (.pattern pattern) [chord]).Ensures p
      (fun _ q => ∃ frets, Chord.frets p.voice.roots chord = .ok frets ∧
        p.voice.Answered (p.voice.config.FairDraws γ)
          (pattern.strokes.filterMap (Aim.ofStroke? p.voice.roots frets)) q.voice)
      fun _ _ => True := by
  unfold play
  rw [ensures_requireOpen_bind]
  split
  · trivial
  · next isOpen =>
    rw [Bool.not_eq_true] at isOpen
    dsimp only
    rw [ensures_voice_bind, Act.ensures_lift_bind]
    refine ⟨fun parsed read => ?_, fun _ _ => True.intro⟩
    obtain ⟨frets, fretted, rfl⟩ := readChords_one p.voice.roots chord parsed read
    unfold playMeasures
    refine ((ensures_warnBeyondMeasure pattern).mono (fun _ _ h => h)
      fun _ _ _ => True.intro).bind ?_
    rintro _ q rfl
    rw [ensures_changeVoice_bind]
    let r : Player γ := { q with voice := { q.voice with skip := .whole 0 } }
    have played : Answers ([frets].forM (playMeasure pattern)) r (r.voice.config.FairDraws γ)
        (pattern.strokes.filterMap (Aim.ofStroke? r.voice.roots frets)) :=
      Act.Ensures.bind (ensures_playMeasure_answered (p := r) isOpen inBounds pattern frets)
        fun _ _ answered => (Act.ensures_pure _).2 answered
    refine played.bind ?_
    intro _ s answered
    rw [ensures_voice_bind]
    have silenced := (Voice.Answered.refl (q.voice.config.FairDraws γ) q.voice).same (x := r.voice)
      rfl rfl rfl rfl rfl
    exact Act.ensures_report ⟨frets, fretted, silenced.trans answered⟩ True.intro

end Play

/-! ## §5. Strokes beyond the strings. -/

/-- An act that keeps a property does the same on the same state, and keeps it there. -/
theorem Act.Matched.of_keeps {σ α : Type} {I : σ → Prop} {act : Act σ α} (keeps : Act.Keeps I act) :
    Matched (fun s t => s = t ∧ I t) Eq (fun s t => s = t ∧ I t) act act := by
  rintro s _ journal ⟨rfl, here⟩
  exact ⟨.refl _, ⟨rfl, (keeps s here).always journal⟩, rfl⟩

namespace Pattern

/-- A pattern without the strokes on strings beyond a count.  Groups stay where they are, even
if nothing is left of them. -/
def within (p : Pattern) (count : Nat) : Pattern :=
  ⟨p.groups.map fun g => { g with strokes := g.strokes.filter (·.string ≤ count) }⟩

/-- The last offset stays, since the groups do. -/
theorem lastOffset_within (p : Pattern) (count : Nat) :
    (p.within count).lastOffset = p.lastOffset := by
  obtain ⟨groups⟩ := p
  cases groups with
  | nil => rfl
  | cons first rest =>
    unfold within lastOffset
    rw [List.map_cons]
    dsimp only
    rw [List.foldl_map]

end Pattern

namespace Play

variable {γ : Type} [ChanceSource γ] {count : Nat}

/-- A player with a number of strings that may still play. -/
structure Ready (count : Nat) (p : Player γ) : Prop where
  count : p.voice.stringCount = count
  isOpen : p.voice.finished = false

/-- Two acts that do the same for players with a number of strings. -/
abbrev Agree {α : Type} (count : Nat) (act act' : Play γ α) : Prop :=
  Act.Matched (fun p q => p = q ∧ Ready count q) Eq (fun p q => p = q ∧ Ready count q) act act'

omit [ChanceSource γ] in
/-- A voice that has grown is as ready as before. -/
theorem Ready.grown {p q : Player γ} (h : Ready count p) (grown : p.voice.Grown q.voice) :
    Ready count q := by
  refine ⟨?_, grown.isOpen h.isOpen⟩
  rw [← h.count]
  unfold Voice.stringCount Voice.roots
  rw [grown.tuning]

theorem agree_humanize (nominal : Quantity) :
    Agree count (humanize nominal : Play γ Int) (humanize nominal) := by
  refine .of_keeps fun p here => (ensures_humanize nominal).mono ?_ ?_
  · rintro tick q ⟨-, settled⟩
    exact here.grown (settled ▸ p.voice.grown_struckAt nominal tick)
  · rintro f q ⟨-, same⟩
    exact here.grown (same ▸ .refl p.voice)

theorem agree_jitter : Agree count (jitter : Play γ Binary64) jitter := by
  refine .of_keeps fun p here => ensures_jitter.mono ?_ ?_
  · rintro x q ⟨-, same⟩
    exact here.grown (same ▸ .refl p.voice)
  · rintro f q ⟨-, same⟩
    exact here.grown (same ▸ .refl p.voice)

variable {tick : Int} {stray : Binary64} {frets : List (Option Int)}

omit [ChanceSource γ] in
theorem agree_stroke (s : Stroke) :
    Agree count (stroke tick stray frets s : Play γ Unit) (stroke tick stray frets s) := by
  refine .of_keeps fun p here => (plays_stroke here.isOpen frets s).mono ?_ ?_
  · rintro _ _ ⟨d, es, bank, strikes, rfl⟩
    exact here.grown (p.voice.grown_strikes d strikes)
  · rintro f _ ⟨-, d, es, bank, broken, rfl⟩
    exact here.grown (p.voice.grown_brokenOff d broken)

omit [ChanceSource γ] in
/-- A stroke on a string that is not there does nothing. -/
theorem start_stroke_beyond {s : Stroke} {p : Player γ} (beyond : p.voice.stringCount < s.string)
    (journal : Journal) :
    (stroke tick stray frets s).start ⟨p, journal⟩ = (.ok (), ⟨p, journal⟩) := by
  have missing : stringIndex? p.voice.stringCount s.string = none := if_neg (by omega)
  have numbered : s.string ≠ 0 := by omega
  show (match stringIndex? p.voice.stringCount s.string with
    | none => if s.string = 0 then throw .noSuchString else pure ()
    | some index => _ : Play γ Unit).start ⟨p, journal⟩ = _
  rw [missing]
  dsimp only
  rw [if_neg numbered]
  rfl

omit [ChanceSource γ] in
theorem agree_strokes (strokes : List Stroke) :
    Agree count (strokes.forM (stroke tick stray frets) : Play γ PUnit)
      ((strokes.filter (·.string ≤ count)).forM (stroke tick stray frets)) := by
  induction strokes with
  | nil => exact .pure rfl
  | cons s strokes ih =>
    by_cases there : s.string ≤ count
    · have kept : (s :: strokes).filter (·.string ≤ count) =
          s :: strokes.filter (·.string ≤ count) := by simp [there]
      rw [kept]
      exact .seq (agree_stroke s) fun _ _ _ => ih
    · have left : (s :: strokes).filter (·.string ≤ count) =
          strokes.filter (·.string ≤ count) := by simp [there]
      rw [left]
      -- Only one of the two lists has this stroke, so no rule for two acts fits: its run is computed.
      rintro p _ journal ⟨rfl, ready⟩
      have beyond : p.voice.stringCount < s.string := ready.count ▸ Nat.not_le.1 there
      have passed :
          ((s :: strokes).forM (stroke tick stray frets) : Play γ PUnit).start ⟨p, journal⟩ =
            (strokes.forM (stroke tick stray frets) : Play γ PUnit).start ⟨p, journal⟩ := by
        show (stroke tick stray frets s >>= fun _ => strokes.forM (stroke tick stray frets)).start
          ⟨p, journal⟩ = _
        rw [Act.start_bind, start_stroke_beyond beyond]
      rw [passed]
      exact ih p p journal ⟨rfl, ready⟩

theorem agree_group (g : Group) :
    Agree count (group frets g : Play γ Unit)
      (group frets { g with strokes := g.strokes.filter (·.string ≤ count) }) := by
  unfold group
  refine .seq (.of_keeps keeps_voice) ?_
  rintro v _ rfl
  refine .lift_bind (fun _ _ h => h) fun nominal _ => .seq (agree_humanize nominal) ?_
  rintro tick _ rfl
  refine .seq agree_jitter ?_
  rintro stray _ rfl
  exact agree_strokes g.strokes

theorem agree_playMeasure (pattern : Pattern) :
    Agree count (playMeasure pattern frets : Play γ Unit)
      (playMeasure (pattern.within count) frets) := by
  have groups : Agree count (pattern.groups.forM (group frets) : Play γ PUnit)
      ((pattern.within count).groups.forM (group frets)) := by
    unfold Pattern.within
    dsimp only
    induction pattern.groups with
    | nil => exact .pure rfl
    | cons g groups ih => exact .seq (agree_group g) fun _ _ _ => ih
  unfold playMeasure
  refine .seq groups fun _ _ _ => .seq (.of_keeps keeps_voice) ?_
  rintro v _ rfl
  refine .lift_bind (fun _ _ h => h) fun clock _ => .update ?_
  rintro p _ ⟨rfl, ready⟩
  exact ⟨rfl, ready.count, ready.isOpen⟩

theorem agree_play (pattern : Pattern) (chords : List Datum) :
    Agree count (play (.pattern pattern) chords : Play γ Unit)
      (play (.pattern (pattern.within count)) chords) := by
  have measures : ∀ parsed : List (List (Option Int)),
      Agree count (parsed.forM (playMeasure pattern) : Play γ PUnit)
        (parsed.forM (playMeasure (pattern.within count))) := by
    intro parsed
    induction parsed with
    | nil => exact .pure rfl
    | cons frets parsed ih => exact .seq (agree_playMeasure pattern) fun _ _ _ => ih
  have warns : Agree count (warnBeyondMeasure pattern : Play γ Unit)
      (warnBeyondMeasure (pattern.within count)) := by
    have same : (warnBeyondMeasure (pattern.within count) : Play γ Unit) =
        warnBeyondMeasure pattern := by
      unfold warnBeyondMeasure
      rw [Pattern.lastOffset_within]
    rw [same]
    refine .of_keeps fun p here => (ensures_warnBeyondMeasure pattern).mono ?_ ?_
    · rintro _ _ rfl
      exact here
    · rintro _ _ ⟨-, rfl⟩
      exact here
  unfold play
  refine .seq (.of_keeps keeps_requireOpen) fun _ _ _ => .seq (.of_keeps keeps_voice) ?_
  rintro v _ rfl
  refine .lift_bind (fun _ _ h => h) fun parsed _ => ?_
  unfold playMeasures
  refine .seq warns fun _ _ _ => .seq (.update ?_) fun _ _ _ => ?_
  · rintro p _ ⟨rfl, ready⟩
    exact ⟨rfl, ready.count, ready.isOpen⟩
  refine .seq (measures parsed) fun _ _ _ => .seq (.of_keeps keeps_voice) ?_
  rintro v _ rfl
  exact .report _ _ _

/-- Strokes beyond the strings have no effect at all: the call ends alike without them. -/
theorem play_within {p : Player γ} (isOpen : p.voice.finished = false) (pattern : Pattern)
    (chords : List Datum) (journal : Journal) :
    (play (.pattern (pattern.within p.voice.stringCount)) chords).start ⟨p, journal⟩ =
      (play (.pattern pattern) chords).start ⟨p, journal⟩ := by
  obtain ⟨ends, ⟨states, -⟩, journals⟩ :=
    agree_play pattern chords p p journal ⟨rfl, rfl, isOpen⟩
  have desks : ((play (.pattern pattern) chords).start ⟨p, journal⟩).2 =
      ((play (.pattern (pattern.within p.voice.stringCount)) chords).start ⟨p, journal⟩).2 := by
    generalize ((play (.pattern pattern) chords).start ⟨p, journal⟩).2 = desk at states journals ⊢
    cases desk
    cases states
    cases journals
    rfl
  exact (Prod.ext ends.eq desks).symm

end Play

/-! ## §6. Chords and what starts. -/

namespace Chord

/-- An item that leaves its string alone. -/
def LeavesAlone (item : Datum) : Prop := item = .null ∨ item = .text [.char '-']

/-- A chord that is read has an item for each string, and its frets are those of the items. -/
theorem frets_items (roots : List Quantity) (chord : Datum) :
    Yields (frets roots chord) fun fs => ∃ items, Chord.items chord = .ok items ∧
      items.length = roots.length ∧ ∀ (i : Nat) (root : Quantity) (item : Datum),
        roots[i]? = some root → items[i]? = some item →
          ∃ f, fs[i]? = some f ∧ fret chord root item = .ok f := by
  unfold frets
  refine .bind fun items entries => .check fun size => ?_
  intro fs read
  refine ⟨items, entries, not_not.1 size, fun i root item rooted here => ?_⟩
  have each := Yields.mapM (R := fun string f => fret chord string.1 string.2 = .ok f)
    (fun _ _ _ read => read) fs read
  -- A fret is read from a root and an item at one place, and stands at that place again.
  have zipped : (roots.zip items)[i]? = some (root, item) := by
    rw [List.getElem?_zip_eq_some]
    exact ⟨rooted, here⟩
  obtain ⟨inZip, same⟩ := List.getElem?_eq_some_iff.1 zipped
  have inFrets := inZip
  rw [each.length_eq] at inFrets
  have fretted := each.get inZip inFrets
  rw [List.get_eq_getElem, List.get_eq_getElem, same] at fretted
  exact ⟨fs[i], List.getElem?_eq_getElem inFrets, fretted⟩

/-- An item that leaves its string alone is no fret. -/
theorem fret_alone {chord item : Datum} {root : Quantity} (alone : LeavesAlone item) :
    fret chord root item = .ok none := by
  rcases alone with rfl | rfl <;> rfl

/-- Any other item is read as a whole number, and that is the fret. -/
theorem fret_held {chord item : Datum} {root : Quantity} (held : ¬LeavesAlone item) :
    Yields (fret chord root item) fun f => ∃ n pitch, f = some n ∧
      fretNumber? item = .ok (some n) ∧ root.add (.whole n) = .ok pitch := by
  unfold fret
  split
  · exact absurd (.inl rfl) held
  · exact absurd (.inr rfl) held
  · refine .bind fun number spells => ?_
    cases number with
    | none => exact .error _
    | some n =>
      refine .bind fun pitch pitched => ?_
      split
      · exact .pure ⟨n, pitch, rfl, spells, pitched⟩
      · exact .error _

end Chord

/-- The channel and the pitch of a note that starts. -/
def Event.started? (e : Event) : Option (Datum × Datum) :=
  match e.what with
  | .noteOn channel pitch _ => some (channel, pitch)
  | _ => none

/-- With fair draws the notes that start are the touches that start. -/
theorem Touch.started_eq {channel : Datum} {fair : Prop} {ts : List Touch} {es : List Event}
    (isFair : fair) (seen : List.Forall₂ (Touch.Seen channel fair) ts es) :
    es.filterMap Event.started? =
      (ts.filter Touch.starts).map fun t => (channel, Datum.number t.pitch) := by
  induction seen with
  | nil => rfl
  | cons first _ ih =>
    cases first with
    | stop => exact ih
    | start index tick pitch => exact congrArg ((channel, Datum.number pitch) :: ·) ih
    | astray index tick pitch unfair => exact absurd isFair unfair

/-- What an aim starts, as the channel and the pitch of a note. -/
def Aim.note? (channel : Datum) (a : Aim) : Option (Datum × Datum) :=
  if a.velocity = 0 then none else some (channel, .number a.pitch)

theorem Aim.sounds_note (channel : Datum) (aims : List Aim) :
    (aims.flatMap Aim.sounds).map (fun t => (channel, Datum.number t.pitch)) =
      aims.filterMap (Aim.note? channel) := by
  induction aims with
  | nil => rfl
  | cons a aims ih =>
    rw [List.flatMap_cons, List.map_append, ih, List.filterMap_cons]
    unfold Aim.sounds Aim.note?
    split <;> rfl

/-! ## §7. One measure of a pattern. -/

/-- The strokes of a pattern that name the string at a place, lowest first, among `count`. -/
def Pattern.strokesOn (p : Pattern) (count i : Nat) : List Stroke :=
  p.strokes.filter (·.string = count - i)

/-- What a measure of a pattern over a chord has made of a voice, and what it has recorded. -/
structure Voice.Plucked (pattern : Pattern) (items : List Datum) (frets : List (Option Int))
    (fair : Prop) (v w : Voice) (es : List Event) : Prop where
  events : w.events = v.events ++ es.toArray
  /-- The events are those of the touches of the strokes, in their order. -/
  touches : List.Forall₂ (Touch.Seen v.channel fair)
    (Bank.touches v.sounding (pattern.strokes.filterMap (Aim.ofStroke? v.roots frets))) es
  /-- A string that the chord leaves alone, or that no stroke names, sounds what it did, and
  nothing happens on it. -/
  untouched : ∀ (i : Nat) (item : Datum), items[i]? = some item →
    Chord.LeavesAlone item ∨ pattern.strokesOn v.stringCount i = [] →
    w.sounding[i]? = v.sounding[i]? ∧
      ∀ t ∈ Bank.touches v.sounding (pattern.strokes.filterMap (Aim.ofStroke? v.roots frets)),
        t.index ≠ i
  /-- Any other string is left as the last stroke on it asks. -/
  last : ∀ (i : Nat) (item : Datum) (s : Stroke), items[i]? = some item →
    ¬Chord.LeavesAlone item →
    (pattern.strokesOn v.stringCount i).getLast? = some s →
    ∃ root fret pitch, v.roots[i]? = some root ∧ Chord.fretNumber? item = .ok (some fret) ∧
      root.add (.whole fret) = .ok pitch ∧
      w.sounding[i]? = some (if s.velocity = 0 then none else some pitch)
  /-- The notes that start are those of the strokes with force on strings with a fret, in their
  order. -/
  starts : fair → es.filterMap Event.started? =
    (pattern.strokes.filterMap (Aim.ofStroke? v.roots frets)).filterMap (Aim.note? v.channel)

/-- What the strokes of a pattern do to a voice follows from their aims. -/
theorem Voice.Answered.plucked {pattern : Pattern} {items : List Datum}
    {frets : List (Option Int)} {chord : Datum} {fair : Prop} {v w : Voice} (strung : v.Strung)
    (size : items.length = v.stringCount)
    (read : ∀ (i : Nat) (root : Quantity) (item : Datum), v.roots[i]? = some root →
      items[i]? = some item → ∃ f, frets[i]? = some f ∧ Chord.fret chord root item = .ok f)
    (answered : v.Answered fair (pattern.strokes.filterMap (Aim.ofStroke? v.roots frets)) w) :
    ∃ es, v.Plucked pattern items frets fair w es := by
  obtain ⟨es, gained, seen⟩ := answered.events
  have rooted : ∀ (i : Nat) (item : Datum), items[i]? = some item →
      ∃ root, v.roots[i]? = some root := by
    intro i item here
    have inItems := (List.getElem?_eq_some_iff.1 here).1
    rw [size] at inItems
    exact ⟨_, List.getElem?_eq_getElem inItems⟩
  refine ⟨es, gained, seen, ?_, ?_, fun isFair => ?_⟩
  · -- A string that is left alone, by the chord or by the pattern, is not aimed at.
    intro i item here alone
    obtain ⟨root, rooted⟩ := rooted i item here
    obtain ⟨f, fretted, isFret⟩ := read i root item rooted here
    have unheld : frets[i]? = some none ∨ ∀ s ∈ pattern.strokes, s.string ≠ v.roots.length - i := by
      rcases alone with left | unnamed
      · rw [Chord.fret_alone left] at isFret
        cases isFret
        exact .inl fretted
      · refine .inr fun s inside names => ?_
        exact List.filter_eq_nil_iff.1 unnamed s inside (decide_eq_true names)
    have unaimed := not_aimed (List.getElem?_eq_some_iff.1 rooted).1 unheld
    rw [answered.sounding]
    exact ⟨Bank.after_untouched unaimed, Bank.touches_apart unaimed⟩
  · -- The aims at a string that is held are the strokes on it, so the last ones are the same.
    intro i item s here held last
    obtain ⟨root, rooted⟩ := rooted i item here
    obtain ⟨f, fretted, isFret⟩ := read i root item rooted here
    obtain ⟨fret, pitch, rfl, spells, pitched⟩ := Chord.fret_held held f isFret
    refine ⟨root, fret, pitch, rooted, spells, pitched, ?_⟩
    have inBank : i < v.sounding.length := by
      rw [strung]
      exact (List.getElem?_eq_some_iff.1 rooted).1
    have lastAim : ((pattern.strokes.filterMap (Aim.ofStroke? v.roots frets)).filter
        (·.index = i)).getLast? = some ⟨i, pitch, s.velocity⟩ := by
      rw [aimed_filter rooted fretted pitched, List.getLast?_map]
      exact congrArg _ last
    rw [answered.sounding]
    exact Bank.after_last inBank lastAim
  · rw [Touch.started_eq isFair seen, Bank.touches_starts, Aim.sounds_note]

/-- One measure of a pattern over a chord, at any point of a session, if it goes well.  The last
stroke on a string decides what it sounds, and strings that the chord leaves alone or that no
stroke names go on as they were; the notes that start are those of the strokes with force, if
draws are fair.  Strokes beyond the strings change nothing: without them the call ends alike. -/
theorem Session.last_stroke {γ : Type} [ChanceSource γ] {band : Band γ} (created : band.Created)
    (calls : List Call) (journal : Journal) {part : Part} {v : Voice}
    (plays : (run calls ⟨band, journal⟩).state.voice? part = some v) (pattern : Pattern)
    (chord : Datum)
    (well : ((Call.move part (.play (.pattern pattern) [chord])).perform.start
      (run calls ⟨band, journal⟩)).1 = .ok ()) :
    let now := run calls ⟨band, journal⟩
    let after := (Call.move part (.play (.pattern pattern) [chord])).perform.start now
    ∃ items frets w es,
      Chord.items chord = .ok items ∧ items.length = v.stringCount ∧
      Chord.frets v.roots chord = .ok frets ∧ after.2.state.voice? part = some w ∧
      v.Plucked pattern items frets (v.config.FairDraws γ) w es ∧
      (Call.move part (.play (.pattern (pattern.within v.stringCount)) [chord])).perform.start now =
        after := by
  intro now after
  have tuned := throughout_tuned created calls journal part v plays
  have strung := throughout_strung created calls journal part v plays
  let p : Player γ := ⟨v, now.state.chance⟩
  have onPart : ∀ q : Pattern, (Call.move part (.play (.pattern q) [chord])).perform.start now =
      (((Play.play (.pattern q) [chord]).start ⟨p, now.journal⟩).1,
        ⟨now.state.played part ((Play.play (.pattern q) [chord]).start ⟨p, now.journal⟩).2.state,
          ((Play.play (.pattern q) [chord]).start ⟨p, now.journal⟩).2.journal⟩) :=
    fun q => Perform.start_on plays _
  have ran : ((Play.play (.pattern pattern) [chord]).start ⟨p, now.journal⟩).1 = .ok () := by
    rw [onPart pattern] at well
    exact well
  obtain ⟨frets, fretted, answered⟩ :=
    (Play.ensures_play_answered (p := p) tuned.inBounds pattern chord).of_ok ran
  obtain ⟨items, entries, size, read⟩ := Chord.frets_items v.roots chord frets fretted
  obtain ⟨es, plucked⟩ := answered.plucked strung size read
  have isOpen := Play.open_of_passage (p := p) (.pattern pattern [chord]) ran
  refine ⟨items, frets, _, es, entries, size, fretted, ?_, plucked, ?_⟩
  · show ((Call.move part (.play (.pattern pattern) [chord])).perform.start now).2.state.voice?
      part = _
    rw [onPart pattern]
    exact Band.voice_played_self plays _
  · rw [onPart, Play.play_within (p := p) isOpen, ← onPart]

/-- A new band of three strings that stray as far as they may. -/
def threeStrings : Except Fault (Desk (Band Swing)) :=
  Session.begin .up
    [("strings", .list [.whole 40, .whole 45, .whole 50]), ("rvol", .whole 5), ("rtime", .whole 3)]

/-- The middle string is struck first. -/
def middleCalls : List Call :=
  [.move .master (.play (.pattern ⟨[⟨1, [⟨2, 80⟩]⟩]⟩) [.list [.whole 0, .whole 1, .whole 0]])]

/-- The highest string is struck and muted, the lowest is struck, muted and struck again, and two
strokes find no string, or one that the chord leaves alone. -/
def restrucks : Pattern :=
  ⟨[⟨1, [⟨1, 80⟩, ⟨3, 90⟩, ⟨1, 0⟩, ⟨7, 70⟩]⟩, ⟨2, [⟨3, 0⟩, ⟨2, 60⟩, ⟨3, 50⟩]⟩]⟩

/-- The lowest string is left sounding its second fret, the middle one goes on sounding its first,
and the highest is silent; three notes start. -/
theorem restrucks_last :
    ∃ (desk : Desk (Band Swing)) (w : Voice) (es : List Event), threeStrings = .ok desk ∧
      let now := Session.run middleCalls desk
      let chord : Datum := .list [.whole 2, .text [.char '-'], .whole 3]
      let after := (Call.move .master (.play (.pattern restrucks) [chord])).perform.start now
      after.1 = .ok () ∧ after.2.state.voice? .master = some w ∧
      w.events = now.state.master.events ++ es.toArray ∧
      w.sounding[0]? = some (some (.whole 42)) ∧ w.sounding[1]? = some (some (.whole 46)) ∧
      w.sounding[2]? = some none ∧
      es.filterMap Event.started? =
        [(.whole 0, .whole 53), (.whole 0, .whole 42), (.whole 0, .whole 42)] := by
  have seen : (threeStrings.toOption.map fun desk =>
      let now := Session.run middleCalls desk
      let v := now.state.master
      let chord : Datum := .list [.whole 2, .text [.char '-'], .whole 3]
      (((Call.move .master (.play (.pattern restrucks) [chord])).perform.start now).1.toBool,
        v.config.volumeSpread, v.roots, v.sounding, v.config.channel)) =
      some (true, .whole 5, [.whole 40, .whole 45, .whole 50], [none, some (.whole 46), none],
        .whole 0) := by
    decide +kernel
  obtain ⟨desk, begun, seen⟩ := exists_ok_of_seen seen
  simp only [Prod.mk.injEq] at seen
  obtain ⟨well, spread, roots, sounding, channel⟩ := seen
  obtain ⟨⟨⟩, well⟩ := exists_ok_of_toBool well
  have plays : (Session.run middleCalls desk).state.voice? .master =
      some (Session.run middleCalls desk).state.master := rfl
  obtain ⟨items, frets, w, es, entries, size, fretted, playsW, plucked, -⟩ :=
    Session.last_stroke (Session.begin_created _ _ desk begun) middleCalls desk.journal plays
      restrucks (.list [.whole 2, .text [.char '-'], .whole 3]) well
  have three : (Session.run middleCalls desk).state.master.stringCount = 3 :=
    congrArg List.length roots
  have draws : (Session.run middleCalls desk).state.master.config.FairDraws Swing := by
    unfold Config.FairDraws
    rw [spread]
    exact fun _ => drawn_swing
  have held : ∀ n : Int, ¬Chord.LeavesAlone (.whole n) := by
    rintro n (here | here) <;> cases here
  cases entries
  refine ⟨desk, w, es, begun, well, playsW, plucked.events, ?_, ?_, ?_, ?_⟩
  · obtain ⟨root, fret, pitch, rooted, spells, pitched, sounds⟩ :=
      plucked.last 0 (.whole 2) ⟨3, 50⟩ rfl (held 2) (by rw [three]; rfl)
    rw [roots] at rooted
    cases rooted
    cases spells
    cases pitched
    exact sounds
  · rw [(plucked.untouched 1 (.text [.char '-']) rfl (.inl (.inr rfl))).1, sounding]
    rfl
  · obtain ⟨root, fret, pitch, -, -, -, sounds⟩ :=
      plucked.last 2 (.whole 3) ⟨1, 0⟩ rfl (held 3) (by rw [three]; rfl)
    exact sounds
  · rw [roots] at fretted
    have read : Chord.frets [.whole 40, .whole 45, .whole 50]
        (.list [.whole 2, .text [.char '-'], .whole 3]) = .ok [some 2, none, some 3] := rfl
    rw [read] at fretted
    cases fretted
    rw [plucked.starts draws, roots]
    unfold Voice.channel
    rw [channel]
    rfl

end Plectrum
