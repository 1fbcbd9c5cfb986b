/-
  Plectrum.Proofs.OpenPitches
  ───────────────────────────
  **Which pitches a song leaves open.**

  A pitch is left open if the last note event of it is a start.  Finishing stops whatever a
  string still sounds, so a pitch stays open only if the strings have forgotten it: it hangs.
  A strike that cuts forgets nothing, for it stops what it replaces.  A hit on a drum cuts
  nothing; it is over at once, and the drum then sounds its own pitch or none.  So one thing
  only makes a pitch hang: a chord has left it on drums whose own pitch it is not, and a tab
  then strikes each of them.

  Main results:
    * `Move.ensures_minds` — every other move minds each pitch: it hangs afterwards only if it
      did before and was left alone;
    * `Session.hangs_dropped` — a pitch that hangs was dropped by such a tab;
    * `Session.open_pitches` — so every pitch of a song is stopped last, or was dropped.
-/
import Plectrum.Proofs.NoteBalance
import Plectrum.Proofs.Parts
import Plectrum.Proofs.SongTracks
import Plectrum.Proofs.Walks

namespace Plectrum

/-! ## §1. The last that happens to a pitch. -/

/-- The start or the end of a note of a pitch. -/
def Happening.touches (pitch : Quantity) (h : Happening) : Bool := h.starts pitch || h.stops pitch

/-- The last that has happened to a pitch, if anything has. -/
def lastTouch? (pitch : Quantity) (hs : List Happening) : Option Happening :=
  (hs.filter (·.touches pitch)).getLast?

/-- A pitch is left open if the last that has happened to it is a start. -/
def leftOpen (pitch : Quantity) (hs : List Happening) : Bool :=
  (lastTouch? pitch hs).any (·.starts pitch)

/-- Nothing happens to a pitch. -/
def Untouched (pitch : Quantity) (hs : List Happening) : Prop :=
  ∀ h ∈ hs, h.touches pitch = false

section Touches

variable {pitch : Quantity} {hs hs' : List Happening} {h : Happening}

theorem Happening.touches_of_starts (starts : h.starts pitch = true) : h.touches pitch = true := by
  unfold touches
  rw [starts]
  rfl

theorem Happening.touches_of_stops (stops : h.stops pitch = true) : h.touches pitch = true := by
  unfold touches
  rw [stops, Bool.or_true]

theorem Untouched.append (first : Untouched pitch hs) (second : Untouched pitch hs') :
    Untouched pitch (hs ++ hs') :=
  List.forall_mem_append.2 ⟨first, second⟩

theorem lastTouch?_append_untouched (second : Untouched pitch hs') :
    lastTouch? pitch (hs ++ hs') = lastTouch? pitch hs := by
  have nothing : hs'.filter (·.touches pitch) = [] := by
    rw [List.filter_eq_nil_iff]
    intro h here
    rw [second h here]
    exact Bool.false_ne_true
  unfold lastTouch?
  rw [List.filter_append, nothing, List.append_nil]

/-- Where something happens to a pitch, what came before does not count. -/
theorem lastTouch?_append_touched (touched : ¬Untouched pitch hs') :
    lastTouch? pitch (hs ++ hs') = lastTouch? pitch hs' := by
  have something : hs'.filter (·.touches pitch) ≠ [] := by
    intro nothing
    apply touched
    intro h here
    exact Bool.eq_false_iff.2 (List.filter_eq_nil_iff.1 nothing h here)
  unfold lastTouch?
  rw [List.filter_append, List.getLast?_append_of_ne_nil _ something]

theorem leftOpen_append_untouched (second : Untouched pitch hs') :
    leftOpen pitch (hs ++ hs') = leftOpen pitch hs :=
  congrArg (Option.any _) (lastTouch?_append_untouched second)

theorem leftOpen_append_touched (touched : ¬Untouched pitch hs') :
    leftOpen pitch (hs ++ hs') = leftOpen pitch hs' :=
  congrArg (Option.any _) (lastTouch?_append_touched touched)

/-- What is left open was started last. -/
theorem starts_of_leftOpen (isOpen : leftOpen pitch hs = true) :
    ∃ last, lastTouch? pitch hs = some last ∧ last.starts pitch = true := by
  unfold leftOpen at isOpen
  cases last : lastTouch? pitch hs with
  | none =>
    rw [last] at isOpen
    cases isOpen
  | some h =>
    rw [last] at isOpen
    exact ⟨h, rfl, isOpen⟩

/-- What has happened last to a pitch has happened. -/
theorem mem_of_lastTouch (last : lastTouch? pitch hs = some h) :
    h ∈ hs ∧ h.touches pitch = true :=
  List.mem_filter.1 (List.mem_of_getLast? last)

/-- What only ends notes leaves nothing open, and closes what it touches. -/
theorem leftOpen_append_stops (stops : ∀ h ∈ hs', h.starts pitch = false)
    (isOpen : leftOpen pitch (hs ++ hs') = true) :
    leftOpen pitch hs = true ∧ Untouched pitch hs' := by
  -- An end that touches the pitch would be the last of it, and the pitch is open.
  by_cases untouched : Untouched pitch hs'
  · rw [leftOpen_append_untouched untouched] at isOpen
    exact ⟨isOpen, untouched⟩
  · rw [leftOpen_append_touched untouched] at isOpen
    obtain ⟨h, last, starts⟩ := starts_of_leftOpen isOpen
    rw [stops h (mem_of_lastTouch last).1] at starts
    cases starts

/-- A pitch that something has happened to, and that is not left open, was stopped last. -/
theorem stops_of_not_leftOpen (here : h ∈ hs) (touches : h.touches pitch = true)
    (closed : leftOpen pitch hs = false) :
    ∃ last, lastTouch? pitch hs = some last ∧ last.stops pitch = true := by
  cases last : lastTouch? pitch hs with
  | none =>
    have untouched := List.filter_eq_nil_iff.1 (List.getLast?_eq_none_iff.1 last) h here
    exact absurd touches untouched
  | some g =>
    refine ⟨g, rfl, ?_⟩
    have touched := (mem_of_lastTouch last).2
    unfold leftOpen at closed
    rw [last] at closed
    change g.starts pitch = false at closed
    unfold Happening.touches at touched
    rwa [closed, Bool.false_or] at touched

end Touches

/-! ## §2. Strikes that cut. -/

/-- Whether some string sounds a pitch. -/
def Bank.sounds (bank : Bank) (pitch : Quantity) : Bool := bank.any (soundsPitch pitch)

/-- After what has happened, a pitch hangs if it is left open and no string sounds it. -/
def Hangs (pitch : Quantity) (hs : List Happening) (bank : Bank) : Prop :=
  leftOpen pitch hs = true ∧ bank.sounds pitch = false

/-- What happens minds a pitch, on the way from strings that sound to strings that sound: the
pitch hangs afterwards only if it did before and was left alone. -/
def Minds (pitch : Quantity) (bank : Bank) (hs : List Happening) (bank' : Bank) : Prop :=
  ∀ before, Hangs pitch (before ++ hs) bank' → Hangs pitch before bank ∧ Untouched pitch hs

section Strikes

variable {pitch : Quantity} {bank bank' bank'' : Bank} {hs hs' : List Happening}
variable {config : Config} {tuning : Tuning} {tick : Int} {stray : Binary64} {es : List Event}

theorem Minds.nil (bank : Bank) : Minds pitch bank [] bank := by
  intro before hangs
  rw [List.append_nil] at hangs
  exact ⟨hangs, fun _ here => nomatch here⟩

theorem Minds.trans (first : Minds pitch bank hs bank') (second : Minds pitch bank' hs' bank'') :
    Minds pitch bank (hs ++ hs') bank'' := by
  intro before hangs
  rw [← List.append_assoc] at hangs
  obtain ⟨hangs, alone⟩ := second (before ++ hs) hangs
  obtain ⟨hangs, alone'⟩ := first before hangs
  exact ⟨hangs, alone'.append alone⟩

/-- Whether the string at a place sounds a pitch. -/
def Bank.soundsAt (bank : Bank) (i : Nat) (pitch : Quantity) : Bool :=
  bank[i]?.any (soundsPitch pitch)

/-- A pitch sounds if it sounds at some place. -/
theorem Bank.sounds_iff : bank.sounds pitch = true ↔ ∃ i, bank.soundsAt i pitch = true := by
  unfold sounds soundsAt
  rw [List.any_eq_true]
  constructor
  · rintro ⟨sounding, here, sounds⟩
    obtain ⟨i, there⟩ := List.getElem?_of_mem here
    exact ⟨i, by rw [there]; exact sounds⟩
  · rintro ⟨i, sounds⟩
    cases there : bank[i]? with
    | none =>
      rw [there] at sounds
      cases sounds
    | some sounding =>
      rw [there] at sounds
      exact ⟨sounding, List.mem_of_getElem? there, sounds⟩

theorem Bank.soundsAt_of_silent (silent : bank.sounds pitch = false) (i : Nat) :
    bank.soundsAt i pitch = false := by
  cases sounds : bank.soundsAt i pitch with
  | false => rfl
  | true =>
    rw [sounds_iff.2 ⟨i, sounds⟩] at silent
    cases silent

theorem Bank.soundsAt_set_ne {index i : Nat} (apart : index ≠ i) (s : Option Quantity) :
    Bank.soundsAt (bank.set index s) i pitch = bank.soundsAt i pitch := by
  unfold soundsAt
  rw [List.getElem?_set_ne apart]

/-- A string that sounds a pitch goes on sounding it when another one is struck. -/
theorem Bank.silent_of_set {index : Nat} {s : Option Quantity}
    (silent : Bank.sounds (bank.set index s) pitch = false)
    (spared : bank.soundsAt index pitch = false) : bank.sounds pitch = false := by
  cases sounds : bank.sounds pitch with
  | false => rfl
  | true =>
    obtain ⟨i, soundsAt⟩ := sounds_iff.1 sounds
    by_cases apart : index = i
    · rw [apart, soundsAt] at spared
      cases spared
    · rw [← soundsAt_set_ne apart s, soundsAt_of_silent silent i] at soundsAt
      cases soundsAt

/-- A cut ends notes only. -/
theorem Bank.cut_stops (bank : Bank) (channel : Datum) (index : Nat) :
    ∀ h ∈ (bank.cut channel tick index).map Event.what, h.starts pitch = false := by
  intro h here
  obtain ⟨e, here, rfl⟩ := List.mem_map.1 here
  unfold cut at here
  split at here
  · rw [List.mem_singleton.1 here]
    rfl
  · cases here

/-- Where a cut leaves a pitch alone, the string did not sound it. -/
theorem Bank.spared_of_cut {channel : Datum} {index : Nat}
    (alone : Untouched pitch ((bank.cut channel tick index).map Event.what)) :
    bank.soundsAt index pitch = false := by
  unfold cut at alone
  unfold soundsAt
  cases sounding : bank[index]? with
  | none => rfl
  | some s =>
    rw [sounding] at alone
    cases s with
    | none => rfl
    | some old =>
      have spared := alone (.noteOff channel (.number old) (.whole 0)) List.mem_cons_self
      unfold Happening.touches at spared
      exact (Bool.or_eq_false_iff.1 spared).2

/-- A strike that cuts minds every pitch. -/
theorem Struck.minds (h : Struck config tuning tick stray true bank es bank')
    (strung : bank.length = tuning.roots.length) : Minds pitch bank (es.map Event.what) bank' := by
  -- What only ends notes leaves a pitch alone that hangs, and so the string did not sound it.
  have ends : ∀ (index : Nat) (s : Option Quantity) (more : List Event),
      (∀ h ∈ more.map Event.what, h.starts pitch = false) →
        Minds pitch bank ((bank.cut config.channelDatum tick index ++ more).map Event.what)
          (bank.set index s) := by
    intro index s more stops before hangs
    rw [List.map_append] at hangs ⊢
    obtain ⟨isOpen, silent⟩ := hangs
    obtain ⟨isOpen, alone⟩ := leftOpen_append_stops
      (List.forall_mem_append.2 ⟨Bank.cut_stops bank _ index, stops⟩) isOpen
    have spared := Bank.spared_of_cut (List.forall_mem_append.1 alone).1
    exact ⟨⟨isOpen, Bank.silent_of_set silent spared⟩, alone⟩
  cases h with
  | muted index q => exact ends index none [] fun _ here => nomatch here
  | strayedOut index q written force positive strays silent =>
    apply ends index (some q) [.stop config.channelDatum tick q]
    intro h here
    rw [List.mem_singleton.1 here]
    rfl
  | sounded index q velocity onString low high =>
    by_cases same : q.same pitch = true
    · intro before hangs
      -- The string sounds the pitch, so it does not hang.
      have sounds : Bank.sounds (bank.set index (some q)) pitch = true := by
        have inBank : index < bank.length := strung ▸ onString
        apply List.any_eq_true.2
        exact ⟨some q, List.mem_set inBank _, same⟩
      rw [hangs.2] at sounds
      cases sounds
    · apply ends index (some q) [.start config.channelDatum tick q velocity]
      intro h here
      rw [List.mem_singleton.1 here]
      exact Bool.eq_false_iff.2 same

theorem Strikes.minds (h : Strikes config tuning tick stray true bank es bank')
    (strung : bank.length = tuning.roots.length) : Minds pitch bank (es.map Event.what) bank' := by
  -- No strike changes how many strings there are.
  induction h with
  | nil bank => exact .nil bank
  | cons first _ ih =>
    rw [List.map_append]
    exact (first.minds strung).trans (ih (first.length_eq.trans strung))

/-- Strikes that cut and break off mind every pitch too. -/
theorem BrokenOff.minds (h : BrokenOff config tuning tick stray true bank es bank')
    (strung : bank.length = tuning.roots.length) : Minds pitch bank (es.map Event.what) bank' := by
  cases h with
  | between done => exact done.minds strung
  | within index done =>
    rw [List.map_append]
    apply (done.minds strung).trans
    intro before hangs
    obtain ⟨isOpen, alone⟩ := leftOpen_append_stops (Bank.cut_stops bank' _ index) hangs.1
    exact ⟨⟨isOpen, hangs.2⟩, alone⟩

end Strikes

/-! ## §3. Voices that mind a pitch. -/

/-- A pitch hangs in a voice. -/
def Voice.Hangs (pitch : Quantity) (v : Voice) : Prop := Plectrum.Hangs pitch v.timeline v.sounding

/-- From one state of a voice to a later one nothing happens to a pitch. -/
def Voice.Spares (pitch : Quantity) (v w : Voice) : Prop :=
  ∃ hs, w.timeline = v.timeline ++ hs ∧ Untouched pitch hs

/-- From one state of a voice to a later one a pitch is minded. -/
def Voice.Minds (pitch : Quantity) (v w : Voice) : Prop :=
  w.Hangs pitch → v.Hangs pitch ∧ v.Spares pitch w

/-- Something is kept for each string. -/
def Voice.Strung (v : Voice) : Prop := v.sounding.length = v.stringCount

section Voices

variable {pitch : Quantity} {v w x : Voice}

theorem Voice.timeline_extended (v : Voice) (d : Loudness) (bank : Bank) (es : List Event) :
    (v.extended d bank es).timeline = v.timeline ++ es.map Event.what := by
  unfold timeline
  rw [← List.map_append]
  exact congrArg _ Array.toList_append

theorem Voice.spares_of_events (events : w.events = v.events) : v.Spares pitch w := by
  refine ⟨[], ?_, fun _ here => nomatch here⟩
  unfold timeline
  rw [events, List.append_nil]

theorem Voice.Spares.trans (first : v.Spares pitch w) (second : w.Spares pitch x) :
    v.Spares pitch x := by
  obtain ⟨hs, more, alone⟩ := first
  obtain ⟨hs', more', alone'⟩ := second
  refine ⟨hs ++ hs', ?_, alone.append alone'⟩
  rw [more', more, List.append_assoc]

namespace Voice.Minds

/-- What changes neither the strings nor the timeline minds every pitch. -/
theorem of_still (events : w.events = v.events) (sounding : w.sounding = v.sounding) :
    v.Minds pitch w := by
  intro hangs
  have same : w.timeline = v.timeline := by
    unfold Voice.timeline
    rw [events]
  unfold Voice.Hangs at hangs
  rw [same, sounding] at hangs
  exact ⟨hangs, Voice.spares_of_events events⟩

theorem trans (first : v.Minds pitch w) (second : w.Minds pitch x) : v.Minds pitch x := by
  intro hangs
  obtain ⟨hangs, alone'⟩ := second hangs
  obtain ⟨hangs, alone⟩ := first hangs
  exact ⟨hangs, alone.trans alone'⟩

/-- What is recorded minds a pitch if what happens does. -/
theorem extended (d : Loudness) {bank : Bank} {es : List Event}
    (minds : Plectrum.Minds pitch v.sounding (es.map Event.what) bank) :
    v.Minds pitch (v.extended d bank es) := by
  intro hangs
  unfold Voice.Hangs at hangs
  rw [v.timeline_extended d bank es] at hangs
  obtain ⟨hangs, alone⟩ := minds _ hangs
  exact ⟨hangs, _, v.timeline_extended d bank es, alone⟩

end Voice.Minds

/-- A pitch that hangs in a voice has been touched. -/
theorem Voice.not_hangs_of_events (events : v.events = #[]) : ¬v.Hangs pitch := by
  intro hangs
  have isOpen := hangs.1
  unfold timeline at isOpen
  rw [events] at isOpen
  cases isOpen

end Voices

/-! ## §4. Passages that mind a pitch. -/

/-- A voice that is played on from an open state, with a pitch minded. -/
structure Voice.Minding (pitch : Quantity) (v w : Voice) : Prop where
  grown : v.Grown w
  minds : v.Minds pitch w

section Passages

variable {γ : Type} {pitch : Quantity} {v : Voice} {tick : Int} {stray : Binary64}

theorem Voice.timeless_minding (pitch : Quantity) (v : Voice) :
    Voice.Timeless (v.Minding pitch) := by
  constructor
  · intro w clock skip here
    exact ⟨here.grown.trans (w.grown_rest clock skip), here.minds.trans (.of_still rfl rfl)⟩
  · intro w nominal tick here
    exact ⟨here.grown.trans (w.grown_struckAt nominal tick), here.minds.trans (.of_still rfl rfl)⟩

/-- Strikes that cut mind every pitch, however they end. -/
theorem Play.Plays.minding (isOpen : v.finished = false) (strung : v.Strung) {act : Play γ Unit}
    (plays : ∀ q : Player γ, v.Grown q.voice → q.voice.finished = false →
      Plays act q tick stray true) :
    Act.Keeps (fun p : Player γ => v.Minding pitch p.voice) act := by
  intro p here
  have strung : p.voice.sounding.length = p.voice.tuning.roots.length := here.grown.strung strung
  refine (plays p here.grown (here.grown.isOpen isOpen)).mono ?_ ?_
  · rintro _ _ ⟨d, es, bank, strikes, rfl⟩
    exact ⟨here.grown.trans (Voice.grown_strikes _ d strikes),
      here.minds.trans (.extended d (strikes.minds strung))⟩
  · rintro _ _ ⟨-, d, es, bank, strikes, rfl⟩
    exact ⟨here.grown.trans (Voice.grown_brokenOff _ d strikes),
      here.minds.trans (.extended d (strikes.minds strung))⟩

variable [ChanceSource γ]

/-- Chords and melodic tabs mind every pitch. -/
theorem Play.minding_sheet (isOpen : v.finished = false) (strung : v.Strung) {sheet : Sheet}
    (cuts : ∀ g, sheet = .grid g → v.tabStyle.closesSounding = true) :
    Act.Keeps (fun p : Player γ => v.Minding pitch p.voice) (sheet.act : Play γ Unit) := by
  have timeless := v.timeless_minding pitch
  cases sheet with
  | measures pattern parsed =>
    apply Act.KeepsOn.keeps
    apply walks_playMeasures timeless
    intro frets _ g _ s _ tick _ stray
    apply Act.Keeps.on
    apply Plays.minding isOpen strung
    intro q _ isOpen'
    exact plays_stroke isOpen' frets s
  | grid g =>
    apply Act.KeepsOn.keeps
    apply walks_playGrid timeless
    intro column _ tick _ stray
    apply Act.Keeps.on
    apply Plays.minding isOpen strung
    intro q grown isOpen'
    have closes := cuts g rfl
    rw [← Voice.tabStyle_congr grown.config] at closes
    rw [← closes]
    exact plays_cells isOpen' 0 column.2

end Passages

/-! ## §5. Hits on drums. -/

/-- A tab hits a drum, by its place among `count` drums, lowest first. -/
def Grid.Hits (g : Grid) (count i : Nat) : Prop :=
  ∃ column ∈ g.columns, ∃ (line : Nat) (l : Letter), column.2[line]? = some l ∧ l ≠ '-' ∧
    i = count - line - 1

/-- A pitch is the own pitch of the drum at a place. -/
def Voice.drums (v : Voice) (i : Nat) (pitch : Quantity) : Bool := v.roots[i]?.any (·.same pitch)

/-- What a hit on a drum records, and what the drum sounds from then on. -/
inductive Hit (channel : Datum) (root : Quantity) : Happening → Option Quantity → Prop where
  | ended (sounds : Option Quantity) : Hit channel root (.noteOff channel (.number root) (.whole 0)) sounds
  | begun (velocity : Int) :
    Hit channel root (.noteOn channel (.number root) (.whole velocity)) (some root)

/-- What a tab makes of a pitch on drums, as far as it has been played. -/
inductive Voice.Drummed (pitch : Quantity) (g : Grid) (v w : Voice) : Prop where
  /-- Nothing has happened to the pitch, and the drums that were not hit sound as before. -/
  | spared (alone : v.Spares pitch w)
      (kept : ∀ i, (g.Hits v.stringCount i → v.drums i pitch = true) →
        w.sounding[i]? = v.sounding[i]?)
  | closed (shut : leftOpen pitch w.timeline = false)
  /-- The drum whose own pitch it is sounds it. -/
  | sounded (i : Nat) (own : v.drums i pitch = true)
      (sounds : Bank.soundsAt w.sounding i pitch = true)

/-- A tab drops a pitch: some drums sound it that have another pitch of their own, and the tab
hits them all. -/
structure Voice.Drops (pitch : Quantity) (g : Grid) (v : Voice) : Prop where
  percussion : v.config.isPercussion = true
  isOpen : leftOpen pitch v.timeline = true
  sounds : Bank.sounds v.sounding pitch = true
  struck : ∀ i, Bank.soundsAt v.sounding i pitch = true →
    g.Hits v.stringCount i ∧ v.drums i pitch = false

section Drums

variable {γ : Type} {pitch : Quantity} {g : Grid} {v w : Voice} {tick : Int} {stray : Binary64}

/-- A hit records one event and cuts nothing. -/
theorem Play.ensures_hit {p : Player γ} (isOpen : p.voice.finished = false) (index : Nat)
    (root : Quantity) (velocity : Int) :
    (strike tick index root velocity stray false).Ensures p
      (fun _ q => ∃ d what sounds, Hit p.voice.channel root what sounds ∧
        q = p.extended d (p.voice.sounding.set index sounds) [⟨.whole tick, what⟩])
      (Halts p) := by
  show (muteOrSound tick index root velocity stray false).Ensures p _ _
  unfold muteOrSound
  split
  · refine (ensures_mute isOpen tick index root false).mono ?_ fun _ _ never => never.elim
    rintro _ _ rfl
    exact ⟨_, _, none, .ended none, rfl⟩
  · unfold sound setSounding
    rw [ensures_voice_bind, Act.ensures_lift_bind]
    constructor
    · intro force _
      cases silent : force.le (.whole 0) with
      | true =>
        refine (ensures_note_stop isOpen _ _ silent).bind_eq fun _ => ?_
        rw [ensures_changeVoice]
        exact ⟨_, _, some root, .ended (some root), rfl⟩
      | false =>
        refine (ensures_note_start isOpen _ _ silent).bind ?_
        rintro _ _ ⟨d, loud, -, -, rfl⟩
        rw [ensures_changeVoice]
        exact ⟨d, _, some root, .begun loud, rfl⟩
    · intro f failed
      exact .unchanged (technical_strayed _ _ _ f failed)

/-- What changes neither the strings nor what has happened changes nothing about a tab. -/
theorem Voice.Drummed.still (h : v.Drummed pitch g w) {x : Voice} (timeline : x.timeline = w.timeline)
    (sounding : x.sounding = w.sounding) : v.Drummed pitch g x := by
  cases h with
  | spared alone kept =>
    obtain ⟨hs, more, untouched⟩ := alone
    exact .spared ⟨hs, timeline.trans more, untouched⟩ (sounding ▸ kept)
  | closed shut => exact .closed (timeline ▸ shut)
  | sounded i own sounds => exact .sounded i own (sounding ▸ sounds)

section Hits

variable {d : Loudness} {i : Nat} {root : Quantity} {what : Happening} {sounds : Option Quantity}
variable {channel : Datum}

theorem Voice.drums_eq (rooted : v.roots[i]? = some root) : v.drums i pitch = root.same pitch := by
  unfold drums
  rw [rooted]
  rfl

theorem Voice.timeline_hit (w : Voice) (d : Loudness) (bank : Bank) (tick : Int)
    (what : Happening) :
    (w.extended d bank [⟨.whole tick, what⟩]).timeline = w.timeline ++ [what] :=
  w.timeline_extended _ _ _

/-- A hit on the pitch itself ends it, or makes its own drum sound it. -/
theorem Voice.Drummed.hit_own (inBank : i < w.sounding.length) (own : v.drums i pitch = true)
    (same : root.same pitch = true) (hit : Hit channel root what sounds) :
    v.Drummed pitch g (w.extended d (w.sounding.set i sounds) [⟨.whole tick, what⟩]) := by
  cases hit with
  | ended sounds =>
    apply closed
    rw [timeline_hit, Bool.eq_false_iff]
    intro isOpen
    have stops : Happening.stops pitch (.noteOff channel (.number root) (.whole 0)) = true := same
    have ends : ∀ h ∈ [Happening.noteOff channel (.number root) (.whole 0)],
        h.starts pitch = false := List.forall_mem_singleton.2 rfl
    have alone := (leftOpen_append_stops ends isOpen).2 _ List.mem_cons_self
    rw [Happening.touches_of_stops stops] at alone
    cases alone
  | begun velocity =>
    apply sounded i own
    show ((w.sounding.set i (some root))[i]?.any (soundsPitch pitch)) = true
    rw [List.getElem?_set_self inBank]
    exact same

/-- A hit on another pitch leaves this one alone, and the other drums as they are. -/
theorem Voice.Drummed.hit_foreign (h : v.Drummed pitch g w) (hits : g.Hits v.stringCount i)
    (own : v.drums i pitch = false) (same : root.same pitch = false)
    (hit : Hit channel root what sounds) :
    v.Drummed pitch g (w.extended d (w.sounding.set i sounds) [⟨.whole tick, what⟩]) := by
  have alone : Untouched pitch [what] := by
    intro h here
    rw [List.mem_singleton.1 here]
    unfold Happening.touches Happening.starts Happening.stops
    cases hit with
    | ended sounds => exact same
    | begun velocity => exact (Bool.or_false _).trans same
  have timeline := w.timeline_hit d (w.sounding.set i sounds) tick what
  cases h with
  | spared before kept =>
    apply spared (before.trans ⟨_, timeline, alone⟩)
    intro j spares
    have apart : i ≠ j := by
      intro same
      rw [← same, own] at spares
      cases spares hits
    exact (List.getElem?_set_ne apart).trans (kept j spares)
  | closed shut =>
    apply closed
    rw [timeline, leftOpen_append_untouched alone]
    exact shut
  | sounded j ownJ soundsJ =>
    apply sounded j ownJ
    have apart : i ≠ j := by
      intro same
      rw [← same, own] at ownJ
      cases ownJ
    exact (Bank.soundsAt_set_ne apart sounds).trans soundsJ

/-- One more hit of the tab, on a drum that is there. -/
theorem Voice.Drummed.hit (h : v.Drummed pitch g w) (d : Loudness) (inBank : i < w.sounding.length)
    (hits : g.Hits v.stringCount i) (rooted : v.roots[i]? = some root)
    (hit : Hit channel root what sounds) :
    v.Drummed pitch g (w.extended d (w.sounding.set i sounds) [⟨.whole tick, what⟩]) := by
  have own : v.drums i pitch = root.same pitch := Voice.drums_eq rooted
  cases same : root.same pitch with
  | true => exact hit_own inBank (own.trans same) same hit
  | false => exact h.hit_foreign hits (own.trans same) same hit

end Hits

/-- A pitch that hangs after a tab was left alone by it, and hung before or was dropped. -/
theorem Voice.Drummed.hangs (h : v.Drummed pitch g w) (percussion : v.config.isPercussion = true)
    (hangs : w.Hangs pitch) : v.Spares pitch w ∧ (v.Hangs pitch ∨ v.Drops pitch g) := by
  obtain ⟨isOpen, silent⟩ := hangs
  cases h with
  | spared alone kept =>
    refine ⟨alone, ?_⟩
    obtain ⟨hs, more, untouched⟩ := alone
    rw [more, leftOpen_append_untouched untouched] at isOpen
    cases sounds : Bank.sounds v.sounding pitch with
    | false => exact .inl ⟨isOpen, sounds⟩
    | true =>
      refine .inr ⟨percussion, isOpen, sounds, ?_⟩
      intro i soundsAt
      -- Where the tab did not hit, or hit the pitch itself, the drum would still sound it.
      have forgotten : ¬(g.Hits v.stringCount i → v.drums i pitch = true) := by
        intro spares
        have still := Bank.soundsAt_of_silent silent i
        unfold Bank.soundsAt at still soundsAt
        rw [kept i spares, soundsAt] at still
        cases still
      obtain ⟨hits, foreign⟩ := Classical.not_imp.1 forgotten
      exact ⟨hits, Bool.eq_false_iff.2 foreign⟩
  | closed shut =>
    rw [shut] at isOpen
    cases isOpen
  | sounded i own sounds =>
    rw [Bank.soundsAt_of_silent silent i] at sounds
    cases sounds

/-- A voice that is played on from an open state by a tab on drums. -/
structure Voice.Drumming (pitch : Quantity) (g : Grid) (v w : Voice) : Prop where
  grown : v.Grown w
  drummed : v.Drummed pitch g w

theorem Voice.timeless_drumming (pitch : Quantity) (g : Grid) (v : Voice) :
    Voice.Timeless (v.Drumming pitch g) := by
  constructor
  · intro w clock skip here
    exact ⟨here.grown.trans (w.grown_rest clock skip), here.drummed.still rfl rfl⟩
  · intro w nominal tick here
    exact ⟨here.grown.trans (w.grown_struckAt nominal tick), here.drummed.still rfl rfl⟩

/-- A cell hits its drum, or does nothing. -/
theorem Play.drumming_cell (isOpen : v.finished = false) (strung : v.Strung)
    (percussion : v.config.isPercussion = true) {line : Nat} {l : Letter}
    (hits : l ≠ '-' → g.Hits v.stringCount (v.stringCount - line - 1)) :
    Act.Keeps (fun p : Player γ => v.Drumming pitch g p.voice) (cell tick stray line l) := by
  unfold cell
  split
  · exact .pure _
  · next struck =>
    have hits := hits fun silent => struck (beq_iff_eq.2 silent)
    intro p here
    have grown := here.grown
    have style : p.voice.tabStyle = .hits := by
      unfold Voice.tabStyle
      rw [grown.config, percussion]
      rfl
    have roots : p.voice.roots = v.roots := congrArg Tuning.roots grown.tuning
    have count : p.voice.stringCount = v.stringCount := congrArg List.length roots
    rw [ensures_voice_bind, style, roots, count]
    dsimp only
    split
    · exact (Act.ensures_pure _).2 here
    · next root rooted =>
      rw [Act.ensures_lift_bind]
      refine ⟨fun digit _ => ?_, fun _ _ => here⟩
      rw [Act.ensures_lift_bind]
      refine ⟨fun note made => ?_, fun _ _ => here⟩
      have own : note.1 = root := by
        obtain ⟨force, -, same⟩ := bind_ok made
        cases same
        rfl
      rw [own]
      have inBank : v.stringCount - line - 1 < p.voice.sounding.length := by
        rw [grown.strings, strung]
        exact (List.getElem?_eq_some_iff.1 rooted).1
      refine (ensures_hit (grown.isOpen isOpen) _ root note.2).mono ?_ ?_
      · rintro _ _ ⟨d, what, sounds, hit, rfl⟩
        refine ⟨grown.trans (p.voice.grown_extended d _ List.length_set nofun), ?_⟩
        exact here.drummed.hit d inBank hits rooted hit
      · rintro _ _ ⟨-, d, rfl⟩
        refine ⟨grown.trans (p.voice.grown_extended d _ rfl fun _ => rfl), ?_⟩
        exact here.drummed.still ((p.voice.timeline_extended d _ []).trans (List.append_nil _)) rfl

theorem Play.drumming_cells (isOpen : v.finished = false) (strung : v.Strung)
    (percussion : v.config.isPercussion = true) {column : Text} {line : Nat}
    (hits : ∀ (i : Nat) (l : Letter), column[i]? = some l → l ≠ '-' →
      g.Hits v.stringCount (v.stringCount - (line + i) - 1)) :
    Act.Keeps (fun p : Player γ => v.Drumming pitch g p.voice) (cells tick stray line column) := by
  induction column generalizing line with
  | nil => exact .pure _
  | cons l column ih =>
    apply Act.Keeps.bind
    · exact drumming_cell isOpen strung percussion (hits 0 l rfl)
    · intro _
      apply ih
      intro i l' here
      rw [Nat.add_right_comm]
      exact hits (i + 1) l' here

/-- So a tab on drums keeps track of a pitch, as far as it is played. -/
theorem Play.drumming_playGrid [ChanceSource γ] (isOpen : v.finished = false) (strung : v.Strung)
    (percussion : v.config.isPercussion = true) :
    Act.Keeps (fun p : Player γ => v.Drumming pitch g p.voice) (playGrid g : Play γ Unit) := by
  apply Act.KeepsOn.keeps
  apply walks_playGrid (v.timeless_drumming pitch g)
  intro column inGrid tick _ stray
  apply Act.Keeps.on
  apply drumming_cells isOpen strung percussion
  intro i l here sounds
  rw [Nat.zero_add]
  exact ⟨column, inGrid, i, l, here, sounds, rfl⟩

end Drums

/-! ## §6. Moves. -/

/-- A move drops a pitch: it is a tab that does. -/
def Move.Drops (pitch : Quantity) (m : Move) (v : Voice) : Prop :=
  ∃ parts beats g, m = .tab parts beats ∧ Play.readTab v parts beats = .ok g ∧ v.Drops pitch g

section Moves

variable {γ : Type} [ChanceSource γ] {pitch : Quantity}

/-- A passage that cuts minds every pitch. -/
theorem Play.minding_passage {p : Player γ} (strung : p.voice.Strung) (c : Passage)
    (cuts : ∀ g, c.read p.voice = .ok (.grid g) → p.voice.tabStyle.closesSounding = true) :
    c.act.Ensures p (fun _ q => p.voice.Minds pitch q.voice) fun _ q =>
      p.voice.Minds pitch q.voice := by
  cases isOpen : p.voice.finished with
  | true =>
    rw [ensures_passage_finished isOpen]
    exact .of_still rfl rfl
  | false =>
    have begun : p.voice.Minding pitch p.voice := ⟨.refl _, .of_still rfl rfl⟩
    have played : c.act.Ensures p (fun _ q => p.voice.Minding pitch q.voice)
        fun _ q => True → p.voice.Minding pitch q.voice := by
      apply walks_passage c begun
      intro sheet read
      apply Act.Keeps.on
      apply minding_sheet isOpen strung
      intro g same
      exact cuts g (same ▸ read)
    exact played.mono (fun _ _ there => there.minds) fun _ _ there => (there True.intro).minds

/-- After a tab on drums a pitch hangs only if it was left alone, and hung or was dropped. -/
theorem Play.ensures_drumTab {p : Player γ} (strung : p.voice.Strung)
    (percussion : p.voice.config.isPercussion = true) (parts : List Datum) (beats : Datum) :
    let R (q : Player γ) : Prop := q.voice.Hangs pitch → p.voice.Spares pitch q.voice ∧
      (p.voice.Hangs pitch ∨ (Move.tab parts beats).Drops pitch p.voice)
    (tab parts beats).Ensures p (fun _ q => R q) fun _ q => R q := by
  intro R
  have unmoved : R p := fun hangs => ⟨Voice.spares_of_events rfl, .inl hangs⟩
  unfold tab
  cases isOpen : p.voice.finished with
  | true =>
    rw [ensures_requireOpen_bind, if_pos isOpen]
    exact unmoved
  | false =>
    rw [ensures_open_bind isOpen, ensures_voice_bind, Act.ensures_lift_bind]
    refine ⟨fun g read => ?_, fun _ _ => unmoved⟩
    have begun : p.voice.Drumming pitch g p.voice :=
      ⟨.refl _, .spared (Voice.spares_of_events rfl) fun _ _ => rfl⟩
    have ends : ∀ q : Player γ, p.voice.Drumming pitch g q.voice → R q := by
      intro q here hangs
      obtain ⟨alone, before | drops⟩ := here.drummed.hangs percussion hangs
      · exact ⟨alone, .inl before⟩
      · exact ⟨alone, .inr ⟨parts, beats, g, rfl, read, drops⟩⟩
    exact (drumming_playGrid isOpen strung percussion p begun).mono (fun _ q => ends q)
      fun _ q => ends q

/-- After a move that is no single note, in whatever way it ends, a pitch hangs only if the
move left it alone, and it hung before or the move drops it. -/
theorem Move.ensures_minds {m : Move} (scored : m.isNote = false) {p : Player γ}
    (strung : p.voice.Strung) :
    let R (q : Player γ) : Prop := q.voice.Hangs pitch →
      p.voice.Spares pitch q.voice ∧ (p.voice.Hangs pitch ∨ m.Drops pitch p.voice)
    m.act.Ensures p (fun _ q => R q) fun _ q => R q := by
  intro R
  have minded : ∀ q : Player γ, p.voice.Minds pitch q.voice → R q := by
    intro q minds hangs
    obtain ⟨hangs, alone⟩ := minds hangs
    exact ⟨alone, .inl hangs⟩
  have quiet : Play.KeepsQuiet m.act p → m.act.Ensures p (fun _ q => R q) fun _ q => R q := by
    intro quiet
    refine quiet.mono ?_ ?_
    · exact fun _ q still => minded q (.of_still still.events still.sounding)
    · exact fun _ q still => minded q (.of_still still.events still.sounding)
  have cuts : ∀ c : Passage, m.act = (c.act : Play γ Unit) →
      (∀ g, c.read p.voice = .ok (.grid g) → p.voice.tabStyle.closesSounding = true) →
      m.act.Ensures p (fun _ q => R q) fun _ q => R q := by
    intro c same cuts
    rw [same]
    exact (Play.minding_passage strung c cuts).mono (fun _ q => minded q) fun _ q => minded q
  cases m with
  | play music chords =>
    cases music with
    | silence => exact quiet (Play.keepsQuiet_silence chords)
    | pattern pattern =>
      apply cuts (.pattern pattern chords) rfl
      intro g read
      change Sheet.measures pattern <$> Play.readChords p.voice.roots chords = _ at read
      cases parsed : Play.readChords p.voice.roots chords with
      | ok frets =>
        rw [parsed] at read
        cases read
      | error f =>
        rw [parsed] at read
        cases read
    | other kindName => exact cuts (.other kindName chords) rfl fun _ read => nomatch read
  | tab parts beats =>
    cases percussion : p.voice.config.isPercussion with
    | true => exact Play.ensures_drumTab strung percussion parts beats
    | false =>
      apply cuts (.tab parts beats) rfl
      intro _ _
      unfold Voice.tabStyle
      rw [percussion]
      rfl
  | rest measures => exact quiet (Play.keepsQuiet_rest measures)
  | cresc factor measures shape => exact quiet (Play.keepsQuiet_cresc factor measures shape)
  | tempo bpm tick => exact quiet (Play.keepsQuiet_tempo bpm tick)
  | rit factor measures shape => exact quiet (Play.keepsQuiet_rit factor measures shape)
  | note tick pitch velocity => cases scored

end Moves

/-! ## §7. Sessions. -/

section Sessions

variable {γ : Type} [ChanceSource γ] {band : Band γ} {pitch : Quantity}

/-- No move adds a string or takes one away. -/
theorem Voice.strung_lasting : Voice.Lasting γ fun v w => v.Strung → w.Strung where
  trans h h' strung := h' (h strung)
  quiet h strung := by
    unfold Strung stringCount roots
    rw [h.sounding, h.tuning]
    exact strung
  onset h strung := h.grown.strung strung
  note _ _ strung := strung

theorem Voice.New.strung {v : Voice} (h : v.New) : v.Strung := by
  obtain ⟨options, -, -, fresh⟩ := h.fresh
  unfold Strung
  rw [fresh.sounding, List.length_replicate]

/-- Nothing hangs in a new voice. -/
theorem Voice.New.not_hangs {v : Voice} (h : v.New) : ¬v.Hangs pitch := by
  obtain ⟨options, -, -, fresh⟩ := h.fresh
  exact Voice.not_hangs_of_events fresh.events

theorem Voice.Strung.close {v : Voice} (h : v.Strung) : v.close.Strung := by
  show (v.sounding.map fun _ => none).length = v.stringCount
  rw [List.length_map, h]

/-- At every point of every session something is kept for each string. -/
theorem Session.throughout_strung (created : band.Created) (calls : List Call) (journal : Journal) :
    (run calls ⟨band, journal⟩).state.Throughout Voice.Strung := by
  have keeps : ∀ m : Move, True → ∀ p : Player γ, p.voice.Strung →
      m.act.Ensures p (fun _ q => q.voice.Strung) fun _ q => q.voice.Strung := by
    intro m _ p here
    exact (m.ensures_lasting Voice.strung_lasting p).mono (fun _ _ kept => kept here)
      fun _ _ kept => kept here
  exact .run_kept (fun _ => Voice.New.strung) (fun _ => Voice.Strung.close) keeps
    (fun _ _ _ => True.intro) (created.throughout fun _ => Voice.New.strung)

/-- A pitch that hangs in a session without single notes was dropped: at some point some drums
sounded it that have another pitch of their own, a tab then hit them all, and nothing has
happened to the pitch since. -/
theorem Session.hangs_dropped (created : band.Created) {calls : List Call}
    (scored : ∀ call ∈ calls, call.isNote = false) (journal : Journal) {part : Part} {v : Voice}
    (plays : (run calls ⟨band, journal⟩).state.voice? part = some v) (hangs : v.Hangs pitch) :
    ∃ before m after u, calls = before ++ .move part m :: after ∧
      (run before ⟨band, journal⟩).state.voice? part = some u ∧ m.Drops pitch u ∧
      u.Spares pitch v := by
  -- From the last call back: what it left alone hangs for a reason that is there before it,
  -- or the last call is the reason.
  induction calls using List.reverseRecOn generalizing v with
  | nil =>
    obtain ⟨-, rfl⟩ := created.only plays
    have new : band.master.New := created.new.1
    exact absurd hangs new.not_hangs
  | append_singleton calls call ih =>
    obtain ⟨scored, scoredLast⟩ := List.forall_mem_append.1 scored
    have strung := throughout_strung created calls journal
    let R (m : Move) (u w : Voice) : Prop :=
      u.Strung → w.Hangs pitch → u.Spares pitch w ∧ (u.Hangs pitch ∨ m.Drops pitch u)
    -- What hung before the last call, and was left alone by it, hangs for the same reason.
    have still : ∀ u : Voice, (run calls ⟨band, journal⟩).state.voice? part = some u →
        u.Hangs pitch → u.Spares pitch v → ∃ before m after x,
          calls ++ [call] = before ++ .move part m :: after ∧
          (run before ⟨band, journal⟩).state.voice? part = some x ∧ m.Drops pitch x ∧
          x.Spares pitch v := by
      intro u plays hangs alone
      obtain ⟨before, m, after, x, split, playsX, drops, spared⟩ := ih scored plays hangs
      refine ⟨before, m, after ++ [call], x, ?_, playsX, drops, spared.trans alone⟩
      rw [split, List.append_assoc]
      rfl
    have step : ∀ refused, PartStep refused R part call
        ((run calls ⟨band, journal⟩).state.voice? part) (some v) → ∃ before m after x,
          calls ++ [call] = before ++ .move part m :: after ∧
          (run before ⟨band, journal⟩).state.voice? part = some x ∧ m.Drops pitch x ∧
          x.Spares pitch v := by
      intro refused step
      generalize seat : (run calls ⟨band, journal⟩).state.voice? part = before at step
      cases step with
      | @played m u _ moved =>
        obtain ⟨alone, before | drops⟩ := moved (strung part u seat) hangs
        · exact still u seat before alone
        · exact ⟨calls, m, [], u, rfl, seat, drops, alone⟩
      | joined new => exact absurd hangs new.not_hangs
      | closed => exact absurd hangs (Voice.not_hangs_of_events rfl)
      | spared => exact still v seat hangs (Voice.spares_of_events rfl)
    have moves : ∀ m, call = .move part m → ∀ p : Player γ,
        m.act.Ensures p (fun _ q => R m p.voice q.voice) fun _ q => R m p.voice q.voice := by
      intro m same p
      have scored : m.isNote = false := by
        have scored := scoredLast call List.mem_cons_self
        rwa [same] at scored
      exact .given fun strung => m.ensures_minds scored strung
    rw [run_append] at plays
    change (call.perform.start (run calls ⟨band, journal⟩)).2.state.voice? part = _ at plays
    have contract : call.perform.Ensures (run calls ⟨band, journal⟩).state
        (fun _ b => PartStep False R part call _ (b.voice? part))
        fun _ b => PartStep True R part call _ (b.voice? part) := call.ensures_part moves
    cases outcome : (call.perform.start (run calls ⟨band, journal⟩)).1 with
    | ok song =>
      have moved := contract.of_ok outcome
      rw [plays] at moved
      exact step _ moved
    | error f =>
      have moved := contract.of_error outcome
      rw [plays] at moved
      exact step _ moved

/-- Finishing stops what strings still sound: a pitch that its track leaves open hangs. -/
theorem Voice.hangs_of_track {v : Voice} {track : Track}
    (made : Track.ofEvents v.noteTrackEvents = .ok track)
    (isOpen : leftOpen pitch (track.map Message.what) = true) : v.Hangs pitch := by
  have closing : ∀ h ∈ v.closingEvents.map Event.what, h.starts pitch = false := by
    intro h here
    rw [closingEvents_eq, List.map_map] at here
    obtain ⟨q, -, rfl⟩ := List.mem_map.1 here
    rfl
  rw [Track.ofEvents_what _ track made] at isOpen
  unfold noteTrackEvents at isOpen
  rw [List.map_append] at isOpen
  obtain ⟨isOpen, spared⟩ := leftOpen_append_stops closing isOpen
  -- The name and the program at the front are no notes.
  change leftOpen pitch v.timeline = true at isOpen
  refine ⟨isOpen, ?_⟩
  cases sounds : Bank.sounds v.sounding pitch with
  | false => rfl
  | true =>
    obtain ⟨sounding, here, same⟩ := List.any_eq_true.1 sounds
    cases sounding with
    | none => cases same
    | some q =>
      have stop : Happening.noteOff v.channel (.number q) (.whole 0) ∈
          v.closingEvents.map Event.what := by
        rw [closingEvents_eq, List.map_map]
        exact List.mem_map_of_mem (List.reduceOption_mem_iff.2 here)
      have stops : Happening.stops pitch (.noteOff v.channel (.number q) (.whole 0)) = true := same
      have alone := spared _ stop
      rw [Happening.touches_of_stops stops] at alone
      cases alone

/-- At the end of a session without single notes, every pitch that the note track of a part
starts is stopped last, or it was dropped. -/
theorem Session.open_pitches (created : band.Created) {calls : List Call}
    (scored : ∀ call ∈ calls, call.isNote = false) (journal : Journal) {part : Part} {v : Voice}
    (plays : (run calls ⟨band, journal⟩).state.voice? part = some v) {midi attribution : Datum}
    {song : Song} (finished : ((Perform.finish .master midi attribution).start
      (run calls ⟨band, journal⟩)).1 = .ok (some song)) :
    ∃ track, song.noteTrack? (run calls ⟨band, journal⟩).state.master.config.lead.isSome part =
        some track ∧
      ∀ pitch, (∃ h ∈ track.map Message.what, h.starts pitch = true) →
        (∃ last, lastTouch? pitch (track.map Message.what) = some last ∧
          last.stops pitch = true) ∨
        ∃ before parts beats after u grid,
          calls = before ++ .move part (.tab parts beats) :: after ∧
          (run before ⟨band, journal⟩).state.voice? part = some u ∧
          Play.readTab u parts beats = .ok grid ∧ u.Drops pitch grid ∧ u.Spares pitch v := by
  obtain ⟨w, -, -, ⟨-, nothing, -⟩ | ⟨-, s, folder, something, built, -⟩⟩ :=
    (Perform.ensures_finish .master midi attribution).of_ok finished
  · cases nothing
  · cases something
    obtain ⟨track, stands, made⟩ :=
      ((run calls ⟨band, journal⟩).state.song_builds _ song built).noteTrack plays
    refine ⟨track, stands, ?_⟩
    rintro pitch ⟨h, here, starts⟩
    cases isOpen : leftOpen pitch (track.map Message.what) with
    | false =>
      exact .inl (stops_of_not_leftOpen here (Happening.touches_of_starts starts) isOpen)
    | true =>
      have hangs := Voice.hangs_of_track made isOpen
      obtain ⟨before, m, after, u, split, playsU, ⟨parts, beats, g, rfl, read, drops⟩, spared⟩ :=
        hangs_dropped created scored journal plays hangs
      exact .inr ⟨before, parts, beats, after, u, g, split, playsU, read, drops, spared⟩

end Sessions

/-! ## §8. A drum and a chord. -/

/-- A new band of one drum, whose own pitch is 35. -/
def drumStart : Except Fault (Desk (Band Script)) :=
  Session.begin [] [("percussion", .truth true), ("strings", .list [.text "Acoustic Bass Drum"])]

/-- The drum sounds a pitch that is not its own. -/
def foreignStroke : Call :=
  .move .master (.play (.pattern ⟨[⟨1, [⟨1, 80⟩]⟩]⟩) [.list [.whole 3]])

/-- Silence leaves the pitch on its drum. -/
def keptCalls : List Call := [foreignStroke, .move .master (.rest (.whole 1))]

/-- A tab hits the drum. -/
def droppedCalls : List Call := [foreignStroke, .move .master (.tab [.text "|9---|"] .null)]

/-- The note track of the master, if the band can be finished. -/
def finishedTrack (desk : Desk (Band Script)) : Option Track :=
  (finishedSong desk).bind (·.noteTrack? desk.state.master.config.lead.isSome .master)

theorem finishedTrack_eq_some {desk : Desk (Band Script)} {track : Track}
    (finishes : finishedTrack desk = some track) :
    ∃ song, ((Perform.finish .master .null .null).start desk).1 = .ok (some song) ∧
      song.noteTrack? desk.state.master.config.lead.isSome .master = some track := by
  obtain ⟨song, returned, stands⟩ := Option.bind_eq_some_iff.1 finishes
  refine ⟨song, ?_, stands⟩
  unfold finishedSong at returned
  cases outcome : ((Perform.finish .master .null .null).start desk).1 with
  | error f =>
    rw [outcome] at returned
    cases returned
  | ok song? =>
    rw [outcome] at returned
    exact congrArg Except.ok returned

/-- What stays on its drum is stopped at the end. -/
theorem kept_stopped :
    ∃ desk song track last, drumStart = .ok desk ∧
      ((Perform.finish .master .null .null).start (Session.run keptCalls desk)).1 =
        .ok (some song) ∧
      song.noteTrack? (Session.run keptCalls desk).state.master.config.lead.isSome .master =
        some track ∧
      lastTouch? (.whole 38) (track.map Message.what) = some last ∧ last.stops (.whole 38) := by
  have seen : (drumStart.toOption.map fun desk => (finishedTrack (Session.run keptCalls desk)).map
      fun track => (track.map Message.what).any (·.starts (.whole 38))) = some (some true) := by
    decide +kernel
  obtain ⟨desk, created, seen⟩ := exists_ok_of_seen seen
  obtain ⟨track, finishes, starts⟩ := Option.map_eq_some_iff.1 seen
  obtain ⟨song, finished, stands⟩ := finishedTrack_eq_some finishes
  have scored : ∀ call ∈ keptCalls, call.isNote = false := by decide
  have plays : (Session.run keptCalls desk).state.voice? .master =
      some (Session.run keptCalls desk).state.master := rfl
  obtain ⟨track', stands', each⟩ := Session.open_pitches (Session.begin_created _ _ desk created)
    scored desk.journal plays finished
  rw [stands] at stands'
  cases stands'
  rcases each (.whole 38) (List.any_eq_true.1 starts) with ⟨last, touched, stops⟩ | dropped
  · exact ⟨desk, song, track, last, created, finished, stands, touched, stops⟩
  · -- There is no tab among the calls.
    obtain ⟨before, parts, beats, after, u, grid, split, -⟩ := dropped
    have tab : Call.move .master (.tab parts beats) ∈ keptCalls := by
      rw [split]
      exact List.mem_append_right _ List.mem_cons_self
    simp [keptCalls, foreignStroke] at tab

/-- What a tab drops is left open at the end, though all calls go well. -/
theorem dropped_open :
    ∃ desk song track, drumStart = .ok desk ∧ desk.state.master.config.isPercussion = true ∧
      Session.Flawless droppedCalls desk ∧
      ((Perform.finish .master .null .null).start (Session.run droppedCalls desk)).1 =
        .ok (some song) ∧
      song.noteTrack? (Session.run droppedCalls desk).state.master.config.lead.isSome .master =
        some track ∧
      ∃ last, lastTouch? (.whole 38) (track.map Message.what) = some last ∧
        last.starts (.whole 38) = true := by
  have seen : (drumStart.toOption.map fun desk => (desk.state.master.config.isPercussion,
      decide (Session.Flawless droppedCalls desk),
      (finishedTrack (Session.run droppedCalls desk)).map fun track =>
        leftOpen (.whole 38) (track.map Message.what))) = some (true, true, some true) := by
    decide +kernel
  obtain ⟨desk, created, seen⟩ := exists_ok_of_seen seen
  simp only [Prod.mk.injEq] at seen
  obtain ⟨percussion, flawless, seen⟩ := seen
  obtain ⟨track, finishes, isOpen⟩ := Option.map_eq_some_iff.1 seen
  obtain ⟨song, finished, stands⟩ := finishedTrack_eq_some finishes
  exact ⟨desk, song, track, created, percussion, of_decide_eq_true flawless, finished, stands,
    starts_of_leftOpen isOpen⟩

end Plectrum
