/-
  Plectrum.Proofs.NoteBalance
  ───────────────────────────
  **On melodic strings every note that ends has begun.**

  A melodic strike first cuts the note that sounds on its string.  So at any point of
  the timeline a pitch has been started as often as it has been stopped, and once more
  for each string that still sounds it; and no stop ever comes before its start.  The
  note track closes what still sounds, so there the two numbers are equal.
-/
import Plectrum.Proofs.Sessions
import Plectrum.Proofs.Straying
import Plectrum.Proofs.Tracks

namespace Plectrum

/-! ## §1. Counting starts and stops. -/

/-- The start of a note of a pitch. -/
def Happening.starts (pitch : Quantity) : Happening → Bool
  | .noteOn _ (.number q) _ => q.same pitch
  | _ => false

/-- The end of a note of a pitch. -/
def Happening.stops (pitch : Quantity) : Happening → Bool
  | .noteOff _ (.number q) _ => q.same pitch
  | _ => false

/-- Whether a string sounds a pitch. -/
def soundsPitch (pitch : Quantity) (sounding : Option Quantity) : Bool :=
  sounding.any (·.same pitch)

/-- How many strings sound a pitch. -/
def Bank.level (bank : Bank) (pitch : Quantity) : Nat := bank.countP (soundsPitch pitch)

/-- Happenings that lead from strings that sound to strings that sound: the starts of a
pitch make up for its stops, and stops never run ahead. -/
structure Balances (pitch : Quantity) (bank : Bank) (hs : List Happening) (bank' : Bank) :
    Prop where
  even : hs.countP (·.starts pitch) + bank.level pitch =
    hs.countP (·.stops pitch) + bank'.level pitch
  never : ∀ n, (hs.take n).countP (·.stops pitch) ≤
    (hs.take n).countP (·.starts pitch) + bank.level pitch

namespace Balances

variable {pitch : Quantity} {bank bank' bank'' : Bank} {hs hs' : List Happening}

theorem nil (bank : Bank) : Balances pitch bank [] bank := by
  refine ⟨rfl, fun n => ?_⟩
  rw [List.take_nil]
  exact Nat.zero_le _

theorem trans (h : Balances pitch bank hs bank') (h' : Balances pitch bank' hs' bank'') :
    Balances pitch bank (hs ++ hs') bank'' := by
  have even := h.even
  have even' := h'.even
  refine ⟨?_, fun n => ?_⟩
  · rw [List.countP_append, List.countP_append]
    omega
  · rw [List.take_append, List.countP_append, List.countP_append]
    by_cases within : n ≤ hs.length
    · have never := h.never n
      rw [Nat.sub_eq_zero_of_le within, List.take_zero]
      exact never
    · have never' := h'.never (n - hs.length)
      rw [List.take_of_length_le (Nat.le_of_not_le within)]
      omega

/-- One happening. -/
theorem single {what : Happening}
    (even : (if what.starts pitch then 1 else 0) + bank.level pitch =
      (if what.stops pitch then 1 else 0) + bank'.level pitch)
    (apart : what.stops pitch = true → 0 < bank.level pitch) :
    Balances pitch bank [what] bank' := by
  refine ⟨?_, fun n => ?_⟩
  · rw [List.countP_singleton, List.countP_singleton]
    exact even
  · cases n with
    | zero => exact Nat.zero_le _
    | succ n =>
      rw [List.take_succ_cons, List.take_nil, List.countP_singleton, List.countP_singleton]
      split
      · next stops =>
        have sounding := apart stops
        omega
      · exact Nat.zero_le _

end Balances

/-! ## §2. Strikes keep the balance. -/

section Strikes

variable (pitch : Quantity) {bank bank' : Bank}

/-- What a string sounds is part of the level. -/
theorem Bank.level_set {index : Nat} (inBank : index < bank.length) (s : Option Quantity) :
    Bank.level (bank.set index s) pitch + (if soundsPitch pitch bank[index] then 1 else 0) =
      Bank.level bank pitch + (if soundsPitch pitch s then 1 else 0) := by
  unfold level
  rw [List.countP_set inBank]
  have part : (if soundsPitch pitch bank[index] then 1 else 0) ≤ bank.countP (soundsPitch pitch) :=
    List.boole_getElem_le_countP inBank
  omega

/-- A cut ends the note of its string. -/
theorem balances_cut (channel : Datum) (tick : Int) (index : Nat) :
    Balances pitch bank ((Bank.cut bank channel tick index).map Event.what)
      (bank.set index none) := by
  by_cases uncut : Bank.cut bank channel tick index = []
  · rw [Bank.set_of_uncut uncut, uncut]
    exact .nil bank
  · cases found : bank[index]? with
    | none =>
      cases uncut (by unfold Bank.cut; rw [found])
    | some sounding =>
      cases sounding with
      | none =>
        cases uncut (by unfold Bank.cut; rw [found])
      | some old =>
        have cut : Bank.cut bank channel tick index = [.stop channel tick old] := by
          unfold Bank.cut
          rw [found]
        obtain ⟨inBank, value⟩ := List.getElem?_eq_some_iff.1 found
        have level := Bank.level_set pitch inBank none
        rw [value] at level
        rw [cut]
        refine .single ?_ ?_
        · change 0 + Bank.level bank pitch =
            (if old.same pitch then 1 else 0) + Bank.level (bank.set index none) pitch
          change _ + (if old.same pitch then 1 else 0) = Bank.level bank pitch + 0 at level
          omega
        · intro same
          change old.same pitch = true at same
          change _ + (if old.same pitch then 1 else 0) = Bank.level bank pitch + 0 at level
          rw [if_pos same] at level
          omega

/-- A note starts on a silent string. -/
theorem balances_start (channel : Datum) (tick : Int) {index : Nat} (inBank : index < bank.length)
    (silent : bank[index] = none) (q : Quantity) (velocity : Int) :
    Balances pitch bank [(Event.start channel tick q velocity).what]
      (bank.set index (some q)) := by
  have level := Bank.level_set pitch inBank (some q)
  rw [silent] at level
  refine .single ?_ ?_
  · change (if q.same pitch then 1 else 0) + Bank.level bank pitch =
      0 + Bank.level (bank.set index (some q)) pitch
    change _ + 0 = Bank.level bank pitch + (if q.same pitch then 1 else 0) at level
    omega
  · intro stops
    cases stops

variable {pitch}

/-- A velocity of these settings never strays down to silence. -/
def NeverSilent (config : Config) (stray : Binary64) : Prop :=
  ∀ velocity force, 0 < velocity → Play.strayed config.volumeSpread velocity stray = .ok force →
    force.le (.whole 0) = false

variable {config : Config} {tuning : Tuning} {tick : Int} {stray : Binary64} {es : List Event}

/-- A strike that cuts keeps the balance, whichever way it goes. -/
theorem Struck.balances (h : Struck config tuning tick stray true bank es bank')
    (strung : bank.length = tuning.roots.length) (loud : NeverSilent config stray) :
    Balances pitch bank (es.map Event.what) bank' := by
  cases h with
  | muted index q =>
    show Balances pitch bank ((Bank.cut bank config.channelDatum tick index ++ []).map _) _
    rw [List.append_nil]
    exact balances_cut _ _ _ index
  | sounded index q velocity onString low high =>
    have inBank : index < (bank.set index none).length := by
      rw [List.length_set, strung]
      exact onString
    have silent : (bank.set index none)[index] = none := List.getElem_set_self _
    have start := balances_start pitch config.channelDatum tick inBank silent q velocity
    rw [List.set_set] at start
    rw [List.map_append]
    exact (balances_cut pitch config.channelDatum tick index).trans start
  | strayedOut index q written force positive strays silent =>
    rw [loud written force positive strays] at silent
    cases silent

theorem Strikes.balances (h : Strikes config tuning tick stray true bank es bank')
    (strung : bank.length = tuning.roots.length) (loud : NeverSilent config stray) :
    Balances pitch bank (es.map Event.what) bank' := by
  induction h with
  | nil bank => exact .nil bank
  | cons first _ ih =>
    rw [List.map_append]
    exact (first.balances strung loud).trans (ih (first.length_eq.trans strung))

end Strikes

/-! ## §3. So do passages. -/

/-- What has happened in a voice, in the order of recording. -/
def Voice.timeline (v : Voice) : List Happening := v.events.toList.map Event.what

/-- A melodic voice within the bounds of its settings, with something kept for each string,
whose velocities are drawn within the spread. -/
structure Voice.Fair (γ : Type) [ChanceSource γ] (v : Voice) : Prop where
  melodic : v.config.isPercussion = false
  inBounds : v.config.InBounds
  strung : v.sounding.length = v.stringCount
  draws : ∀ x, Drawn γ v.config.volumeSpread x → Within v.config.volumeSpread x

/-- From one state of a voice to a later one, what happened keeps the balance of a pitch. -/
def Voice.Flows (pitch : Quantity) (v w : Voice) : Prop :=
  ∃ hs, w.timeline = v.timeline ++ hs ∧ Balances pitch v.sounding hs w.sounding

section Passages

variable {γ : Type} [ChanceSource γ] {pitch : Quantity} {v w x : Voice}

theorem Voice.Grown.strung (h : v.Grown w) (strung : v.sounding.length = v.stringCount) :
    w.sounding.length = w.stringCount := by
  rw [h.strings, strung]
  unfold Voice.stringCount Voice.roots
  rw [h.tuning]

theorem Voice.Fair.grown (fair : v.Fair γ) (h : v.Grown w) : w.Fair γ := by
  refine ⟨?_, ?_, h.strung fair.strung, ?_⟩
  · rw [h.config]
    exact fair.melodic
  · rw [h.config]
    exact fair.inBounds
  · rw [h.config]
    exact fair.draws

theorem Voice.Fair.neverSilent (fair : v.Fair γ) {stray : Binary64}
    (strays : Strays γ v.config.volumeSpread stray) : NeverSilent v.config stray :=
  fun _ _ positive strayed =>
    strayed_pos fair.inBounds.volumeSpread (strays.within fair.draws) positive strayed

namespace Voice.Flows

theorem trans (h : v.Flows pitch w) (h' : w.Flows pitch x) : v.Flows pitch x := by
  obtain ⟨hs, more, balances⟩ := h
  obtain ⟨hs', more', balances'⟩ := h'
  refine ⟨hs ++ hs', ?_, balances.trans balances'⟩
  rw [more', more, List.append_assoc]

/-- Nothing happened. -/
theorem of_still (events : w.events = v.events) (sounding : w.sounding = v.sounding) :
    v.Flows pitch w := by
  refine ⟨[], ?_, ?_⟩
  · unfold Voice.timeline
    rw [events, List.append_nil]
  · rw [sounding]
    exact .nil _

end Voice.Flows

theorem Onset.flows {nominal : Quantity} (h : Onset γ true nominal v w) (fair : v.Fair γ) :
    v.Flows pitch w := by
  obtain ⟨d, -, strays, strikes⟩ := h
  refine ⟨_, ?_, strikes.balances fair.strung (fair.neverSilent strays)⟩
  unfold Voice.timeline
  rw [← List.map_append]
  exact congrArg _ Array.toList_append

theorem Onsets.flows {nominals : List Quantity} (h : Onsets γ true nominals v w)
    (fair : v.Fair γ) : v.Flows pitch w := by
  induction h with
  | nil v => exact .of_still rfl rfl
  | cons first _ ih => exact (first.flows fair).trans (ih (fair.grown first.grown))

theorem Measured.flows {groups : List Group} (h : Measured γ groups v w) (fair : v.Fair γ) :
    v.Flows pitch w := by
  obtain ⟨nominals, x, clock, -, onsets, -, rfl⟩ := h
  exact (onsets.flows fair).trans (.of_still rfl rfl)

theorem Measures.flows {groups : List Group} {count : Nat} (h : Measures γ groups count v w)
    (fair : v.Fair γ) : v.Flows pitch w := by
  induction h with
  | nil v => exact .of_still rfl rfl
  | cons first _ ih => exact (first.flows fair).trans (ih (fair.grown first.grown))

/-- A melodic voice keeps its balance, whatever it plays. -/
theorem Sheet.Played.flows {sheet : Sheet} (h : sheet.Played γ v w) (fair : v.Fair γ) :
    v.Flows pitch w := by
  cases sheet with
  | measures p parsed =>
    have still : v.Flows pitch { v with skip := .whole 0 } := .of_still rfl rfl
    exact still.trans (Measures.flows h (fair.grown (v.grown_rest _ _)))
  | grid g =>
    obtain ⟨nominals, x, clock, -, onsets, rfl⟩ := h
    have closes : v.tabStyle.closesSounding = true := by
      unfold Voice.tabStyle
      rw [fair.melodic]
      rfl
    rw [closes] at onsets
    exact (onsets.flows fair).trans (.of_still rfl rfl)

end Passages

/-! ## §4. So do sessions. -/

section Sessions

variable {γ : Type} [ChanceSource γ]

/-- The balance of a voice since it has come to be. -/
def Voice.Balanced (pitch : Quantity) (v : Voice) : Prop := Balances pitch [] v.timeline v.sounding

/-- The invariant of a session: settings are within bounds, something is kept for each
string, and melodic voices with fair draws are balanced. -/
structure Voice.InTune (γ : Type) [ChanceSource γ] (v : Voice) : Prop where
  inBounds : v.config.InBounds
  strung : v.sounding.length = v.stringCount
  balanced : v.config.isPercussion = false →
    (∀ x, Drawn γ v.config.volumeSpread x → Within v.config.volumeSpread x) →
    ∀ pitch, v.Balanced pitch

theorem Bank.level_silent (count : Nat) (pitch : Quantity) :
    Bank.level (List.replicate count none) pitch = 0 := by
  unfold level
  rw [List.countP_replicate]
  exact if_neg Bool.false_ne_true

/-- Nothing has happened, and nothing sounds. -/
theorem Voice.balanced_silent {v : Voice} {count : Nat} (events : v.events = #[])
    (sounding : v.sounding = List.replicate count none) (pitch : Quantity) : v.Balanced pitch := by
  unfold Balanced timeline
  rw [events, sounding]
  refine ⟨?_, fun n => ?_⟩
  · rw [Bank.level_silent]
    rfl
  · rw [List.map_nil, List.take_nil]
    exact Nat.zero_le _

theorem Voice.inTune_new {v : Voice} (h : v.New) : v.InTune γ := by
  obtain ⟨options, config, tuning, auxiliary, accepted, -, created⟩ := h
  have fresh := Voice.create_fresh config tuning auxiliary v created
  refine ⟨?_, ?_, fun _ _ pitch => Voice.balanced_silent fresh.events fresh.sounding pitch⟩
  · rw [fresh.config]
    exact Config.ofOptions_inBounds options config accepted
  · rw [fresh.sounding, List.length_replicate]

theorem Voice.InTune.close {v : Voice} (h : v.InTune γ) : v.close.InTune γ := by
  refine ⟨h.inBounds, ?_, fun _ _ pitch => ?_⟩
  · show (v.sounding.map fun _ => none).length = v.stringCount
    rw [List.length_map, h.strung]
  · have silent : v.close.sounding = List.replicate v.sounding.length none := List.map_const'
    exact Voice.balanced_silent rfl silent pitch

theorem Voice.InTune.quiet {v w : Voice} (h : v.InTune γ) (quiet : v.Quiet w) : w.InTune γ := by
  refine ⟨?_, ?_, ?_⟩
  · rw [quiet.config]
    exact h.inBounds
  · unfold stringCount roots
    rw [quiet.sounding, quiet.tuning]
    exact h.strung
  · intro melodic draws pitch
    rw [quiet.config] at melodic draws
    unfold Balanced timeline
    rw [quiet.events, quiet.sounding]
    exact h.balanced melodic draws pitch

theorem Voice.InTune.played {v w : Voice} (h : v.InTune γ) {sheet : Sheet}
    (played : sheet.Played γ v w) : w.InTune γ := by
  have grown := played.grown
  refine ⟨?_, grown.strung h.strung, ?_⟩
  · rw [grown.config]
    exact h.inBounds
  · intro melodic draws pitch
    rw [grown.config] at melodic draws
    obtain ⟨hs, more, balances⟩ := played.flows ⟨melodic, h.inBounds, h.strung, draws⟩
    unfold Balanced
    rw [more]
    exact (h.balanced melodic draws pitch).trans balances

/-- Every move but a single note keeps the invariant, also where it fails as music does. -/
theorem Move.keeps_inTune (m : Move) (scored : m.isNote = false) (p : Player γ)
    (h : p.voice.InTune γ) :
    m.act.Ensures p (fun _ q => q.voice.InTune γ)
      fun f q => f.kind.isMusical = true → q.voice.InTune γ := by
  refine (m.ensures_act scored p).mono ?_ ?_
  · rintro _ q (quiet | ⟨sheet, played⟩)
    · exact h.quiet quiet
    · exact h.played played
  · intro f q here musical
    exact h.quiet (here musical)

/-- So every voice is in tune at every point of a session. -/
theorem Session.inTune {band : Band γ} (created : band.Created) {calls : List Call}
    {journal : Journal} (scored : ∀ call ∈ calls, call.isNote = false)
    (graceful : Graceful calls ⟨band, journal⟩) :
    (run calls ⟨band, journal⟩).state.Throughout (Voice.InTune γ) := by
  exact Band.Throughout.run (fun v => Voice.inTune_new) (fun v => Voice.InTune.close)
    Move.keeps_inTune (created.throughout fun v => Voice.inTune_new)
    (fun part m asked => scored (.move part m) asked) graceful

end Sessions

/-! ## §5. So does the song. -/

section Finish

variable {v : Voice} {pitch : Quantity}

/-- At the end each string that still sounds a pitch ends a note of it. -/
theorem Voice.closing_stops (v : Voice) (pitch : Quantity) :
    (v.closingEvents.map Event.what).countP (·.stops pitch) = Bank.level v.sounding pitch := by
  unfold closingEvents
  rw [List.map_filterMap, List.countP_filterMap]
  refine List.countP_congr fun sounding _ => ?_
  cases sounding <;> exact Iff.rfl

/-- Nothing starts at the end. -/
theorem Voice.closing_starts (v : Voice) (pitch : Quantity) :
    (v.closingEvents.map Event.what).countP (·.starts pitch) = 0 := by
  rw [closingEvents_eq, List.map_map, List.countP_map, List.countP_eq_zero]
  intro q _ starts
  cases starts

/-- The note track of a balanced voice starts each pitch as often as it stops it. -/
theorem Voice.Balanced.track (h : v.Balanced pitch) {track : Track}
    (made : Track.ofEvents v.noteTrackEvents = .ok track) :
    (track.map Message.what).countP (·.starts pitch) =
      (track.map Message.what).countP (·.stops pitch) := by
  have even : v.timeline.countP (·.starts pitch) + 0 =
    v.timeline.countP (·.stops pitch) + Bank.level v.sounding pitch := h.even
  rw [Track.ofEvents_what _ track made]
  unfold noteTrackEvents
  rw [List.map_append, List.map_append, List.countP_append, List.countP_append,
    List.countP_append, List.countP_append, v.closing_starts, v.closing_stops]
  change 0 + v.timeline.countP _ + 0 = 0 + v.timeline.countP _ + _
  omega

variable {γ : Type} [ChanceSource γ]

/-- At every point of a session a melodic voice has stopped no pitch more often than it has
started it, the strings that sound a pitch make the difference, and the song that finishing
then returns starts each pitch as often as it stops it. -/
theorem Session.note_balance {band : Band γ} (created : band.Created) {calls : List Call}
    {journal : Journal} (scored : ∀ call ∈ calls, call.isNote = false)
    (graceful : Graceful calls ⟨band, journal⟩) {part : Part} {v : Voice}
    (plays : (run calls ⟨band, journal⟩).state.voice? part = some v)
    (melodic : v.config.isPercussion = false)
    (draws : ∀ x, Drawn γ v.config.volumeSpread x → Within v.config.volumeSpread x)
    (pitch : Quantity) :
    let now := run calls ⟨band, journal⟩
    (∀ n, (v.timeline.take n).countP (·.stops pitch) ≤
      (v.timeline.take n).countP (·.starts pitch)) ∧
    v.timeline.countP (·.starts pitch) =
      v.timeline.countP (·.stops pitch) + v.sounding.countP (soundsPitch pitch) ∧
    ∀ midi attribution song,
      ((Perform.finish .master midi attribution).start now).1 = .ok (some song) →
      ∃ track, song.noteTrack? now.state.master.config.lead.isSome part = some track ∧
        (track.map Message.what).countP (·.starts pitch) =
          (track.map Message.what).countP (·.stops pitch) := by
  intro now
  have balanced : v.Balanced pitch :=
    (inTune created scored graceful part v plays).balanced melodic draws pitch
  refine ⟨balanced.never, balanced.even, ?_⟩
  intro midi attribution song finished
  obtain ⟨w, master, -, ⟨-, none_, -⟩ | ⟨-, s, folder, some_, built, -⟩⟩ :=
    (Perform.ensures_finish .master midi attribution).of_ok finished
  · cases none_
  · cases some_
    obtain ⟨track, stands, made⟩ := (now.state.song_builds _ song built).noteTrack plays
    exact ⟨track, stands, balanced.track made⟩

end Finish

/-! ## §6. A balanced session. -/

/-- A source that draws its bound and the negative of its bound in turn. -/
inductive Swing where
  | up
  | down

instance : ChanceSource Swing where
  spread
    | bound, .up => (bound, .down)
    | bound, .down => (bound.neg, .up)

theorem drawn_swing {x : Binary64} (drawn : Drawn Swing (.whole 5) x) : Within (.whole 5) x := by
  obtain ⟨source, rfl⟩ := drawn
  cases source with
  | up => exact ⟨5, 5, rfl, by decide +kernel, by decide, by decide⟩
  | down => exact ⟨5, -5, rfl, by decide +kernel, by decide, by decide⟩

/-- A new band of two strings that stray as far as they may. -/
def swinging : Except Fault (Desk (Band Swing)) :=
  Session.begin .up
    [("strings", .list [.whole 40, .whole 45]), ("rvol", .whole 5), ("rtime", .whole 3)]

/-- Both strings are struck and struck again, one of them is muted, and one call is refused. -/
def swingCalls : List Call :=
  let strum : Pattern := ⟨[⟨1, [⟨1, 80⟩, ⟨2, 90⟩]⟩, ⟨2, [⟨1, 0⟩, ⟨2, 60⟩]⟩]⟩
  [.move .master (.play (.pattern strum) [.list [.whole 3, .whole 5], .list [.whole 3, .whole 1]]),
   .move .master (.play (.pattern strum) []), .move .master (.rest (.whole 1))]

/-- After these calls the lower string sounds its pitch, and has sounded it before. -/
theorem swing_balanced :
    ∃ desk v, swinging = .ok desk ∧ Session.Graceful swingCalls desk ∧
      (Session.run swingCalls desk).state.voice? .master = some v ∧
      v.timeline.countP (·.starts (.whole 43)) = 4 ∧
      v.timeline.countP (·.starts (.whole 43)) = v.timeline.countP (·.stops (.whole 43)) + 1 := by
  have seen : (swinging.toOption.map fun desk =>
      let v := (Session.run swingCalls desk).state.master
      (decide (Session.Graceful swingCalls desk), v.config.isPercussion,
        v.config.volumeSpread, v.timeline.countP (·.starts (.whole 43)),
        v.sounding.countP (soundsPitch (.whole 43)))) = some (true, false, .whole 5, 4, 1) := by
    decide +kernel
  obtain ⟨desk, created, seen⟩ := exists_ok_of_seen seen
  simp only [Prod.mk.injEq] at seen
  obtain ⟨graceful, melodic, spread, starts, sounds⟩ := seen
  have graceful : Session.Graceful swingCalls desk := of_decide_eq_true graceful
  have draws : ∀ x, Drawn Swing (.whole 5) x → Within (.whole 5) x := fun _ => drawn_swing
  rw [← spread] at draws
  have scored : ∀ call ∈ swingCalls, call.isNote = false := by decide
  have plays : (Session.run swingCalls desk).state.voice? .master =
      some (Session.run swingCalls desk).state.master := rfl
  obtain ⟨-, even, -⟩ := Session.note_balance (Session.begin_created _ _ desk created) scored
    graceful plays melodic draws (.whole 43)
  rw [sounds] at even
  exact ⟨desk, _, created, graceful, plays, starts, even⟩

end Plectrum
