/-
  Plectrum.Proofs.Writable
  ────────────────────────
  **What is accepted, and what fits the format.**

  Settings are checked when an instrument is made, and tempos when they are set, but not all
  against the bounds of the format: a tempo has no lower bound, and a time signature may have
  any number of beats.  So a performance may turn out at its end to be one that cannot be
  written.  Here is exactly when, for a master that only changes its tempo.  Nor has a lead-in an
  upper bound: a metronome that goes on up to the top of the number line is never written at all.

  Main results:
    * `Track.ofEvents_ok_iff` — a track can be made if and only if its ticks can be settled
      and every value fits;
    * `Session.finish_accepted` — finishing returns a song if and only if the tempos, the
      beats and the other settings fit the format, as long as the metronome comes to an end;
      for settings of their declared kinds it does, and only the tempos, the beats and the
      length of the clock are left.
-/
import Plectrum.Proofs.Clicks
import Plectrum.Proofs.ReadBack
import Plectrum.Proofs.Tempos

namespace Plectrum

/-! ## §1. Values that fit. -/

/-- Two checks pass if each of them passes. -/
theorem checks_ok_iff {first : Except Fault Unit} {next : Unit → Except Fault Unit} :
    first >>= next = .ok () ↔ first = .ok () ∧ next () = .ok () := by
  cases first with
  | ok u => exact ⟨fun passed => ⟨rfl, passed⟩, fun passed => passed.2⟩
  | error f => exact iff_of_false nofun nofun

/-- A happening whose values fit the format. -/
def Happening.Fits (what : Happening) : Prop := Message.check (.whole 0) what = .ok ()

instance (what : Happening) : Decidable what.Fits :=
  match same : Message.check (.whole 0) what with
  | .ok _ => isTrue same
  | .error _ => isFalse fun fits => nomatch fits.symm.trans same

namespace Message

/-- A delta that is a number makes no difference to the checks. -/
theorem check_number (delta : Quantity) (what : Happening) :
    check (.number delta) what = check (.whole 0) what := by
  cases what <;> rfl

theorem ofEvent_ok_iff {delta : Quantity} {e : Event} :
    (∃ m, ofEvent (.number delta) e = .ok m) ↔ e.what.Fits := by
  unfold ofEvent Happening.Fits
  rw [check_number]
  cases check (.whole 0) e.what with
  | ok u => exact iff_of_true ⟨_, rfl⟩ rfl
  | error f => exact iff_of_false (fun ⟨_, made⟩ => nomatch made) nofun

theorem checkAttribute_whole_iff {low high : Nat} {n : Int} :
    checkAttribute low high (.whole n) = .ok () ↔ (low : Int) ≤ n ∧ n ≤ high := by
  show (if (low : Int) ≤ n ∧ n ≤ high then .ok () else .error (Fault.attributeRange low high) :
    Except Fault Unit) = .ok () ↔ _
  split
  · next within => exact iff_of_true rfl within
  · next outside => exact iff_of_false nofun outside

/-- A note that may be one beat passes as a denominator. -/
theorem checkDenominator_unit {unit : Nat} (known : unit ∈ Signature.units) :
    checkDenominator (.whole unit) = .ok () := by
  obtain ⟨power, found, -⟩ := denominatorPower_unit known
  have bounds : 1 ≤ unit ∧ unit ≤ 16 := by
    simp only [Signature.units, List.mem_cons, List.not_mem_nil, or_false] at known
    omega
  have large : 16 ≤ maxDenominator := by decide
  refine checks_ok_iff.2 ⟨checkAttribute_whole_iff.2 ⟨by omega, by omega⟩, ?_⟩
  rw [integer_of_int (d := .whole unit) rfl]
  have passes : (denominatorPower? (unit : Int)).isNone ≠ true := by
    rw [found]
    exact Bool.noConfusion
  -- The logarithms are not to be computed here.
  have step : ∀ next : Int → Except Fault Unit, (Except.ok (unit : Int) >>= next) = next unit :=
    fun _ => rfl
  rw [step, if_neg passes]
  rfl

/-- A channel between its bounds passes if and only if it is a whole number. -/
theorem checkChannel_between {channel : Quantity}
    (inRange : Config.between (.whole 0) Config.lastChannel channel = true) :
    checkChannel (.number channel) = .ok () ↔ channel.integer?.isSome = true := by
  cases whole : channel.integer? with
  | none =>
    refine iff_of_false (fun passed => ?_) nofun
    obtain ⟨n, here, -⟩ := checkChannel_ok passed
    change channel.integer? = _ at here
    rw [whole] at here
    cases here
  | some n =>
    refine iff_of_true ?_ rfl
    have bounds : 0 ≤ n ∧ n ≤ 15 := by
      obtain ⟨low, high⟩ := Bool.and_eq_true_iff.1 inRange
      rw [Quantity.le_of_integer (n := n) rfl whole, decide_eq_true_eq] at low
      rw [Quantity.le_of_integer (n := 15) whole rfl, decide_eq_true_eq] at high
      exact ⟨low, high⟩
    show (integer (.number channel) >>= fun n =>
      if 0 ≤ n ∧ n ≤ 15 then .ok () else .error Fault.channelByte) = _
    rw [integer_of_int (d := .number channel) whole]
    exact if_pos bounds

end Message

namespace Happening

theorem fits_text (content : Text) : (text (.text content)).Fits := rfl

theorem fits_trackName_iff {name : Datum} : (trackName name).Fits ↔ ∃ t, name = .text t := by
  constructor
  · intro fits
    exact Message.checkText_ok (checks_ok_iff.1 fits).1
  · rintro ⟨t, rfl⟩
    rfl

theorem fits_setTempo_iff {n : Int} :
    (setTempo (.whole n)).Fits ↔ 0 ≤ n ∧ n ≤ Message.maxTempo :=
  (checks_ok_iff.trans (and_iff_left rfl)).trans Message.checkAttribute_whole_iff

/-- Of a time signature the beats alone can be too many. -/
theorem fits_timeSignature_iff {beats unit : Nat} (known : unit ∈ Signature.units) :
    (timeSignature (.list [.whole beats, .whole unit])).Fits ↔ beats ≤ 255 := by
  have denominator : Message.checkDenominator (.whole unit) = .ok () ∧
      Message.checkDelta (.whole 0) = .ok () := ⟨Message.checkDenominator_unit known, rfl⟩
  have beatsFit : Message.checkAttribute 0 255 (.whole beats) = .ok () ↔ beats ≤ 255 := by
    rw [Message.checkAttribute_whole_iff]
    omega
  exact (checks_ok_iff.trans (and_iff_left (checks_ok_iff.2 denominator))).trans beatsFit

/-- Of a program that is in range and a channel between bounds, the channel may be no whole
number. -/
theorem fits_programChange_iff {channel : Quantity} {patch : Int}
    (inRange : Config.between (.whole 0) Config.lastChannel channel = true)
    (known : 0 ≤ patch ∧ patch ≤ 127) :
    (programChange (.number channel) (.whole patch)).Fits ↔ channel.integer?.isSome = true := by
  have patchFits : Message.checkData (.whole patch) = .ok () := if_pos known
  have same : (programChange (.number channel) (.whole patch)).Fits ↔
      Message.checkChannel (.number channel) = .ok () :=
    (checks_ok_iff.trans (and_iff_right rfl)).trans
      (checks_ok_iff.trans (and_iff_left patchFits))
  exact same.trans (Message.checkChannel_between inRange)

end Happening

/-! ## §2. Tracks that can be made. -/

/-- A walk goes well if and only if each step does. -/
theorem mapM_ok_iff {α β : Type} {step : α → Except Fault β} {as : List α} :
    (∃ bs, as.mapM step = .ok bs) ↔ ∀ a ∈ as, ∃ b, step a = .ok b := by
  induction as with
  | nil => exact iff_of_true ⟨[], rfl⟩ fun _ here => nomatch here
  | cons a as ih =>
    rw [List.forall_mem_cons, ← ih, List.mapM_cons]
    constructor
    · rintro ⟨bs, walked⟩
      obtain ⟨b, here, walked⟩ := bind_ok walked
      obtain ⟨rest, there, -⟩ := bind_ok walked
      exact ⟨⟨b, here⟩, rest, there⟩
    · rintro ⟨⟨b, here⟩, rest, there⟩
      rw [here, there]
      exact ⟨b :: rest, rfl⟩

/-- A track can be made if and only if its ticks can be settled and every value fits. -/
theorem Track.ofEvents_ok_iff {events : List Event} :
    (∃ track, Track.ofEvents events = .ok track) ↔
      (∃ ds, Timeline.deltas events = .ok ds) ∧ ∀ e ∈ events, e.what.Fits := by
  unfold ofEvents
  cases settled : Timeline.deltas events with
  | error f => exact iff_of_false (fun ⟨_, made⟩ => nomatch made) fun ⟨⟨_, made⟩, _⟩ => nomatch made
  | ok ds =>
    have kept := Timeline.deltasFrom_kept _ events ds settled
    rw [← kept, List.forall_mem_map, and_iff_right ⟨ds, rfl⟩]
    exact mapM_ok_iff.trans (forall₂_congr fun d _ => Message.ofEvent_ok_iff)

/-- Events at whole ticks that never go back have deltas. -/
theorem Timeline.deltasFrom_whole {a b : Int} {now : Quantity} {events : List Event}
    (start : now.integer? = some a)
    (climbs : Climbs (fun (e : Event) n => e.tick.int? = some n) a events b) :
    ∃ ds, deltasFrom now events = .ok ds := by
  induction climbs generalizing now with
  | nil a => exact ⟨[], rfl⟩
  | @cons a b c e events here after _ ih =>
    obtain ⟨q, tick, same⟩ := Event.tick_eq (Option.isSome_of_eq_some here)
    have whole : e.wholeTick = b := by
      unfold Event.wholeTick
      rw [here]
      rfl
    rw [whole] at same
    obtain ⟨ds, settled⟩ := ih same
    have forward : ¬(q.lt now = true) := by
      rw [Quantity.lt_of_integer same start, decide_eq_true_eq]
      exact Int.not_lt.2 after
    refine ⟨(.whole (b - a), e) :: ds, ?_⟩
    unfold deltasFrom
    rw [tick]
    show (q.sub now >>= fun delta => _) = _
    rw [Quantity.sub_of_integer same start]
    show (if q.lt now = true then _ else deltasFrom q events >>= fun ds => _) = _
    rw [if_neg forward, settled]
    rfl

/-- Items whose places are in order climb. -/
theorem Climbs.of_places {α : Type} {place? : α → Option Int} {xs : List α} {places : List Int}
    {a : Int} (same : xs.map place? = places.map some) (ordered : (a :: places).Pairwise (· ≤ ·)) :
    ∃ b, Climbs (fun x n => place? x = some n) a xs b := by
  induction xs generalizing a places with
  | nil => exact ⟨a, .nil a⟩
  | cons x xs ih =>
    cases places with
    | nil => cases same
    | cons n places =>
      obtain ⟨here, rest⟩ := List.cons.inj same
      obtain ⟨after, ordered⟩ := List.pairwise_cons.1 ordered
      obtain ⟨b, climbs⟩ := ih rest ordered
      exact ⟨b, .cons here (after n List.mem_cons_self) climbs⟩

/-! ## §3. Voices that are accepted. -/

/-- A program that is accepted is one of 128. -/
theorem GeneralMidi.program_bounds (d : Datum) :
    Yields (program d) fun n => 0 ≤ n ∧ n ≤ 127 := by
  have inRange : ∀ (given : Datum) (n : Int),
      Yields (programInRange given n) fun n => 0 ≤ n ∧ n ≤ 127 := by
    intro given n
    unfold programInRange
    split
    · next within => exact .pure within
    · exact .error _
  have named : ∀ name, Yields (programNamed name) fun n => 0 ≤ n ∧ n ≤ 127 := by
    intro name
    unfold programNamed
    dsimp only
    split
    · exact .bind fun n _ => inRange _ n
    · split
      · next n found =>
        obtain ⟨inside, -⟩ := List.findIdx?_eq_some_iff_getElem.1 found
        have size : programNames.length = 128 := rfl
        exact .pure ⟨by omega, by omega⟩
      · exact .error _
  unfold program
  split
  · exact named _
  · exact inRange _ _
  · exact .error _

/-- A voice as it was accepted, but for its tempo: nothing has been played on it. -/
structure Voice.Unplayed (v : Voice) : Prop where
  inBounds : v.config.InBounds
  patch : 0 ≤ v.patch ∧ v.patch ≤ 127
  forward : v.dynamics.Forward (.number v.config.bpm)
  events : v.events = #[]
  silent : ∀ sounding ∈ v.sounding, sounding = none
  clock : leadIn v.config = .ok v.clock
  skip : v.skip = .whole 0
  isOpen : v.finished = false

theorem Voice.New.unplayed {v : Voice} (h : v.New) : v.Unplayed := by
  obtain ⟨options, accepted, tuned, fresh⟩ := h.fresh
  obtain ⟨patch, programmed, tuned⟩ := bind_ok tuned
  obtain ⟨roots, -, tuned⟩ := bind_ok tuned
  have forward := Dynamics.start_forward _ _ _ fresh.dynamics
  refine ⟨Config.ofOptions_inBounds options _ accepted, ?_, forward, fresh.events, ?_, fresh.clock,
    fresh.skip, fresh.finished⟩
  · show 0 ≤ v.tuning.patch ∧ v.tuning.patch ≤ 127
    rw [← Except.ok.inj tuned]
    exact GeneralMidi.program_bounds _ patch programmed
  · rw [fresh.sounding]
    exact fun _ here => (List.mem_replicate.1 here).2

/-- Changes of tempo are no music. -/
theorem Voice.Unplayed.retimed {v w : Voice} (h : v.Unplayed) (r : v.Retimed w) : w.Unplayed := by
  obtain ⟨d, rfl, forward⟩ := r
  rw [h.forward.initialBpm] at forward
  exact ⟨h.inBounds, h.patch, forward, h.events, h.silent, h.clock, h.skip, h.isOpen⟩

/-! ## §4. The tracks of a master. -/

namespace Voice

variable {v : Voice}

/-- Changes of tempo that are queued at whole ticks from zero on, and never go back. -/
def TempoInOrder (v : Voice) : Prop :=
  ∃ ticks : List Int, v.dynamics.tempoChanges.toList.map (fun c => c.tick.int?) = ticks.map some ∧
    (0 :: ticks).Pairwise (· ≤ ·)

/-- Tempos and beats that the format has room for. -/
structure TempoFits (v : Voice) : Prop where
  first : ∃ n, microsecondsPerBeat (Datum.number v.config.bpm) = .ok n ∧ n ≤ Message.maxTempo
  changes : ∀ c ∈ v.dynamics.tempoChanges.toList, c.microseconds ≤ Message.maxTempo
  beats : v.beats ≤ 255

/-- The ticks of a control track can be settled if its changes of tempo are in order. -/
theorem controlEvents_inOrder (inOrder : v.TempoInOrder) (named : Bool) :
    Yields (v.controlEvents named) fun events => ∃ ds, Timeline.deltas events = .ok ds := by
  obtain ⟨ticks, places, ordered⟩ := inOrder
  unfold controlEvents
  refine .bind fun first _ => .pure ?_
  have queued : (v.dynamics.tempoChanges.toList.map fun c =>
      (⟨c.tick, .setTempo (.whole c.microseconds)⟩ : Event)).map (fun e => e.tick.int?) =
      ticks.map some := by
    rw [List.map_map]
    exact places
  obtain ⟨b, later⟩ := Climbs.of_places queued ordered
  -- All that stands in front of the changes is at tick zero.
  refine Timeline.deltasFrom_whole rfl (.append (.level ?_) later)
  refine List.forall_mem_append.2 ⟨?_, List.forall_mem_cons.2 ⟨rfl, List.forall_mem_singleton.2 rfl⟩⟩
  cases named with
  | true => exact List.forall_mem_singleton.2 rfl
  | false => exact fun _ here => nomatch here

/-- The values of a control track fit if the tempos and the beats do. -/
theorem controlEvents_fit_iff (known : v.config.signature.unit ∈ Signature.units) (named : Bool) :
    Yields (v.controlEvents named) fun events => ∃ first,
      microsecondsPerBeat v.dynamics.initialBpm = .ok first ∧
      ((∀ e ∈ events, e.what.Fits) ↔ (0 ≤ first ∧ first ≤ Message.maxTempo) ∧ v.beats ≤ 255 ∧
        ∀ c ∈ v.dynamics.tempoChanges.toList, 0 ≤ c.microseconds ∧
          c.microseconds ≤ Message.maxTempo) := by
  intro events made
  obtain ⟨first, tempo, each⟩ := v.controlEvents_what (P := Happening.Fits) named events made
  refine ⟨first, tempo, ?_⟩
  rw [each, and_iff_right fun _ => Happening.fits_text _]
  exact and_congr Happening.fits_setTempo_iff (and_congr (Happening.fits_timeSignature_iff known)
    (forall₂_congr fun _ _ => Happening.fits_setTempo_iff))

/-- The control track can be built if and only if the tempos and the beats fit. -/
theorem Unplayed.buildsControl_iff (h : v.Unplayed) (inOrder : v.TempoInOrder) (named : Bool) :
    v.BuildsControl named ↔ v.TempoFits := by
  have positive : Scalar.le (Datum.number v.config.bpm) (Scalar.count 0) = .ok false :=
    congrArg Except.ok h.inBounds.bpm
  have fit := v.controlEvents_fit_iff h.inBounds.signature.2 named
  rw [h.forward.initialBpm] at fit
  constructor
  · rintro ⟨events, control, made, built⟩
    obtain ⟨first, tempo, fits⟩ := fit events made
    obtain ⟨⟨-, small⟩, beats, changes⟩ := fits.1 (Track.ofEvents_ok_iff.1 ⟨control, built⟩).2
    exact ⟨⟨first, tempo, small⟩, fun c here => (changes c here).2, beats⟩
  · rintro ⟨⟨first, tempo, small⟩, changes, beats⟩
    obtain ⟨events, made⟩ : ∃ events, v.controlEvents named = .ok events := by
      unfold controlEvents
      rw [h.forward.initialBpm, tempo]
      exact ⟨_, rfl⟩
    obtain ⟨first', tempo', fits⟩ := fit events made
    obtain rfl : first = first' := Except.ok.inj (tempo.symm.trans tempo')
    -- No tempo is negative, so the lower bound of the format asks for nothing.
    have forward := microsecondsPerBeat_nonneg positive first tempo
    obtain ⟨control, built⟩ := Track.ofEvents_ok_iff.2
      ⟨v.controlEvents_inOrder inOrder named events made, fits.2 ⟨⟨forward, small⟩, beats,
        fun c here => ⟨h.forward.changes c here, changes c here⟩⟩⟩
    exact ⟨events, control, made, built⟩

/-- The note track of a voice that has played nothing can be built if and only if its name is a
text and its channel a whole number. -/
theorem Unplayed.buildsNotes_iff (h : v.Unplayed) :
    (∃ track, Track.ofEvents v.noteTrackEvents = .ok track) ↔
      (∃ t, v.trackName = .text t) ∧ v.config.channel.integer?.isSome = true := by
  have closing : v.closingEvents = [] := by
    unfold closingEvents
    rw [List.filterMap_eq_nil_iff]
    intro sounding here
    rw [h.silent sounding here]
    rfl
  have events : v.noteTrackEvents = [.at 0 (.trackName v.trackName),
      .at 0 (.programChange v.channel (.whole v.patch))] := by
    unfold noteTrackEvents
    rw [closing, h.events]
    rfl
  have settled : ∃ ds, Timeline.deltas [.at 0 (.trackName v.trackName),
      .at 0 (.programChange v.channel (.whole v.patch))] = .ok ds := ⟨_, rfl⟩
  rw [events, Track.ofEvents_ok_iff, and_iff_right settled, List.forall_mem_cons,
    List.forall_mem_singleton]
  exact and_congr Happening.fits_trackName_iff
    (Happening.fits_programChange_iff h.inBounds.channel h.patch)

/-- The clicks of the metronome come to an end, if there is to be one. -/
def ClicksEnd (v : Voice) : Prop :=
  ∀ lead last, v.config.lead = some lead → v.metronomeEnd lead = .ok last →
    ∃ most events, clicks last v.config.ticks most (.whole 0) = .ok events

/-- Those of a whole resolution do unless they go on up to the top of the number line. -/
theorem clicksEnd_iff {t : Int} (resolution : v.config.ticks.integer? = some t)
    (positive : v.config.ticks.le (.whole 0) = false) {lead last : Quantity}
    (leads : v.config.lead = some lead) (ended : v.metronomeEnd lead = .ok last) :
    v.ClicksEnd ↔ last.place? ≠ some .top := by
  have even : v.config.ticks.plain.StandsAt (t : Rat) :=
    .inr ⟨t, Quantity.plain_of_integer resolution, rfl⟩
  rw [← exact_ends_iff positive even]
  refine ⟨fun ends => ends lead last leads ended, fun ends lead' last' leads' ended' => ?_⟩
  obtain rfl : lead = lead' := Option.some.inj (leads.symm.trans leads')
  obtain rfl : last = last' := Except.ok.inj (ended.symm.trans ended')
  exact ends

/-- A metronome whose clicks do not end is never made. -/
theorem metronome_endless (positive : v.config.ticks.le (.whole 0) = false)
    (unending : ¬ v.ClicksEnd) : v.metronomeEvents = .error .endless := by
  unfold ClicksEnd at unending
  push Not at unending
  obtain ⟨lead, last, leads, ended, unending⟩ := unending
  have endless : clicks last v.config.ticks (clickLimit last v.config.ticks) (.whole 0) =
      .error .endless := by
    rcases clicks_settled positive last with ⟨events, made⟩ | endless
    · exact absurd made (unending _ events)
    · exact endless _
  unfold metronomeEvents
  rw [leads]
  dsimp only
  rw [ended]
  show (clicks last v.config.ticks (clickLimit last v.config.ticks) (.whole 0) >>= _) = _
  rw [endless]
  rfl

/-- The metronome track can be built, if there is to be one. -/
def BuildsMetronome (v : Voice) : Prop :=
  ∃ clicks track, v.metronomeEvents = .ok clicks ∧ clicks.mapM Track.ofEvents = .ok track

/-- Where all that its end is told from is whole, so is the end. -/
theorem metronomeEnd_whole (whole : v.config.Whole) {c k : Int} (clock : v.clock = .whole c)
    (skip : v.skip = .whole k) {lead : Quantity} (leads : v.config.lead = some lead) :
    ∃ n : Int, v.metronomeEnd lead = .ok (.whole n) := by
  obtain ⟨t, resolution⟩ := Option.isSome_iff_exists.1 whole.ticks
  obtain ⟨b, count⟩ := Option.isSome_iff_exists.1 (whole.lead lead leads)
  unfold metronomeEnd
  rw [Quantity.mul_of_integer count resolution, clock, skip]
  split <;> exact ⟨_, rfl⟩

/-- Then the clicks come to an end. -/
theorem clicksEnd_whole (whole : v.config.Whole)
    (positive : v.config.ticks.le (.whole 0) = false) {c k : Int} (clock : v.clock = .whole c)
    (skip : v.skip = .whole k) : v.ClicksEnd := by
  intro lead last leads ended
  obtain ⟨t, resolution⟩ := Option.isSome_iff_exists.1 whole.ticks
  obtain ⟨n, ended'⟩ := metronomeEnd_whole whole clock skip leads
  cases ended.symm.trans ended'
  exact (clicksEnd_iff resolution positive leads ended).2 nofun lead _ leads ended

/-- Where resolution, lead-in, clock and silence are whole it can always be built. -/
theorem buildsMetronome (whole : v.config.Whole) (positive : v.config.ticks.le (.whole 0) = false)
    {c k : Int} (clock : v.clock = .whole c) (skip : v.skip = .whole k) : v.BuildsMetronome := by
  obtain ⟨t, resolution⟩ := Option.isSome_iff_exists.1 whole.ticks
  cases leads : v.config.lead with
  | none =>
    refine ⟨none, none, ?_, rfl⟩
    unfold metronomeEvents
    rw [leads]
    rfl
  | some lead =>
    obtain ⟨n, ends⟩ := metronomeEnd_whole whole clock skip leads
    obtain ⟨most, beats, made⟩ := clicksEnd_whole whole positive clock skip lead _ leads ends
    have made := (clicks_ok_iff positive).2 ⟨most, made⟩
    let opening : List Event := [.at 0 (.trackName (.text metronomeName)),
      .at 0 (.programChange metronomeChannel metronomeKit)]
    have events : v.metronomeEvents = .ok (some (opening ++ beats)) := by
      unfold metronomeEvents
      rw [leads]
      dsimp only
      rw [ends]
      show (clicks (.whole n) v.config.ticks (clickLimit (.whole n) v.config.ticks) (.whole 0)
        >>= _) = _
      rw [made]
      rfl
    have settled : ∃ ds, Timeline.deltas (opening ++ beats) = .ok ds := by
      obtain ⟨b, climbs⟩ := clicks_climbs resolution (Quantity.pos_of_integer resolution positive)
        _ (le_refl 0) beats made
      exact Timeline.deltasFrom_climbs (.cons rfl (le_refl 0) (.cons rfl (le_refl 0) climbs))
    have fit : ∀ e ∈ opening ++ beats, e.what.Fits :=
      List.forall_mem_cons.2 ⟨rfl, List.forall_mem_cons.2 ⟨rfl,
        clicks_what (P := Happening.Fits) rfl rfl _ _ _ _ beats made⟩⟩
    obtain ⟨track, built⟩ := Track.ofEvents_ok_iff.2 ⟨settled, fit⟩
    refine ⟨_, some track, events, ?_⟩
    rw [Option.mapM_some, built]
    rfl

theorem Unplayed.buildsMetronome (h : v.Unplayed) (whole : v.config.Whole) : v.BuildsMetronome := by
  obtain ⟨c, clock, -⟩ := leadIn_whole whole h.inBounds v.clock h.clock
  exact Voice.buildsMetronome whole h.inBounds.ticks clock h.skip

theorem Unplayed.clicksEnd (h : v.Unplayed) (whole : v.config.Whole) : v.ClicksEnd := by
  obtain ⟨c, clock, -⟩ := leadIn_whole whole h.inBounds v.clock h.clock
  exact clicksEnd_whole whole h.inBounds.ticks clock h.skip

end Voice

/-! ## §5. Finishing a master. -/

section Finish

variable {γ : Type} {band : Band γ}

/-- The song of a master alone can be built if and only if its tracks can. -/
theorem Band.song_ok_iff (alone : band.auxiliaries = []) (named : Bool) :
    (∃ song, band.song named = .ok song) ↔ band.master.BuildsControl named ∧
      (∃ notes, Track.ofEvents band.master.noteTrackEvents = .ok notes) ∧
      band.master.BuildsMetronome := by
  unfold song
  constructor
  · rintro ⟨song, built⟩
    obtain ⟨events, controlEvents, built⟩ := bind_ok built
    obtain ⟨control, controlMade, built⟩ := bind_ok built
    obtain ⟨notes, notesMade, built⟩ := bind_ok built
    obtain ⟨clicks, metronomeEvents, built⟩ := bind_ok built
    obtain ⟨metronome, metronomeMade, -⟩ := bind_ok built
    exact ⟨⟨events, control, controlEvents, controlMade⟩, ⟨notes, notesMade⟩, clicks, metronome,
      metronomeEvents, metronomeMade⟩
  · rintro ⟨⟨events, control, controlEvents, controlMade⟩, ⟨notes, notesMade⟩, clicks, metronome,
      metronomeEvents, metronomeMade⟩
    refine ⟨⟨band.master.config.ticks, control :: notes :: metronome.toList ++ []⟩, ?_⟩
    rw [controlEvents]
    show (Track.ofEvents events >>= _) = _
    rw [controlMade, notesMade, metronomeEvents]
    show (clicks.mapM Track.ofEvents >>= _) = _
    rw [metronomeMade, alone]
    rfl

/-- A master alone makes a song of at most three tracks. -/
theorem Band.song_tracks (alone : band.auxiliaries = []) (named : Bool) :
    Yields (band.song named) fun song => song.tracks.length ≤ 3 := by
  intro song built
  obtain ⟨-, -, -, -, metronome, others⟩ := band.song_builds named song built
  rw [alone] at others
  cases others
  cases metronome with
  | none => exact Nat.le_succ 2
  | some => exact Nat.le_refl 3

/-- What is reported of a song that has been built. -/
def Voice.farewell (v : Voice) (tracks : Nat) : Wording :=
  [.shown v.name, ": finished with ", tracks, " tracks, ", v.clock, " ticks"]

/-- Of the report only the number of tracks and the clock may be too long to be written. -/
theorem Voice.farewell_isWritable {v : Voice} (named : v.Named) (tracks : Nat) :
    (v.farewell tracks).isWritable = (Quantity.isShort tracks && v.clock.isWritable) := by
  show (v.name.isWritable && (true && (Quantity.isShort tracks &&
    (true && (v.clock.isWritable && (true && true)))))) = _
  rw [named]
  simp only [Bool.true_and, Bool.and_true]

/-- An open master whose song is not to be saved returns it if and only if it can be built, and
the report on it can be written. -/
theorem Perform.finish_ok_iff (master : band.master.auxiliary = false)
    (isOpen : band.master.finished = false) {midi attribution : Datum}
    (unsaved : (chosenFile midi band.master.config.midi).isNothing = true) (journal : Journal) :
    (∃ song, ((finish .master midi attribution).start ⟨band, journal⟩).1 = .ok (some song)) ↔
      ∃ song, band.song (namesMaker attribution band.master.config.attribution) = .ok song ∧
        (band.master.farewell song.tracks.length).isWritable = true := by
  have here : (voice .master : Perform γ Voice).start ⟨band, journal⟩ =
      (.ok band.master, ⟨band, journal⟩) := rfl
  unfold finish
  rw [Act.start_bind, here]
  simp only [master, isOpen, Bool.false_eq_true, if_false]
  rw [Act.start_bind, Act.start_state]
  dsimp only
  rw [Act.start_bind, Act.start_lift]
  cases built : band.song (namesMaker attribution band.master.config.attribution) with
  | error f => exact iff_of_false (fun ⟨_, made⟩ => nomatch made) fun ⟨_, made, _⟩ => nomatch made
  | ok song =>
    dsimp only
    rw [Act.start_bind, Act.start_update]
    dsimp only
    rw [Act.start_bind, Act.start_report]
    by_cases writable : (band.master.farewell song.tracks.length).isWritable = true
    · unfold Voice.farewell at writable
      rw [if_pos writable, unsaved]
      exact iff_of_true ⟨song, rfl⟩ ⟨song, rfl, writable⟩
    · refine iff_of_false ?_ ?_
      · unfold Voice.farewell at writable
        rw [if_neg writable]
        exact fun ⟨_, made⟩ => nomatch made
      · rintro ⟨_, ⟨rfl⟩, written⟩
        exact writable written

/-- A song is never made if the clicks of its metronome do not end. -/
theorem Band.song_endless (positive : band.master.config.ticks.le (.whole 0) = false)
    (unending : ¬ band.master.ClicksEnd) {named : Bool} (control : band.master.BuildsControl named)
    (notes : ∃ notes, Track.ofEvents band.master.noteTrackEvents = .ok notes) :
    band.song named = .error .endless := by
  obtain ⟨events, control, controlEvents, controlMade⟩ := control
  obtain ⟨notes, notesMade⟩ := notes
  unfold song
  rw [controlEvents]
  show (Track.ofEvents events >>= _) = _
  rw [controlMade, notesMade, Voice.metronome_endless positive unending]
  rfl

end Finish

/-! ## §6. What is accepted. -/

/-- Settings of the kinds that are declared for them: a text for the name, and whole numbers for
the channel, the resolution and the lead-in. -/
structure Config.Declared (c : Config) : Prop extends c.Whole where
  name : ∃ t, c.name = .text t
  channel : c.channel.integer?.isSome = true

instance (c : Config) : Decidable c.Declared :=
  decidable_of_iff (c.ticks.integer?.isSome ∧ (∀ beats ∈ c.lead, beats.integer?.isSome) ∧
      c.name.text?.isSome ∧ c.channel.integer?.isSome) <| by
    have text : c.name.text?.isSome ↔ ∃ t, c.name = .text t := by
      cases c.name with
      | text t => exact iff_of_true rfl ⟨t, rfl⟩
      | _ => exact iff_of_false nofun nofun
    rw [text]
    exact ⟨fun ⟨ticks, lead, name, channel⟩ => ⟨⟨ticks, lead⟩, name, channel⟩,
      fun h => ⟨h.ticks, h.lead, h.name, h.channel⟩⟩

/-- A voice of which everything fits the format, as far as it is written without any notes. -/
structure Voice.FitsFormat (v : Voice) : Prop extends v.TempoFits where
  name : ∃ t, v.trackName = .text t
  channel : v.config.channel.integer?.isSome = true
  metronome : v.BuildsMetronome
  clock : v.clock.isWritable = true

/-- A master alone that has played nothing, and has only changed its tempo in order, is finished
without a file if and only if it fits the format. -/
theorem Perform.finish_unplayed_iff {γ : Type} {band : Band γ} (unplayed : band.master.Unplayed)
    (named : band.master.Named) (master : band.master.auxiliary = false)
    (alone : band.auxiliaries = []) (inOrder : band.master.TempoInOrder) {midi attribution : Datum}
    (unsaved : (chosenFile midi band.master.config.midi).isNothing = true) (journal : Journal) :
    (∃ song, ((finish .master midi attribution).start ⟨band, journal⟩).1 = .ok (some song)) ↔
      band.master.FitsFormat := by
  have clock : ∀ song,
      band.song (namesMaker attribution band.master.config.attribution) = .ok song →
      (band.master.farewell song.tracks.length).isWritable = band.master.clock.isWritable := by
    intro song built
    have few := Band.song_tracks alone _ song built
    have large : 3 < tenTo Text.digitLimit := by decide +kernel
    have short : Quantity.isShort song.tracks.length = true :=
      decide_eq_true (Nat.lt_of_le_of_lt few large)
    rw [Voice.farewell_isWritable named, short, Bool.true_and]
  rw [finish_ok_iff master unplayed.isOpen unsaved journal]
  constructor
  · rintro ⟨song, built, reported⟩
    obtain ⟨control, notes, metronome⟩ := (Band.song_ok_iff alone _).1 ⟨song, built⟩
    obtain ⟨name, channel⟩ := unplayed.buildsNotes_iff.1 notes
    exact ⟨(unplayed.buildsControl_iff inOrder _).1 control, name, channel, metronome,
      clock song built ▸ reported⟩
  · rintro ⟨tempo, name, channel, metronome, writable⟩
    obtain ⟨song, built⟩ := (Band.song_ok_iff alone _).2
      ⟨(unplayed.buildsControl_iff inOrder _).2 tempo, unplayed.buildsNotes_iff.2 ⟨name, channel⟩,
        metronome⟩
    exact ⟨song, built, (clock song built).trans writable⟩

/-- Settings of their declared kinds leave the tempos, the beats and the clock. -/
theorem Voice.Unplayed.fitsFormat_iff {v : Voice} (h : v.Unplayed) (declared : v.config.Declared) :
    v.FitsFormat ↔ v.TempoFits ∧ v.clock.isWritable = true := by
  refine ⟨fun fits => ⟨fits.toTempoFits, fits.clock⟩, fun ⟨tempo, clock⟩ => ?_⟩
  refine ⟨tempo, ?_, declared.channel, h.buildsMetronome declared.toWhole, clock⟩
  obtain ⟨t, text⟩ := declared.name
  unfold trackName name
  rw [text]
  split
  · exact ⟨[], rfl⟩
  · exact ⟨t, rfl⟩

/-- A master that was accepted, and that has done nothing but change its tempo at whole ticks in
order, is finished without a file if and only if it fits the format, as long as the clicks of its
metronome come to an end.  If its settings are of the kinds that are declared for them, they do,
and it fits if no tempo is longer than the format has room for, there are at most 255 beats to a
measure, and the clock can be written.  Clicks that do not come to an end keep the song from being
made, whatever room there is for them; those of a whole resolution are the ones that go up to the
top of the number line. -/
theorem Session.finish_accepted {γ : Type} [ChanceSource γ] {band : Band γ}
    (created : band.Created) {moves : List Move} (tempos : ∀ m ∈ moves, m.isTempo = true)
    (journal : Journal) :
    let now := run (moves.map (.move .master)) ⟨band, journal⟩
    let v := now.state.master
    v.TempoInOrder → ∀ midi attribution,
      (Perform.chosenFile midi v.config.midi).isNothing = true →
      let outcome := ((Perform.finish .master midi attribution).start now).1
      let returns := ∃ song, outcome = .ok (some song)
      (v.ClicksEnd → (returns ↔ v.FitsFormat)) ∧
      (v.config.Declared →
        v.ClicksEnd ∧ (returns ↔ v.TempoFits ∧ v.clock.isWritable = true)) ∧
      (¬ v.ClicksEnd → ¬ returns ∧ (v.TempoFits → (∃ t, v.trackName = .text t) →
        v.config.channel.integer?.isSome = true → outcome = .error .endless)) ∧
      ∀ t lead last, v.config.ticks.integer? = some t → v.config.lead = some lead →
        v.metronomeEnd lead = .ok last → (v.ClicksEnd ↔ last.place? ≠ some .top) := by
  intro now v inOrder midi attribution unsaved outcome returns
  obtain ⟨new, named, master, alone⟩ := created.begun
  -- What was accepted is unplayed, and changes of tempo keep it so, whether they fail or not.
  have begun := new.unplayed
  obtain ⟨alone, retimed⟩ : now.state.auxiliaries = [] ∧ band.master.Retimed v :=
    run_retimed tempos alone ⟨_, rfl, rfl, begun.forward.changes⟩
  have unplayed := begun.retimed retimed
  obtain ⟨d, same, -⟩ := retimed
  have named : v.Named := by
    rw [same]
    exact named
  have master : v.auxiliary = false := by
    rw [same]
    exact master
  have positive := unplayed.inBounds.ticks
  have fits : returns ↔ v.FitsFormat :=
    Perform.finish_unplayed_iff unplayed named master alone inOrder unsaved now.journal
  refine ⟨fun _ => fits, fun declared => ?_, fun unending => ⟨fun returned => ?_, ?_⟩, ?_⟩
  · exact ⟨unplayed.clicksEnd declared.toWhole, fits.trans (unplayed.fitsFormat_iff declared)⟩
  · obtain ⟨clicks, -, made, -⟩ := (fits.1 returned).metronome
    cases made.symm.trans (Voice.metronome_endless positive unending)
  · intro tempo name channel
    have family : now.state.Family := (Band.Family.of_created created).run _
    have unbuilt : ∀ named, now.state.song named = .error .endless := fun named =>
      Band.song_endless positive unending ((unplayed.buildsControl_iff inOrder named).2 tempo)
        (unplayed.buildsNotes_iff.2 ⟨name, channel⟩)
    exact congrArg Prod.fst
      (Perform.finish_unbuilt family unplayed.isOpen (unbuilt _) now.journal)
  · exact fun t lead last resolution leads ended =>
      Voice.clicksEnd_iff resolution positive leads ended

/-! ## §7. Too slow, and not too slow. -/

/-- A new master of one string at a tempo. -/
def pacedBand (bpm : Int) : Except Fault (Desk (Band Script)) :=
  Session.begin [] [("strings", .list [.whole 40]), ("bpm", .whole bpm)]

/-- At three beats per minute a master is accepted, and cannot be finished: a beat of twenty
seconds is longer than the format has room for. -/
theorem slow_unfinished :
    ∃ desk f, pacedBand 3 = .ok desk ∧ desk.state.Created ∧
      ((Perform.finish .master .null .null).start desk).1 = .error f ∧ f.kind = .value := by
  have seen : ((pacedBand 3).toOption.map fun desk =>
      faultKind? ((Perform.finish .master .null .null).start desk).1) = some (some .value) := by
    decide +kernel
  obtain ⟨desk, accepted, seen⟩ := exists_ok_of_seen seen
  obtain ⟨f, failed, kind⟩ := exists_error_of_kind seen
  exact ⟨desk, f, accepted, Session.begin_created _ _ desk accepted, failed, kind⟩

/-- A change of tempo, and then twice that tempo step by step. -/
def hurrying : List Move :=
  [.tempo (.whole 90) .null, .rit (.whole 2) (.whole 1) (.datum (.text "linear"))]

/-- The desk after it has hurried. -/
def hurried (desk : Desk (Band Script)) : Desk (Band Script) :=
  Session.run (hurrying.map (.move .master)) desk

theorem hurrying_recorded :
    ∃ desk song, pacedBand 100 = .ok desk ∧
      ((Perform.finish .master .null .null).start (hurried desk)).1 = .ok (some song) ∧
      (Perform.chosenFile .null (hurried desk).state.master.config.midi).isNothing = true ∧
      (hurried desk).state.master.dynamics.tempoChanges.toList.map (fun c => c.tick.int?) =
        [some 0, some 0, some 192, some 384, some 576] ∧
      (hurried desk).state.master.config.Declared := by
  have seen : ((pacedBand 100).toOption.map fun desk =>
      let v := (hurried desk).state.master
      (((Perform.finish .master .null .null).start (hurried desk)).1.toOption.join.map fun song =>
          song.tracks.length,
        (Perform.chosenFile .null v.config.midi).isNothing,
        (v.dynamics.tempoChanges.toList.map fun c => c.tick.int?),
        decide v.config.Declared)) =
      some (some 2, true, [some 0, some 0, some 192, some 384, some 576], true) := by
    decide +kernel
  obtain ⟨desk, accepted, seen⟩ := exists_ok_of_seen seen
  simp only [Prod.mk.injEq] at seen
  obtain ⟨finishes, unsaved, ticks, declared⟩ := seen
  obtain ⟨song, returned, -⟩ := exists_some_of_seen finishes
  exact ⟨desk, song, accepted, returned, unsaved, ticks, of_decide_eq_true declared⟩

/-- A new master of one string whose lead-in has no end. -/
def unendingBand : Except Fault (Desk (Band Script)) :=
  Session.begin [] [("strings", .list [.whole 40]), ("lead", .number (.float (.infinite false)))]

/-- Of such a master the tempo and the beats fit. -/
theorem unending_accepted :
    ∃ desk last, unendingBand = .ok desk ∧
      let v := desk.state.master
      v.config.ticks.integer? = some 192 ∧ v.config.lead = some (.float (.infinite false)) ∧
      v.metronomeEnd (.float (.infinite false)) = .ok last ∧ last.place? = some .top ∧
      v.dynamics.tempoChanges.toList = [] ∧ v.TempoFits ∧ (∃ t, v.trackName = .text t) ∧
      v.config.channel.integer?.isSome = true ∧
      (Perform.chosenFile .null v.config.midi).isNothing = true := by
  have seen : (unendingBand.toOption.map fun desk =>
      let v := desk.state.master
      ((v.metronomeEnd (.float (.infinite false))).toOption,
        (microsecondsPerBeat (Datum.number v.config.bpm)).toOption, v.trackName.text?.isSome,
        decide (v.config.ticks.integer? = some 192 ∧
          v.config.lead = some (.float (.infinite false)) ∧ v.dynamics.tempoChanges.size = 0 ∧
          v.beats ≤ 255 ∧ v.config.channel.integer?.isSome = true ∧
          (Perform.chosenFile .null v.config.midi).isNothing = true))) =
      some (some (.float (.infinite false)), some 600000, true, true) := by
    decide +kernel
  obtain ⟨desk, accepted, seen⟩ := exists_ok_of_seen seen
  simp only [Prod.mk.injEq, decide_eq_true_eq] at seen
  obtain ⟨ended, tempo, named, resolution, leads, none_, beats, channel, unsaved⟩ := seen
  have changes : desk.state.master.dynamics.tempoChanges.toList = [] :=
    List.eq_nil_of_length_eq_zero none_
  have name : ∃ t, desk.state.master.trackName = .text t := by
    cases content : desk.state.master.trackName with
    | text t => exact ⟨t, rfl⟩
    | _ =>
      rw [content] at named
      cases named
  refine ⟨desk, _, accepted, resolution, leads, ok_of_toOption ended, rfl, changes, ?_, name,
    channel, unsaved⟩
  refine ⟨⟨600000, ok_of_toOption tempo, by decide⟩, ?_, beats⟩
  rw [changes]
  exact fun _ here => nomatch here

/-- From a hundred beats per minute on, these changes are queued in order, and all of it fits.
With a lead-in that has no end the clicks have none, and no song is made. -/
theorem hurrying_fits :
    (∃ desk, pacedBand 100 = .ok desk ∧ (hurried desk).state.master.TempoInOrder ∧
      (hurried desk).state.master.ClicksEnd ∧ (hurried desk).state.master.FitsFormat ∧
      ∃ song, ((Perform.finish .master .null .null).start (hurried desk)).1 = .ok (some song)) ∧
    ∃ desk, unendingBand = .ok desk ∧ ¬ desk.state.master.ClicksEnd ∧
      ((Perform.finish .master .null .null).start desk).1 = .error .endless := by
  constructor
  · obtain ⟨desk, song, accepted, returned, unsaved, ticks, declared⟩ := hurrying_recorded
    have inOrder : (hurried desk).state.master.TempoInOrder :=
      ⟨[0, 0, 192, 384, 576], ticks, by decide⟩
    have tempos : ∀ m ∈ hurrying, m.isTempo = true :=
      List.forall_mem_cons.2 ⟨rfl, List.forall_mem_singleton.2 rfl⟩
    obtain ⟨fits, fitsDeclared, -⟩ := Session.finish_accepted
      (Session.begin_created _ _ desk accepted) tempos desk.journal inOrder .null .null unsaved
    obtain ⟨ends, declaredFits⟩ := fitsDeclared declared
    have inFormat := (fits ends).1 ⟨song, returned⟩
    exact ⟨desk, accepted, inOrder, ends, inFormat,
      declaredFits.2 ⟨inFormat.toTempoFits, inFormat.clock⟩⟩
  · obtain ⟨desk, last, accepted, resolution, leads, ended, top, changes, tempo, name, channel,
      unsaved⟩ := unending_accepted
    have inOrder : desk.state.master.TempoInOrder := by
      refine ⟨[], ?_, List.pairwise_singleton _ _⟩
      rw [changes]
      rfl
    have tempos : ∀ m ∈ ([] : List Move), m.isTempo = true := fun _ here => nomatch here
    obtain ⟨-, -, endless, ends⟩ := Session.finish_accepted
      (Session.begin_created _ _ desk accepted) tempos desk.journal inOrder .null .null unsaved
    have unending : ¬ desk.state.master.ClicksEnd :=
      fun clicksEnd => (ends 192 _ last resolution leads ended).1 clicksEnd top
    exact ⟨desk, accepted, unending, (endless unending).2 tempo name channel⟩

end Plectrum
