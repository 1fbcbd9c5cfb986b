/-
  Plectrum.Proofs.StepsBack
  ─────────────────────────
  **Going back in time, and nothing else, keeps a track from being made.**

  A running clock goes through the ticks of a track and refuses the first step back.  That
  is the same as asking whether all ticks stand in order.  So where every value fits the
  format, a track of whole ticks can be made if and only if its ticks never decrease; and
  where it cannot, the fault reports the first step back.  Its message shows both ticks and
  the difference between them, and if one of these numbers is too long to be written, the
  fault turns into a failure of that number.

  Main results:
    * `Timeline.stepBack?_eq_none_iff` — the running clock and the order of the whole list;
    * `StepBack.Reported.kind` — when a report of a step back is a fault of timing;
    * `Track.ofEvents_settles` — the outcome of making a track, in both cases.
-/
import Mathlib.Data.List.Pairwise
import Plectrum.Proofs.SongTracks
import Plectrum.Proofs.Writable

namespace Plectrum

/-! ## §1. Steps back. -/

/-- A step from a tick to an earlier one. -/
structure StepBack where
  before : Int
  after : Int
  deriving Repr, DecidableEq

namespace StepBack

/-- Whether the numbers that a report of the step shows can all be written. -/
def isWritable (s : StepBack) : Bool :=
  Quantity.isShort s.before.natAbs && Quantity.isShort (s.after - s.before).natAbs
    && Quantity.isShort s.after.natAbs

/-- A fault that reports a step back, at an event whose kind is `kind`. -/
inductive Reported (s : StepBack) : Fault → Prop where
  | mk {now tick : Quantity} (kind : Text) (leaves : now.integer? = some s.before)
    (reaches : tick.integer? = some s.after) :
    Reported s (.backwards now (.whole (s.after - s.before)) (.text kind) tick)

end StepBack

/-- A number that counts as a whole one can be written if that is short. -/
theorem Quantity.isWritable_of_integer {q : Quantity} {n : Int} (h : q.integer? = some n) :
    q.isWritable = Quantity.isShort n.natAbs := by
  cases q with
  | whole m =>
    cases h
    rfl
  | truth b =>
    cases h
    have small : (ofTruth b).natAbs ≤ 1 := by
      cases b <;> decide
    have large : 1 < tenTo Text.digitLimit := by decide +kernel
    exact (decide_eq_true (Nat.lt_of_le_of_lt small large)).symm
  | ratio r => cases h
  | float x => cases h

namespace StepBack.Reported

variable {s : StepBack} {f : Fault}

theorem family (h : s.Reported f) : f.family = .timing := by
  cases h
  rfl

/-- A report of a step back is a fault of timing if its numbers can be written, and the failure
of a number otherwise. -/
theorem kind (h : s.Reported f) : f.kind = if s.isWritable then .timing else .value := by
  obtain @⟨now, tick, kind, leaves, reaches⟩ := h
  have wording : (Fault.backwards now (.whole (s.after - s.before)) (.text kind)
      tick).wording.isWritable = s.isWritable := by
    have difference :
        (Quantity.whole (s.after - s.before)).integer? = some (s.after - s.before) := rfl
    show (true && (now.isWritable && (true && ((Quantity.whole (s.after - s.before)).isWritable &&
      (true && (true && (true && (tick.isWritable && (true && true))))))))) = _
    rw [Quantity.isWritable_of_integer leaves, Quantity.isWritable_of_integer reaches,
      Quantity.isWritable_of_integer difference]
    unfold isWritable
    simp only [Bool.true_and, Bool.and_true, Bool.and_assoc]
  unfold Fault.kind
  rw [wording]
  rfl

end StepBack.Reported

/-! ## §2. The running clock. -/

namespace Timeline

/-- The first step back among ticks, the first of which is compared with `now`. -/
def stepBack? : Int → List Int → Option StepBack
  | _, [] => none
  | now, tick :: ticks => if tick < now then some ⟨now, tick⟩ else stepBack? tick ticks

/-- The clock runs through exactly if the ticks are in order. -/
theorem stepBack?_eq_none_iff {now : Int} {ticks : List Int} :
    stepBack? now ticks = none ↔ (now :: ticks).Pairwise (· ≤ ·) := by
  induction ticks generalizing now with
  | nil => exact iff_of_true rfl (List.pairwise_singleton _ _)
  | cons tick ticks ih =>
    rw [List.pairwise_cons_cons_iff_of_trans, ← ih]
    show (if tick < now then some ⟨now, tick⟩ else stepBack? tick ticks) = none ↔ _
    split
    · next back => exact iff_of_false nofun fun ordered => absurd ordered.1 (Int.not_le.2 back)
    · next ahead => exact (and_iff_right (Int.not_lt.1 ahead)).symm

/-- A tick that is met again and again is one tick to the clock. -/
theorem stepBack?_append_replicate (now : Int) (ticks : List Int) (count : Nat) (last : Int) :
    stepBack? now (ticks ++ List.replicate (count + 1) last) = stepBack? now (ticks ++ [last]) := by
  have still : stepBack? last (List.replicate count last) = none := by
    rw [stepBack?_eq_none_iff, ← List.replicate_succ]
    exact List.pairwise_replicate.2 (.inr (Int.le_refl last))
  induction ticks generalizing now with
  | nil =>
    show (if last < now then some ⟨now, last⟩ else stepBack? last (List.replicate count last)) = _
    rw [still]
    rfl
  | cons tick ticks ih =>
    show (if tick < now then some ⟨now, tick⟩ else
      stepBack? tick (ticks ++ List.replicate (count + 1) last)) = _
    rw [ih]
    rfl

end Timeline

example : Timeline.stepBack? 0 [3, 3, 7, 5, 9, 8] = some ⟨7, 5⟩ := by decide

/-! ## §3. Results that only a step back prevents. -/

/-- A result that is there unless there is a step back, which is reported then. -/
def Settles {α : Type} (result : Except Fault α) : Option StepBack → Prop
  | none => ∃ a, result = .ok a
  | some s => ∃ f, result = .error f ∧ s.Reported f

namespace Settles

variable {α β : Type} {result : Except Fault α} {o o' : Option StepBack}

/-- The first step back decides. -/
theorem bind {next : α → Except Fault β} (first : Settles result o)
    (then_ : ∀ a, result = .ok a → Settles (next a) o') :
    Settles (result >>= next) (o.or o') := by
  cases o with
  | some s =>
    obtain ⟨f, failed, reported⟩ := first
    refine ⟨f, ?_, reported⟩
    rw [failed]
    rfl
  | none =>
    obtain ⟨a, well⟩ := first
    rw [Option.none_or, well]
    exact then_ a well

/-- The result is there exactly if there is no step back. -/
theorem ok_iff (h : Settles result o) : (∃ a, result = .ok a) ↔ o = none := by
  cases o with
  | none => exact iff_of_true h rfl
  | some s =>
    obtain ⟨f, failed, -⟩ := h
    rw [failed]
    exact iff_of_false (fun ⟨_, made⟩ => nomatch made) nofun

/-- A result that is not there reports the step back. -/
theorem reported (h : Settles result o) {f : Fault} (failed : result = .error f) :
    ∃ s, o = some s ∧ s.Reported f := by
  cases o with
  | none =>
    obtain ⟨a, well⟩ := h
    rw [failed] at well
    cases well
  | some s =>
    obtain ⟨g, failed', reported⟩ := h
    rw [failed] at failed'
    cases failed'
    exact ⟨s, rfl, reported⟩

/-- Over a list the first step back of the first item with one decides. -/
theorem mapM {step : α → Except Fault β} {place : α → Option StepBack} {as : List α}
    (h : ∀ a ∈ as, Settles (step a) (place a)) : Settles (as.mapM step) (as.findSome? place) := by
  induction as with
  | nil => exact ⟨[], rfl⟩
  | cons a as ih =>
    obtain ⟨here, there⟩ := List.forall_mem_cons.1 h
    have both : (a :: as).findSome? place = (place a).or ((as.findSome? place).or none) := by
      rw [List.findSome?_cons, Option.or_none]
      cases place a <;> rfl
    rw [List.mapM_cons, both]
    exact here.bind fun b _ => (ih there).bind fun bs _ => ⟨b :: bs, rfl⟩

end Settles

/-! ## §4. Tracks. -/

/-- The ticks of events, as whole numbers. -/
def Event.wholeTicks (events : List Event) : List Int := events.map Event.wholeTick

/-- A happening that fits the format is of a kind with a name. -/
theorem Happening.Fits.kindName {what : Happening} (h : what.Fits) :
    ∃ t, what.kindName = .text t := by
  cases what with
  | unknown kind => cases h
  | _ => exact ⟨_, rfl⟩

/-- Events at whole ticks have deltas unless there is a step back. -/
theorem Timeline.deltasFrom_settles {events : List Event} (whole : WholeTicks events)
    (known : ∀ e ∈ events, ∃ t, e.what.kindName = .text t) {now : Quantity} {n : Int}
    (start : now.integer? = some n) :
    Settles (deltasFrom now events) (stepBack? n (Event.wholeTicks events)) := by
  induction events generalizing now n with
  | nil => exact ⟨[], rfl⟩
  | cons e events ih =>
    obtain ⟨here, there⟩ := List.forall_mem_cons.1 whole
    obtain ⟨⟨kind, named⟩, others⟩ := List.forall_mem_cons.1 known
    obtain ⟨q, tick, same⟩ := Event.tick_eq here
    unfold deltasFrom
    rw [tick]
    show Settles (q.sub now >>= fun delta => _)
      (if e.wholeTick < n then some ⟨n, e.wholeTick⟩
        else stepBack? e.wholeTick (Event.wholeTicks events))
    rw [Quantity.sub_of_integer same start]
    show Settles (if q.lt now = true then _ else deltasFrom q events >>= fun ds => _) _
    rw [Quantity.lt_of_integer same start]
    simp only [decide_eq_true_eq]
    split
    · next back =>
      refine ⟨_, rfl, ?_⟩
      rw [named]
      exact .mk kind start same
    · rw [← Option.or_none (o := stepBack? _ _)]
      exact (ih there others same).bind fun ds _ => ⟨_, rfl⟩

/-- Where every value fits, only a step back keeps a track of whole ticks from being made. -/
theorem Track.ofEvents_settles {events : List Event} (whole : WholeTicks events)
    (fits : ∀ e ∈ events, e.what.Fits) :
    Settles (Track.ofEvents events) (Timeline.stepBack? 0 (Event.wholeTicks events)) := by
  have start : (Quantity.whole 0).integer? = some 0 := rfl
  have deltas : Settles (Timeline.deltas events) _ :=
    Timeline.deltasFrom_settles whole (fun e here => (fits e here).kindName) start
  have made : ∀ ds, Timeline.deltas events = .ok ds → Settles
      (ds.mapM fun d : Quantity × Event => Message.ofEvent (.number d.1) d.2) none := by
    intro ds settled
    obtain ⟨track, built⟩ := Track.ofEvents_ok_iff.2 ⟨⟨ds, settled⟩, fits⟩
    unfold ofEvents at built
    rw [settled] at built
    exact ⟨track, built⟩
  unfold ofEvents
  rw [← Option.or_none (o := Timeline.stepBack? _ _)]
  exact deltas.bind made

/-! ## §5. Note tracks. -/

namespace Voice

/-- The ticks of what a voice has recorded, in the order of recording, and then the clock if
some string still sounds. -/
def noteTicks (v : Voice) : List Int :=
  Event.wholeTicks v.events.toList
    ++ if v.sounding.any Option.isSome then [v.clock.integer?.getD 0] else []

/-- The first step back in the notes of a voice. -/
def stepBack? (v : Voice) : Option StepBack := Timeline.stepBack? 0 v.noteTicks

/-- All notes that still sound end at one tick, so one of them stands for all. -/
theorem stepBack?_noteTrackEvents (v : Voice) :
    Timeline.stepBack? 0 (Event.wholeTicks v.noteTrackEvents) = v.stepBack? := by
  have closing : Event.wholeTicks v.closingEvents =
      List.replicate v.sounding.reduceOption.length (v.clock.integer?.getD 0) := by
    rw [closingEvents_eq]
    unfold Event.wholeTicks
    rw [List.map_map, ← List.map_const']
    rfl
  have all : Event.wholeTicks v.noteTrackEvents =
      0 :: 0 :: (Event.wholeTicks v.events.toList ++ Event.wholeTicks v.closingEvents) := by
    unfold Event.wholeTicks noteTrackEvents
    rw [List.append_assoc, List.map_append, List.map_append]
    rfl
  show _ = Timeline.stepBack? 0 v.noteTicks
  rw [all, closing]
  show Timeline.stepBack? 0 _ = _
  unfold noteTicks
  cases sounds : v.sounding.reduceOption with
  | nil =>
    have silent : v.sounding.any Option.isSome = false := by
      rw [← Bool.not_eq_true, Bank.any_isSome_iff]
      exact fun some_ => some_ sounds
    rw [silent]
    rfl
  | cons pitch pitches =>
    have loud : v.sounding.any Option.isSome = true := by
      rw [Bank.any_isSome_iff, sounds]
      exact List.cons_ne_nil _ _
    rw [loud]
    exact Timeline.stepBack?_append_replicate _ _ _ _

/-- Where every value fits, only a step back keeps a note track of whole ticks from being made. -/
theorem noteTrack_settles {v : Voice} (onGrid : v.OnGrid)
    (fits : ∀ e ∈ v.noteTrackEvents, e.what.Fits) :
    Settles (Track.ofEvents v.noteTrackEvents) v.stepBack? := by
  rw [← stepBack?_noteTrackEvents]
  exact Track.ofEvents_settles onGrid.notes fits

end Voice

end Plectrum
