/-
  Plectrum.Proofs.RampQueries
  ───────────────────────────
  **The volume at a tick does not depend on the other notes.**

  Each note asks for the volume at its tick, and the answer is kept: it overwrites the volume
  that a ramp began with.  Still no answer can be told from the answers before it.  A ramp
  goes through three stages, and in each the next answer is known without the volume that is
  kept: before the ramp it has not been touched, within the ramp it is computed from the ends
  of the ramp alone, and after the ramp it is the end value.  Questions that go back in time
  would break this, for a ramp that has begun does not give back the volume of before.

  Main results:
    * `VolumeRamp.valueAt_avoidsZero` — a ramp with a length never divides by zero;
    * `VolumeRamp.Stage.ask` — what one question does in each stage;
    * `Dynamics.crescendo_questions` — the answers to all questions after a crescendo.
-/
import Plectrum.Dynamics.Playing
import Plectrum.Proofs.Contract
import Plectrum.Proofs.Outcomes

namespace Plectrum

/-! ## §1. Computations that divide by nothing that is zero. -/

/-- A computation that does not fail by a division by zero. -/
def AvoidsZero {α : Type} (result : Except Fault α) : Prop := result ≠ .error .divisionByZero

namespace AvoidsZero

variable {α β : Type}

theorem ok (a : α) : AvoidsZero (.ok a) := nofun

theorem error {f : Fault} (other : f ≠ .divisionByZero) : AvoidsZero (.error f : Except Fault α) :=
  fun same => other (Except.error.inj same)

theorem bind {result : Except Fault α} {next : α → Except Fault β} (h : AvoidsZero result)
    (hnext : ∀ a, result = .ok a → AvoidsZero (next a)) : AvoidsZero (result >>= next) := by
  cases result with
  | ok a => exact hnext a rfl
  | error f => exact error fun same => h (congrArg Except.error same)

theorem map {result : Except Fault α} (g : α → β) (h : AvoidsZero result) :
    AvoidsZero (g <$> result) := by
  cases result with
  | ok a => exact ok (g a)
  | error f => exact error fun same => h (congrArg Except.error same)

end AvoidsZero

namespace Quantity

theorem inRange_avoidsZero {fault : Fault} (other : fault ≠ .divisionByZero) (x : Binary64) :
    AvoidsZero (inRange fault x) := by
  cases x with
  | infinite negative => exact .error other
  | _ => exact .ok _

theorem floatOfQuotient_avoidsZero (n : Int) {d : Int} (other : d ≠ 0) :
    AvoidsZero (floatOfQuotient n d) := by
  unfold floatOfQuotient
  rw [if_neg other]
  refine inRange_avoidsZero ?_ _
  exact nofun

theorem toFloat_avoidsZero (q : Quantity) : AvoidsZero q.toFloat := by
  have integer : ∀ n, AvoidsZero (floatOfInt n) := by
    intro n
    unfold floatOfInt
    refine inRange_avoidsZero ?_ _
    exact nofun
  cases q with
  | whole n => exact integer n
  | truth b => exact integer _
  | ratio q => exact floatOfQuotient_avoidsZero _ (Int.natCast_ne_zero.2 q.den_nz)
  | float x => exact .ok x

theorem onFloats_avoidsZero (op : Binary64 → Binary64 → Binary64) (a b : Quantity) :
    AvoidsZero (onFloats op a b) :=
  (toFloat_avoidsZero a).bind fun _ _ => (toFloat_avoidsZero b).bind fun _ _ => .ok _

theorem add_avoidsZero (a b : Quantity) : AvoidsZero (a.add b) := by
  unfold add
  split
  · exact .ok _
  · exact .ok _
  · exact .ok _
  · exact .ok _
  · exact onFloats_avoidsZero _ _ _

theorem sub_avoidsZero (a b : Quantity) : AvoidsZero (a.sub b) := by
  unfold sub
  split
  · exact .ok _
  · exact .ok _
  · exact .ok _
  · exact .ok _
  · exact onFloats_avoidsZero _ _ _

theorem mul_avoidsZero (a b : Quantity) : AvoidsZero (a.mul b) := by
  unfold mul
  split
  · exact .ok _
  · exact .ok _
  · exact .ok _
  · exact .ok _
  · exact onFloats_avoidsZero _ _ _

end Quantity

namespace Datum

theorem computed_avoidsZero {op : Quantity → Quantity → Except Fault Quantity}
    (h : ∀ p q, AvoidsZero (op p q)) (a b : Datum) : AvoidsZero (computed op a b) := by
  have numbers : ∀ d : Datum, AvoidsZero d.asNumber := by
    intro d
    cases d with
    | number q => exact .ok q
    | _ => exact .error nofun
  exact (numbers a).bind fun p _ => (numbers b).bind fun q _ => (h p q).map _

theorem repeated_avoidsZero {α : Type} {fault : Fault} (other : fault ≠ .divisionByZero)
    (count : Nat) (items : List α) : AvoidsZero (repeated fault count items) := by
  unfold repeated
  split
  · exact .ok _
  · split
    · exact .error other
    · exact .ok _

theorem copies_avoidsZero (q : Quantity) : AvoidsZero (copies q) := by
  unfold copies
  split
  · split
    · exact .error nofun
    · exact .ok _
  · exact .error nofun

/-- A product of data is copies of one of them, or is computed. -/
theorem times_avoidsZero (a b : Datum) : AvoidsZero (a.times b) := by
  have text : Fault.textTooLong ≠ .divisionByZero := nofun
  have list : Fault.noRoom ≠ .divisionByZero := nofun
  unfold times
  split
  · exact (copies_avoidsZero _).bind fun _ _ => (repeated_avoidsZero text _ _).bind fun _ _ => .ok _
  · exact (copies_avoidsZero _).bind fun _ _ => (repeated_avoidsZero text _ _).bind fun _ _ => .ok _
  · exact (copies_avoidsZero _).bind fun _ _ => (repeated_avoidsZero list _ _).bind fun _ _ => .ok _
  · exact (copies_avoidsZero _).bind fun _ _ => (repeated_avoidsZero list _ _).bind fun _ _ => .ok _
  · exact computed_avoidsZero Quantity.mul_avoidsZero _ _

/-- A sum of data puts them together, or is computed. -/
theorem plus_avoidsZero (a b : Datum) : AvoidsZero (a.plus b) := by
  unfold plus
  split
  · exact .ok _
  · exact .ok _
  · exact computed_avoidsZero Quantity.add_avoidsZero _ _

end Datum

/-! ## §2. The values of a ramp. -/

/-- In the doubles a shape always has a value. -/
theorem Easing.share_float (e : Easing) (x : Binary64) :
    ∃ y : Binary64, e.share (Datum.number (.float x)) = .ok (.number (.float y)) := by
  cases e <;> exact ⟨_, rfl⟩

/-- A shape divides nothing by zero there: one with a name has a value, and a function of the
caller's own fails in its own way. -/
theorem Shape.share_avoidsZero (s : Shape Datum) (x : Binary64) :
    AvoidsZero (s.share (.number (.float x))) := by
  cases s with
  | named e =>
    obtain ⟨y, shared⟩ := e.share_float x
    show AvoidsZero (e.share (Datum.number (.float x)))
    rw [shared]
    exact .ok _
  | own f =>
    show AvoidsZero ((f (.number (.float x))).elim _ _)
    cases f (.number (.float x)) with
    | none => exact .error nofun
    | some part => exact .ok part

/-- From a datum towards another, at a progress in the doubles, nothing is divided by zero. -/
theorem Shape.blend_avoidsZero (s : Shape Datum) (start target : Datum) (x : Binary64) :
    AvoidsZero (s.blend start target (.number (.float x))) :=
  (Datum.computed_avoidsZero Quantity.sub_avoidsZero _ _).bind fun change _ =>
    (s.share_avoidsZero x).bind fun part _ => (Datum.times_avoidsZero change part).bind
      fun product _ => Datum.plus_avoidsZero start product

namespace VolumeRamp

/-- A ramp between whole ticks. -/
structure Spans (r : VolumeRamp Datum) (first last : Int) : Prop where
  startTick : r.startTick = .whole first
  endTick : r.endTick = .whole last
  long : first < last

variable {r : VolumeRamp Datum} {first last : Int}

/-- A ramp with a length never divides by zero. -/
theorem valueAt_avoidsZero (spans : r.Spans first last) (tick : Int) :
    AvoidsZero (r.valueAt (.whole tick)) := by
  unfold valueAt
  rw [spans.startTick, spans.endTick]
  split
  · exact .ok _
  · have length : last - first ≠ 0 := Int.ne_of_gt (Int.sub_pos.2 spans.long)
    -- The ticks are whole numbers, so what is divided by is the length.
    change AvoidsZero (((Datum.number <$> do
      return Quantity.float (← Quantity.floatOfQuotient (tick - first) (last - first)) :
        Except Fault Datum)) >>= _)
    have divides := Quantity.floatOfQuotient_avoidsZero (tick - first) length
    cases quotient : Quantity.floatOfQuotient (tick - first) (last - first) with
    | error f =>
      rw [quotient] at divides
      exact AvoidsZero.error fun same => divides (congrArg Except.error same)
    | ok progress => exact r.shape.blend_avoidsZero _ _ _

/-- The volume at a tick, if `volume` was the volume when the ramp began. -/
def answer (r : VolumeRamp Datum) (volume : Datum) (first last tick : Int) : Except Fault Datum :=
  if tick < first then .ok volume
  else if tick < last then r.valueAt (.whole tick)
  else .ok r.endValue

end VolumeRamp

/-! ## §3. One question. -/

namespace Dynamics

/-- A ramp that is accepted between whole ticks has a length. -/
theorem rampTo_spans (d : Dynamics Datum) (factor : Datum) (shape : Shape.Choice Datum)
    (startTick length : Int) :
    Yields (d.rampTo factor (.whole startTick) (.whole length) shape) fun r =>
      r.Spans startTick (startTick + length) := by
  unfold rampTo
  refine .bind fun negative _ => .check fun _ => .bind fun short compared => .check fun long => ?_
  refine .bind fun endTick ends => .bind fun endValue _ => .bind fun e _ => .pure ?_
  cases ends
  have positive : 0 < length := by
    cases compared
    change ¬(Quantity.whole length).le (.whole 0) = true at long
    rw [Quantity.le_whole, decide_eq_true_eq] at long
    exact Int.not_le.1 long
  exact ⟨rfl, rfl, Int.lt_add_of_pos_right startTick positive⟩

/-- A question for the volume on a desk. -/
theorem start_loudnessAt (tick : Datum) (desk : Desk (Dynamics Datum)) :
    (loudnessAt tick).start desk =
      match desk.state.volumeAt tick with
      | .ok (volume, d) => (.ok volume, { desk with state := d })
      | .error f => (.error f, desk) := by
  unfold loudnessAt
  rw [Act.start_bind, Act.start_state]
  dsimp only
  rw [Act.start_bind, Act.start_lift]
  cases desk.state.volumeAt tick <;> rfl

/-- The volume at a whole tick while a ramp between whole ticks is active. -/
theorem volumeAt_spanned {d : Dynamics Datum} {r : VolumeRamp Datum} {first last : Int}
    (active : d.ramp = some r) (spans : r.Spans first last) (tick : Int) :
    d.volumeAt (.whole tick) =
      if last ≤ tick then .ok (r.endValue, { d with volume := r.endValue, ramp := none })
      else if first ≤ tick then do
        let volume ← r.valueAt (.whole tick)
        return (volume, { d with volume })
      else .ok (d.volume, d) := by
  have compare : ∀ a b : Int, Scalar.le (Datum.whole a) (.whole b) = .ok (decide (a ≤ b)) := by
    intro a b
    exact congrArg Except.ok (Quantity.le_whole a b)
  unfold volumeAt
  rw [active]
  dsimp only
  rw [spans.startTick, spans.endTick, compare, compare]
  show (if decide (last ≤ tick) = true then _ else
    if decide (first ≤ tick) = true then _ else _) = _
  simp only [decide_eq_true_eq]
  rfl

end Dynamics

/-- Where a ramp stands before some questions, in order of time. -/
inductive VolumeRamp.Stage (r : VolumeRamp Datum) (volume : Datum) (first last : Int)
    (d : Dynamics Datum) (ticks : List Int) : Prop where
  /-- No question has come to its start: the volume is that of before. -/
  | waiting (active : d.ramp = some r) (untouched : d.volume = volume)
  /-- A question has come to its start, none to its end; all that follow come to its start. -/
  | running (active : d.ramp = some r) (begun : ∀ tick ∈ ticks, first ≤ tick)
  /-- A question has come to its end, and so do all that follow. -/
  | done (cleared : d.ramp = none) (steady : d.volume = r.endValue)
      (ended : ∀ tick ∈ ticks, last ≤ tick)

namespace VolumeRamp.Stage

variable {r : VolumeRamp Datum} {volume : Datum} {first last tick : Int} {ticks : List Int}

/-- A question while the ramp is active: the answer depends on the place of the tick alone, if
the volume of before is still there where it counts. -/
theorem ask_active {desk : Desk (Dynamics Datum)} (spans : r.Spans first last)
    (active : desk.state.ramp = some r) (before : tick < first → desk.state.volume = volume)
    (later : ∀ t ∈ ticks, tick ≤ t) :
    ∃ after, (Dynamics.loudnessAt (.whole tick)).start desk =
        (r.answer volume first last tick, after) ∧
      r.Stage volume first last after.state ticks ∧
      after.state.ramp = if last ≤ tick then none else some r := by
  have order := spans.long
  have rest : ∀ bound : Int, bound ≤ tick → ∀ t ∈ ticks, bound ≤ t :=
    fun _ le t inside => Int.le_trans le (later t inside)
  rw [Dynamics.start_loudnessAt, Dynamics.volumeAt_spanned active spans]
  unfold answer
  by_cases ended : last ≤ tick
  · rw [if_pos ended, if_pos ended, if_neg (by omega), if_neg (by omega)]
    exact ⟨_, rfl, .done rfl rfl (rest last ended), rfl⟩
  · rw [if_neg ended, if_neg ended]
    by_cases begun : first ≤ tick
    · rw [if_pos begun, if_neg (by omega), if_pos (by omega)]
      -- A value that cannot be computed leaves the volume of before, which is not looked at again.
      cases r.valueAt (.whole tick) with
      | ok value => exact ⟨_, rfl, .running active (rest first begun), active⟩
      | error f => exact ⟨_, rfl, .running active (rest first begun), active⟩
    · have early : tick < first := Int.not_le.1 begun
      rw [if_neg begun, if_pos early, before early]
      exact ⟨desk, rfl, .waiting active (before early), active⟩

/-- One question gets the answer for its tick, and the ramp is in a stage again.  It is cleared
if it was, or if the question comes to its end. -/
theorem ask {desk : Desk (Dynamics Datum)} (spans : r.Spans first last)
    (stage : r.Stage volume first last desk.state (tick :: ticks))
    (later : ∀ t ∈ ticks, tick ≤ t) :
    ∃ after, (Dynamics.loudnessAt (.whole tick)).start desk =
        (r.answer volume first last tick, after) ∧
      r.Stage volume first last after.state ticks ∧
      after.state.ramp = if last ≤ tick then none else desk.state.ramp := by
  cases stage with
  | waiting active untouched =>
    rw [active]
    exact ask_active spans active (fun _ => untouched) later
  | running active begun =>
    have within : ¬tick < first := Int.not_lt.2 (begun tick List.mem_cons_self)
    rw [active]
    exact ask_active spans active (fun early => absurd early within) later
  | done cleared steady ended =>
    have past : last ≤ tick := ended tick List.mem_cons_self
    have order := spans.long
    have answers : r.answer volume first last tick = .ok desk.state.volume := by
      unfold answer
      rw [if_neg (by omega), if_neg (by omega), steady]
    rw [answers, if_pos past, Dynamics.start_loudnessAt]
    unfold Dynamics.volumeAt
    rw [cleared]
    exact ⟨desk, rfl, .done cleared steady fun t inside => ended t (List.mem_cons_of_mem _ inside),
      cleared⟩

end VolumeRamp.Stage

/-! ## §4. All questions. -/

namespace Dynamics

/-- Questions for the volume at some ticks, one after the other: their answers, and the desk
after them.  A question that fails does not keep the others from being asked. -/
def questions : List Int → Desk (Dynamics Datum) → List (Except Fault Datum) × Desk (Dynamics Datum)
  | [], desk => ([], desk)
  | tick :: ticks, desk =>
    let (answer, after) := (loudnessAt (.whole tick)).start desk
    let (answers, last) := questions ticks after
    (answer :: answers, last)

variable {r : VolumeRamp Datum} {volume : Datum} {first last : Int}

/-- From any stage on, each question gets the answer for its tick, and the ramp is cleared once
a question has come to its end. -/
theorem questions_staged {ticks : List Int} {desk : Desk (Dynamics Datum)}
    (spans : r.Spans first last) (ordered : ticks.Pairwise (· ≤ ·))
    (stage : r.Stage volume first last desk.state ticks) :
    (questions ticks desk).1 = ticks.map (r.answer volume first last) ∧
      (questions ticks desk).2.state.ramp =
        if ∃ tick ∈ ticks, last ≤ tick then none else desk.state.ramp := by
  induction ticks generalizing desk with
  | nil => exact ⟨rfl, (if_neg fun ⟨_, inside, _⟩ => nomatch inside).symm⟩
  | cons tick ticks ih =>
    obtain ⟨later, ordered⟩ := List.pairwise_cons.1 ordered
    obtain ⟨after, asked, staged, ramp⟩ := stage.ask spans later
    obtain ⟨answers, cleared⟩ := ih ordered staged
    unfold questions
    rw [asked]
    refine ⟨congrArg (_ :: ·) answers, cleared.trans ?_⟩
    rw [ramp]
    by_cases here : last ≤ tick
    · rw [if_pos here, ite_self, if_pos ⟨tick, List.mem_cons_self, here⟩]
    · rw [if_neg here]
      simp only [List.mem_cons, exists_eq_or_imp, here, false_or]

/-- Once a crescendo is accepted, its ramp has begun, even if it cannot be reported. -/
theorem state_crescendo {factor startTick length : Datum} {shape : Shape.Choice Datum}
    {desk : Desk (Dynamics Datum)}
    (begins : desk.state.rampTo factor startTick length shape = .ok r) :
    ((crescendo factor startTick length shape).start desk).2.state =
      { desk.state with ramp := some r } := by
  obtain ⟨d, journal⟩ := desk
  have ensures : (crescendo factor startTick length shape).Ensures d
      (fun _ e => e = { d with ramp := some r }) fun _ e => e = { d with ramp := some r } := by
    unfold crescendo
    rw [Act.ensures_state_bind, Act.ensures_lift_bind, begins]
    constructor
    · intro _ same
      cases same
      rw [Act.ensures_update_bind, Act.ensures_lift_bind]
      refine ⟨fun before _ => ?_, fun _ _ => rfl⟩
      rw [Act.ensures_lift_bind]
      refine ⟨fun after _ => ?_, fun _ _ => rfl⟩
      apply Act.ensures_report_bind
      · rw [Act.ensures_pure]
      · rfl
    · intro f failed
      cases failed
  exact ensures.always journal

/-- After a crescendo over whole ticks, whatever its shape and whatever ticks the volume is asked
for, in order of time, each answer depends on its own tick alone: before the ramp it is the volume
of before, within the ramp the value of the ramp, and from its end on the end value.  The ramp is
cleared as soon as a tick at its end or after it has been asked for, and not before.  Its value
never divides by zero. -/
theorem crescendo_questions {factor : Datum} {shape : Shape.Choice Datum} {startTick length : Int}
    {desk : Desk (Dynamics Datum)}
    (begins : desk.state.rampTo factor (.whole startTick) (.whole length) shape = .ok r) :
    let begun := ((crescendo factor (.whole startTick) (.whole length) shape).start desk).2
    (∀ ticks : List Int, ticks.Pairwise (· ≤ ·) →
      (questions ticks begun).1 = ticks.map (fun tick =>
        if tick < startTick then .ok desk.state.volume
        else if tick < startTick + length then r.valueAt (.whole tick)
        else .ok r.endValue) ∧
      (questions ticks begun).2.state.ramp =
        if ∃ tick ∈ ticks, startTick + length ≤ tick then none else some r) ∧
    ∀ tick : Int, r.valueAt (.whole tick) ≠ .error .divisionByZero := by
  intro begun
  have spans := rampTo_spans desk.state factor shape startTick length r begins
  have state : begun.state = { desk.state with ramp := some r } := state_crescendo begins
  refine ⟨fun ticks ordered => ?_, r.valueAt_avoidsZero spans⟩
  have waiting : r.Stage desk.state.volume startTick (startTick + length) begun.state ticks := by
    rw [state]
    exact .waiting rfl rfl
  obtain ⟨answers, ramp⟩ := questions_staged spans ordered waiting
  rw [state] at ramp
  exact ⟨answers, ramp⟩

/-- A crescendo to twice the volume over two beats, asked before it, twice within it, at its end
and later. -/
theorem crescendo_questions_five :
    let d : Dynamics Datum := ⟨.whole 120, .whole 120, .whole 1, none, #[]⟩
    let r : VolumeRamp Datum := ⟨.whole 480, .whole 1, .whole 1440, .whole 2, .named .linear⟩
    let begun :=
      ((crescendo (.whole 2) (.whole 480) (.whole 960) (.datum (.text "linear"))).start ⟨d, #[]⟩).2
    d.rampTo (.whole 2) (.whole 480) (.whole 960) (.datum (.text "linear")) = .ok r ∧
      (questions [0, 480, 720, 1440, 2000] begun).1 =
        [.ok (.whole 1), r.valueAt (.whole 480), r.valueAt (.whole 720), .ok (.whole 2),
          .ok (.whole 2)] ∧
      (questions [0, 480, 720] begun).2.state.ramp = some r ∧
      (questions [0, 480, 720, 1440] begun).2.state.ramp = none ∧
      r.valueAt (.whole 720) ≠ .error .divisionByZero := by
  intro d r
  have begins : (Desk.mk d #[]).state.rampTo (.whole 2) (.whole 480) (.whole 960)
      (.datum (.text "linear")) = .ok r := rfl
  obtain ⟨answers, avoids⟩ := crescendo_questions begins
  have before : ¬∃ tick ∈ [0, 480, 720], (480 : Int) + 960 ≤ tick := by decide
  have after : ∃ tick ∈ [0, 480, 720, 1440], (480 : Int) + 960 ≤ tick := by decide
  have five := (answers [0, 480, 720, 1440, 2000] (by decide)).1
  have three := (answers [0, 480, 720] (by decide)).2
  have four := (answers [0, 480, 720, 1440] (by decide)).2
  rw [if_neg before] at three
  rw [if_pos after] at four
  refine ⟨begins, five.trans ?_, three, four, avoids 720⟩
  generalize r.valueAt = values
  rfl

end Dynamics
end Plectrum
