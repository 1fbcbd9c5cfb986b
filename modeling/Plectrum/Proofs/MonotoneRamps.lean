/-
  Plectrum.Proofs.MonotoneRamps
  ─────────────────────────────
  **Ramps never turn back.**

  A performance computes its ramps in doubles.  Here the same formulas are read over the
  exact rationals, where each shape with a name is a polynomial that climbs from zero to one on its way
  from zero to one.  So a ramp between two numbers goes from the one towards the other, never
  turns back and never leaves what lies between them.  The stairs of a tempo ramp are such a
  ramp, read at every beat: none of them is refused, and the last one is the target itself.

  Main results:
    * `Easing.curve_mono` — each shape with a name climbs between zero and one;
    * `Easing.path_onward` — so whatever is blended by a shape moves onward;
    * `Dynamics.climb_snoc` — a staircase of one more stair is that stair after the others;
    * `ramps_onward` — the stairs of a tempo ramp, and the values of a volume ramp.
-/
import Mathlib.Algebra.Order.Field.Rat
import Mathlib.Tactic.FieldSimp
import Mathlib.Tactic.Linarith
import Mathlib.Tactic.Positivity
import Mathlib.Tactic.Ring
import Plectrum.Dynamics.Ramp
import Plectrum.Proofs.Outcomes

namespace Plectrum

/-! ## §1. Moving onward. -/

/-- On the way from `a` to `b` one is at `x` first and at `y` later. -/
structure Onward (a b x y : Rat) : Prop where
  rising : a ≤ b → a ≤ x ∧ x ≤ y ∧ y ≤ b
  falling : b ≤ a → b ≤ y ∧ y ≤ x ∧ x ≤ a

/-- What lies on the way between two positive numbers is positive. -/
theorem Onward.pos {a b x y : Rat} (h : Onward a b x y) (first : 0 < a) (last : 0 < b) : 0 < y := by
  rcases le_total a b with le | le
  · obtain ⟨above, moves, -⟩ := h.rising le
    exact first.trans_le (above.trans moves)
  · obtain ⟨above, -, -⟩ := h.falling le
    exact last.trans_le above

/-- A share that grows within zero and one takes the change from one number to another onward. -/
theorem onward_of_shares {a b s t : Rat} (nonneg : 0 ≤ s) (grows : s ≤ t) (most : t ≤ 1) :
    Onward a b (a + (b - a) * s) (a + (b - a) * t) := by
  constructor
  · intro le
    have change : 0 ≤ b - a := sub_nonneg.2 le
    have begun : 0 ≤ (b - a) * s := mul_nonneg change nonneg
    have onward : (b - a) * s ≤ (b - a) * t := mul_le_mul_of_nonneg_left grows change
    have ended : (b - a) * t ≤ b - a := mul_le_of_le_one_right change most
    exact ⟨by linarith, by linarith, by linarith⟩
  · intro le
    have change : b - a ≤ 0 := sub_nonpos.2 le
    have begun : (b - a) * s ≤ 0 := mul_nonpos_of_nonpos_of_nonneg change nonneg
    have onward : (b - a) * t ≤ (b - a) * s := mul_le_mul_of_nonpos_left grows change
    have ended : b - a ≤ (b - a) * t := le_mul_of_le_one_right change most
    exact ⟨by linarith, by linarith, by linarith⟩

/-! ## §2. The shapes. -/

namespace Easing

/-- A shape over the rationals: the polynomial that it is. -/
def curve : Easing → Rat → Rat
  | .linear, t => t
  | .easeIn, t => t * t
  | .easeOut, t => 1 - (1 - t) * (1 - t)
  | .easeInOut, t => t * t * (3 - 2 * t)

/-- The way from `a` to `b` in a shape. -/
def path (e : Easing) (a b t : Rat) : Rat := a + (b - a) * e.curve t

theorem share_exact (e : Easing) (t : Rat) : e.share t = .ok (e.curve t) := by
  cases e <;> rfl

theorem blend_exact (e : Easing) (a b t : Rat) :
    (Shape.named e).blend a b t = .ok (e.path a b t) := by
  show (Except.ok (b - a) >>= fun change => e.share t >>= _) = _
  rw [share_exact]
  rfl

@[simp] theorem curve_zero (e : Easing) : e.curve 0 = 0 := by
  cases e <;> decide +kernel

@[simp] theorem curve_one (e : Easing) : e.curve 1 = 1 := by
  cases e <;> decide +kernel

/-- Each shape climbs between zero and one. -/
theorem curve_mono (e : Easing) {t u : Rat} (nonneg : 0 ≤ t) (le : t ≤ u) (most : u ≤ 1) :
    e.curve t ≤ e.curve u := by
  cases e with
  | linear => exact le
  | easeIn => exact mul_self_le_mul_self nonneg le
  | easeOut =>
    -- What is left to go shrinks, and so does its square.
    have left : (1 - u) * (1 - u) ≤ (1 - t) * (1 - t) :=
      mul_self_le_mul_self (sub_nonneg.2 most) (sub_le_sub_left le 1)
    exact sub_le_sub_left left 1
  | easeInOut =>
    -- The difference has the factor `u - t`; the other one is a sum of products of what has
    -- been gone and what is left.
    have factors : u * u * (3 - 2 * u) - t * t * (3 - 2 * t) =
        (u - t) * (2 * (u * (1 - u)) + 2 * (t * (1 - t)) + u * (1 - t) + t * (1 - u)) := by
      ring
    have gone : 0 ≤ u := nonneg.trans le
    have left : 0 ≤ 1 - u := sub_nonneg.2 most
    have before : 0 ≤ 1 - t := sub_nonneg.2 (le.trans most)
    have step : 0 ≤ u - t := sub_nonneg.2 le
    show t * t * (3 - 2 * t) ≤ u * u * (3 - 2 * u)
    rw [← sub_nonneg, factors]
    positivity

theorem path_zero (e : Easing) (a b : Rat) : e.path a b 0 = a := by
  rw [path, curve_zero, mul_zero, add_zero]

theorem path_one (e : Easing) (a b : Rat) : e.path a b 1 = b := by
  rw [path, curve_one, mul_one, add_sub_cancel]

/-- Whatever is blended by a shape moves onward. -/
theorem path_onward (e : Easing) (a b : Rat) {t u : Rat} (nonneg : 0 ≤ t) (le : t ≤ u)
    (most : u ≤ 1) : Onward a b (e.path a b t) (e.path a b u) := by
  have begun := e.curve_mono le_rfl nonneg (le.trans most)
  have ended := e.curve_mono (nonneg.trans le) most le_rfl
  rw [curve_zero] at begun
  rw [curve_one] at ended
  exact onward_of_shares begun (e.curve_mono nonneg le most) ended

end Easing

/-! ## §3. The stairs of a tempo ramp. -/

namespace Dynamics

section Stairs

variable {α : Type} [Scalar α]

/-- One stair: its tempo is queued at its tick. -/
def stair (s : Staircase α) (startTick ticksPerBeat : α) (beats step : Nat) (d : Dynamics α) :
    Except Fault (Dynamics α) := do
  let bpm ← stairTempo s.start s.target s.shape beats step
  d.setTempo bpm (← stairTick startTick ticksPerBeat step)

theorem climb_succ (s : Staircase α) (startTick ticksPerBeat : α) (beats step count : Nat)
    (d : Dynamics α) :
    climb s startTick ticksPerBeat beats step (count + 1) d =
      match stair s startTick ticksPerBeat beats step d with
      | .error f => (.error f, d)
      | .ok e => climb s startTick ticksPerBeat beats (step + 1) count e := rfl

/-- A staircase of one more stair is that stair after the others, if those are queued. -/
theorem climb_snoc {s : Staircase α} {startTick ticksPerBeat : α} {beats count step : Nat}
    {d below above : Dynamics α}
    (climbed : climb s startTick ticksPerBeat beats step count d = (.ok (), below))
    (last : stair s startTick ticksPerBeat beats (step + count) below = .ok above) :
    climb s startTick ticksPerBeat beats step (count + 1) d = (.ok (), above) := by
  -- The staircase is climbed from its first stair, so the induction is on what stands above it.
  induction count generalizing step d with
  | zero =>
    cases climbed
    rw [climb_succ, ← step.add_zero, last]
    rfl
  | succ count ih =>
    rw [climb_succ] at climbed ⊢
    cases first : stair s startTick ticksPerBeat beats step d with
    | error f =>
      rw [first] at climbed
      cases climbed
    | ok e =>
      rw [first] at climbed
      refine ih climbed ?_
      rw [Nat.add_right_comm, Nat.add_assoc]
      exact last

end Stairs

/-- The tempo after some of the stairs in a shape, over the rationals. -/
def Staircase.tempoAfter (s : Staircase Rat) (e : Easing) (beats k : Nat) : Rat :=
  e.path s.start s.target (k / beats)

namespace Staircase

/-- The tempos after the stairs move onward, from the start to the target. -/
theorem tempoAfter_onward (s : Staircase Rat) (e : Easing) {beats j k : Nat} (le : j ≤ k)
    (most : k ≤ beats) :
    Onward s.start s.target (s.tempoAfter e beats j) (s.tempoAfter e beats k) := by
  refine e.path_onward _ _ (by positivity) ?_ ?_
  · exact div_le_div_of_nonneg_right (by exact_mod_cast le) (Nat.cast_nonneg _)
  · exact div_le_one_of_le₀ (by exact_mod_cast most) (Nat.cast_nonneg _)

theorem tempoAfter_zero (s : Staircase Rat) (e : Easing) (beats : Nat) :
    s.tempoAfter e beats 0 = s.start := by
  rw [tempoAfter, Nat.cast_zero, zero_div, Easing.path_zero]

theorem tempoAfter_all (s : Staircase Rat) (e : Easing) {beats : Nat} (some_ : beats ≠ 0) :
    s.tempoAfter e beats beats = s.target := by
  rw [tempoAfter, div_self (by exact_mod_cast some_), Easing.path_one]

end Staircase

theorem stairTempo_exact {s : Staircase Rat} {e : Easing} (shape : s.shape = .named e)
    {beats : Nat} (some_ : beats ≠ 0) (step : Nat) :
    stairTempo s.start s.target s.shape beats step = .ok (s.tempoAfter e beats step) := by
  have divides : (Scalar.div (Scalar.count step) (Scalar.count (α := Rat) beats)) =
      .ok ((step : Rat) / beats) := by
    show (if ((beats : Int) : Rat) = 0 then _ else Except.ok (((step : Int) : Rat) / _)) = _
    rw [if_neg (by exact_mod_cast some_)]
    rfl
  unfold stairTempo
  rw [divides, shape]
  exact e.blend_exact _ _ _

/-- The microseconds of a beat at a tempo, over the rationals. -/
theorem microsecondsPerBeat_exact {bpm : Rat} (positive : 0 < bpm) :
    microsecondsPerBeat bpm = .ok (nearestInt (60000000 / bpm)) := by
  unfold microsecondsPerBeat
  show ((if bpm = 0 then _ else Except.ok (((60000000 : Nat) : Rat) / bpm)) >>= _) = _
  rw [if_neg positive.ne']
  show Except.ok (nearestInt (((60000000 : Nat) : Rat) / bpm * ((4 : Int) : Rat) /
    ((4 : Nat) : Rat))) = _
  have four : ((60000000 : Nat) : Rat) / bpm * ((4 : Int) : Rat) / ((4 : Nat) : Rat) =
      60000000 / bpm := by
    push_cast
    field_simp
  rw [four]

/-- A positive tempo is accepted. -/
theorem setTempo_exact (d : Dynamics Rat) {bpm : Rat} (positive : 0 < bpm) (tick : Rat) :
    d.setTempo bpm tick = .ok { d with
      bpm, tempoChanges := d.tempoChanges.push ⟨tick, nearestInt (60000000 / bpm)⟩ } := by
  unfold setTempo
  show (if decide (bpm ≤ ((0 : Int) : Rat)) = true then _ else _) = _
  rw [Int.cast_zero, decide_eq_false (not_le.2 positive), if_neg Bool.false_ne_true,
    microsecondsPerBeat_exact positive]
  rfl

/-- The tick of a stair, over the rationals; the stairs are numbered from one. -/
theorem stairTick_exact (startTick ticksPerBeat : Rat) (k : Nat) :
    stairTick startTick ticksPerBeat (k + 1) = .ok (startTick + k * ticksPerBeat) := by
  show Except.ok (startTick + (((k + 1 : Nat) - 1 : Int) : Rat) * ticksPerBeat) = _
  push_cast
  rw [add_sub_cancel_right]

section Climbed

variable {s : Staircase Rat} {e : Easing} {startTick ticksPerBeat : Rat} {beats : Nat}
  {d : Dynamics Rat}

/-- The tempo change of a stair, over the rationals; here they are numbered from zero. -/
def stairChange (s : Staircase Rat) (e : Easing) (startTick ticksPerBeat : Rat) (beats k : Nat) :
    TempoChange Rat :=
  ⟨startTick + k * ticksPerBeat, nearestInt (60000000 / s.tempoAfter e beats (k + 1))⟩

/-- The state after some stairs, over the rationals. -/
def climbed (s : Staircase Rat) (e : Easing) (startTick ticksPerBeat : Rat) (beats : Nat)
    (d : Dynamics Rat) (k : Nat) : Dynamics Rat :=
  { d with
    bpm := s.tempoAfter e beats k
    tempoChanges := d.tempoChanges ++
      ((List.range k).map (stairChange s e startTick ticksPerBeat beats)).toArray }

/-- One stair at a positive tempo goes well. -/
theorem stair_exact (shape : s.shape = .named e) {k : Nat} (some_ : beats ≠ 0)
    (positive : 0 < s.tempoAfter e beats (k + 1)) :
    stair s startTick ticksPerBeat beats (k + 1) (climbed s e startTick ticksPerBeat beats d k) =
      .ok (climbed s e startTick ticksPerBeat beats d (k + 1)) := by
  have queue : ((List.range (k + 1)).map (stairChange s e startTick ticksPerBeat beats)).toArray =
      ((List.range k).map (stairChange s e startTick ticksPerBeat beats)).toArray.push
        (stairChange s e startTick ticksPerBeat beats k) := by
    rw [List.range_succ, List.map_append, List.push_toArray]
    rfl
  unfold stair climbed
  rw [stairTempo_exact shape some_, stairTick_exact, queue, Array.append_push]
  exact setTempo_exact _ positive _

/-- All the stairs go well if their tempos are positive. -/
theorem climb_exact (shape : s.shape = .named e) (begins : d.bpm = s.start)
    (positive : ∀ k ≤ beats, 0 < s.tempoAfter e beats k) {k : Nat} (le : k ≤ beats) :
    climb s startTick ticksPerBeat beats 1 k d =
      (.ok (), climbed s e startTick ticksPerBeat beats d k) := by
  induction k with
  | zero =>
    unfold climb climbed
    rw [s.tempoAfter_zero, ← begins, List.range_zero, List.map_nil, Array.append_empty]
  | succ k ih =>
    refine climb_snoc (ih (Nat.le_of_succ_le le)) ?_
    rw [Nat.add_comm]
    exact stair_exact shape (Nat.ne_zero_of_lt le) (positive (k + 1) le)

end Climbed

/-- A tempo ramp by a positive factor over some beats is accepted. -/
theorem staircase_exact (d : Dynamics Rat) {factor beats : Rat} (positive : 0 < factor)
    (long : 0 < beats) (e : Easing) :
    d.staircase factor beats (.datum (.text e.name)) = .ok ⟨d.bpm, factor * d.bpm, .named e⟩ := by
  unfold staircase
  show (if decide (factor ≤ ((0 : Int) : Rat)) = true then _ else
    (if decide (beats ≤ ((0 : Int) : Rat)) = true then _ else _)) = _
  rw [Int.cast_zero, decide_eq_false (not_le.2 positive), if_neg Bool.false_ne_true,
    decide_eq_false (not_le.2 long), if_neg Bool.false_ne_true, Shape.chosen_name]
  rfl

end Dynamics

/-! ## §4. The values of a volume ramp. -/

namespace VolumeRamp

/-- How far a ramp has come at a tick. -/
def progress (r : VolumeRamp Rat) (tick : Rat) : Rat :=
  (tick - r.startTick) / (r.endTick - r.startTick)

/-- The value of a ramp in a shape, over the rationals. -/
def value (r : VolumeRamp Rat) (e : Easing) (tick : Rat) : Rat :=
  if r.endTick = r.startTick then r.endValue
  else e.path r.startValue r.endValue (r.progress tick)

variable {r : VolumeRamp Rat} {e : Easing}

theorem valueAt_exact (shape : r.shape = .named e) (tick : Rat) :
    r.valueAt tick = .ok (r.value e tick) := by
  unfold valueAt value
  by_cases same : r.endTick = r.startTick
  · rw [if_pos same]
    exact if_pos (beq_iff_eq.2 same)
  · rw [if_neg same]
    refine (if_neg (mt beq_iff_eq.1 same)).trans ?_
    show ((if r.endTick - r.startTick = 0 then _ else Except.ok (r.progress tick)) >>= _) = _
    rw [if_neg (sub_ne_zero.2 same), shape]
    exact e.blend_exact _ _ _

/-- At its end a ramp has its end value. -/
theorem value_end (r : VolumeRamp Rat) (e : Easing) : r.value e r.endTick = r.endValue := by
  unfold value progress
  split
  · rfl
  · next differ => rw [div_self (sub_ne_zero.2 differ), Easing.path_one]

/-- Where a ramp with a length begins, it has its start value. -/
theorem value_start (e : Easing) (long : r.startTick < r.endTick) :
    r.value e r.startTick = r.startValue := by
  unfold value progress
  rw [if_neg long.ne', sub_self, zero_div, Easing.path_zero]

/-- Within a ramp its values move onward. -/
theorem value_onward (e : Easing) {t u : Rat} (begun : r.startTick ≤ t) (le : t ≤ u)
    (most : u ≤ r.endTick) : Onward r.startValue r.endValue (r.value e t) (r.value e u) := by
  unfold value
  split
  · exact ⟨fun rises => ⟨rises, le_rfl, le_rfl⟩, fun falls => ⟨le_rfl, le_rfl, falls⟩⟩
  · have length : 0 ≤ r.endTick - r.startTick := sub_nonneg.2 ((begun.trans le).trans most)
    refine e.path_onward _ _ ?_ ?_ ?_
    · exact div_nonneg (sub_nonneg.2 begun) length
    · exact div_le_div_of_nonneg_right (sub_le_sub_right le _) length
    · exact div_le_one_of_le₀ (sub_le_sub_right most _) length

end VolumeRamp

/-! ## §5. Ramps. -/

/-- Over the exact rationals a tempo ramp from a positive tempo by a positive factor queues one
change for each beat, at the ticks of the beats.  No tempo on its way is refused: they are
positive, move onward from the tempo of before to the target, and the last is the target.  The
values of a volume ramp move onward in the same way, from its start value to its end value. -/
theorem ramps_onward :
    (∀ (d : Dynamics Rat) (factor startTick ticksPerBeat : Rat) (beats : Nat) (e : Easing),
      0 < d.bpm → 0 < factor → 0 < beats →
      ∃ (s : Dynamics.Staircase Rat) (d' : Dynamics Rat) (tempo : Nat → Rat),
        d.staircase factor beats (.datum (.text e.name)) = .ok s ∧
        Dynamics.climb s startTick ticksPerBeat beats 1 beats d = (.ok (), d') ∧
        d'.tempoChanges = d.tempoChanges ++ ((List.range beats).map fun k =>
          ⟨startTick + k * ticksPerBeat, nearestInt (60000000 / tempo (k + 1))⟩).toArray ∧
        (∀ k ≤ beats, (Dynamics.climb s startTick ticksPerBeat beats 1 k d).2.bpm = tempo k) ∧
        (∀ k ≤ beats, 0 < tempo k) ∧
        (∀ j k, j ≤ k → k ≤ beats → Onward d.bpm (factor * d.bpm) (tempo j) (tempo k)) ∧
        tempo 0 = d.bpm ∧ tempo beats = factor * d.bpm) ∧
    ∀ (r : VolumeRamp Rat) (e : Easing), r.shape = .named e → r.startTick ≤ r.endTick →
      ∃ value : Rat → Rat,
        (∀ tick, r.valueAt tick = .ok (value tick)) ∧
        (∀ t u, r.startTick ≤ t → t ≤ u → u ≤ r.endTick →
          Onward r.startValue r.endValue (value t) (value u)) ∧
        (r.startTick < r.endTick → value r.startTick = r.startValue) ∧
        value r.endTick = r.endValue := by
  constructor
  · intro d factor startTick ticksPerBeat beats e start positive some_
    have target : 0 < factor * d.bpm := mul_pos positive start
    let s : Dynamics.Staircase Rat := ⟨d.bpm, factor * d.bpm, .named e⟩
    have onward : ∀ j k, j ≤ k → k ≤ beats →
        Onward d.bpm (factor * d.bpm) (s.tempoAfter e beats j) (s.tempoAfter e beats k) :=
      fun _ _ => s.tempoAfter_onward e
    have tempos : ∀ k ≤ beats, 0 < s.tempoAfter e beats k :=
      fun k most => (onward k k le_rfl most).pos start target
    have climbs : ∀ k ≤ beats, Dynamics.climb s startTick ticksPerBeat beats 1 k d =
        (.ok (), Dynamics.climbed s e startTick ticksPerBeat beats d k) :=
      fun _ => Dynamics.climb_exact rfl rfl tempos
    have long : (0 : Rat) < beats := Nat.cast_pos.2 some_
    refine ⟨s, _, s.tempoAfter e beats, d.staircase_exact positive long e, climbs beats le_rfl,
      rfl, fun k most => ?_, tempos, onward, s.tempoAfter_zero e beats,
      s.tempoAfter_all e (Nat.ne_of_gt some_)⟩
    rw [climbs k most]
    rfl
  · intro r e shape forward
    exact ⟨r.value e, VolumeRamp.valueAt_exact shape, fun _ _ => VolumeRamp.value_onward e,
      VolumeRamp.value_start e, r.value_end e⟩

/-- A tempo ramp to half the tempo over four beats, and a crescendo over four. -/
theorem ramps_onward_four :
    (∃ (s : Dynamics.Staircase Rat) (d' : Dynamics Rat),
      Dynamics.staircase ⟨120, 120, 1, none, #[]⟩ (1 / 2) ((4 : Nat) : Rat)
        (.datum (.text "ease_in_out")) = .ok s ∧
      Dynamics.climb s 960 480 4 1 4 ⟨120, 120, 1, none, #[]⟩ = (.ok (), d') ∧
      d'.tempoChanges.size = 4 ∧ d'.bpm = 60) ∧
    ∃ value : Rat → Rat,
      (∀ tick, VolumeRamp.valueAt ⟨960, 1 / 2, 2880, 1, .named .easeOut⟩ tick =
        .ok (value tick)) ∧
      Onward (1 / 2) 1 (value 1440) (value 1920) ∧ value 960 = 1 / 2 ∧ value 2880 = 1 := by
  constructor
  · obtain ⟨s, d', tempo, accepted, climbs, queue, steps, -, -, -, last⟩ :=
      ramps_onward.1 ⟨120, 120, 1, none, #[]⟩ (1 / 2) 960 480 4 .easeInOut
        (by decide +kernel) (by decide +kernel) (by decide)
    have reached := steps 4 le_rfl
    rw [climbs, last] at reached
    refine ⟨s, d', accepted, climbs, ?_, reached.trans (by decide +kernel)⟩
    rw [queue]
    rfl
  · obtain ⟨value, exact_, onward, first, last⟩ :=
      ramps_onward.2 ⟨960, 1 / 2, 2880, 1, .named .easeOut⟩ .easeOut rfl (by decide +kernel)
    exact ⟨value, exact_, onward 1440 1920 (by decide +kernel) (by decide +kernel)
      (by decide +kernel), first (by decide +kernel), last⟩

end Plectrum
