/-
  Plectrum.Proofs.Clicks
  ──────────────────────
  **The clicks of a metronome come to an end, or have none.**

  Clicks are made as long as there is room for them, and clicks that end are the same in any
  more room.  Exact ticks go on by a beat each time, so they pass every place on the number
  line, but never its top.  A sum of doubles that is rounded back to where it began stays there
  for ever; otherwise it has moved on by half a beat at least.  So clicks for which the room
  that is taken is not enough would find no end in any room.

  Main results:
    * `Voice.clicks_more` — clicks that end are the same in more room;
    * `Binary64.rounded_moves` — a rounded sum is the double it began at, or half the way on;
    * `Voice.clicks_ok_iff` — clicks end in the room that is taken for them if they end at all;
    * `Voice.exact_ends_iff` — exact beats end unless they go up to the top.
-/
import Plectrum.Proofs.EqualVolumes

namespace Plectrum

/-! ## §1. Room for clicks. -/

namespace Voice

variable {last beat tick next off : Quantity} {most more : Nat}

theorem clicks_past (past : tick.lt last = false) (most : Nat) :
    clicks last beat most tick = .ok [] := by
  unfold clicks
  rw [past]
  rfl

theorem clicks_full (before : tick.lt last = true) : clicks last beat 0 tick = .error .endless := by
  unfold clicks
  rw [if_pos before]

theorem clicks_succ (before : tick.lt last = true) (most : Nat) :
    clicks last beat (most + 1) tick = (do
      let off ← tick.add clickTicks
      let next ← tick.add beat
      return click tick off ++ (← clicks last beat most next)) := by
  conv_lhs => unfold clicks
  rw [if_pos before]

theorem clicks_next (before : tick.lt last = true) (ends : tick.add clickTicks = .ok off)
    (goes : tick.add beat = .ok next) (most : Nat) :
    clicks last beat (most + 1) tick =
      clicks last beat most next >>= fun rest => .ok (click tick off ++ rest) := by
  rw [clicks_succ before, ends, goes]
  rfl

/-- Clicks that end are the same in more room. -/
theorem clicks_more (room : most ≤ more) (ends : clicks last beat most tick ≠ .error .endless) :
    clicks last beat more tick = clicks last beat most tick := by
  induction most generalizing more tick with
  | zero =>
    cases before : tick.lt last with
    | true => exact absurd (clicks_full before) ends
    | false => rw [clicks_past before, clicks_past before]
  | succ most ih =>
    obtain ⟨more, rfl⟩ := Nat.exists_eq_add_one_of_ne_zero (Nat.ne_zero_of_lt room)
    cases before : tick.lt last with
    | false => rw [clicks_past before, clicks_past before]
    | true =>
      rw [clicks_succ before] at ends
      rw [clicks_succ before, clicks_succ before]
      cases stops : tick.add clickTicks with
      | error f => rfl
      | ok off =>
        cases goes : tick.add beat with
        | error f => rfl
        | ok next =>
          rw [stops, goes] at ends
          have rest : clicks last beat most next ≠ .error .endless := by
            intro endless
            refine ends ?_
            show (clicks last beat most next >>= _) = _
            rw [endless]
            rfl
          show (clicks last beat more next >>= _) = (clicks last beat most next >>= _)
          rw [ih (Nat.le_of_succ_le_succ room) rest]

/-- Clicks that never end, whatever room there is for them. -/
def Endless (last beat tick : Quantity) : Prop :=
  ∀ most, clicks last beat most tick = .error .endless

/-- Clicks that end in some room, or never. -/
def Settled (last beat : Quantity) (room : Nat) (tick : Quantity) : Prop :=
  (∃ events, clicks last beat room tick = .ok events) ∨ Endless last beat tick

theorem settled_past (past : tick.lt last = false) (room : Nat) : Settled last beat room tick :=
  .inl ⟨[], clicks_past past room⟩

/-- Where the next clicks settle, one more does. -/
theorem settled_next (before : tick.lt last = true) (ends : tick.add clickTicks = .ok off)
    (goes : tick.add beat = .ok next) {room : Nat} (settled : Settled last beat room next) :
    Settled last beat (room + 1) tick := by
  rcases settled with ⟨rest, made⟩ | endless
  · refine .inl ⟨click tick off ++ rest, ?_⟩
    rw [clicks_next before ends goes, made]
    rfl
  · refine .inr fun most => ?_
    cases most with
    | zero => exact clicks_full before
    | succ most =>
      rw [clicks_next before ends goes, endless most]
      rfl

/-- Clicks that stay where they are never end. -/
theorem endless_stuck (before : tick.lt last = true) (ends : tick.add clickTicks = .ok off)
    (stays : tick.add beat = .ok tick) : Endless last beat tick := by
  intro most
  induction most with
  | zero => exact clicks_full before
  | succ most ih =>
    rw [clicks_next before ends stays, ih]
    rfl

end Voice

/-! ## §2. Exact beats. -/

namespace Quantity.StandsAt

variable {p q : Quantity} {r s : Rat}

theorem add (h : p.StandsAt r) (h' : q.StandsAt s) :
    ∃ sum, p.add q = .ok sum ∧ sum.StandsAt (r + s) := by
  rcases h with rfl | ⟨m, rfl, rfl⟩
  · rcases h' with rfl | ⟨n, rfl, rfl⟩
    · exact ⟨_, rfl, .inl rfl⟩
    · exact ⟨_, rfl, .inl rfl⟩
  · rcases h' with rfl | ⟨n, rfl, rfl⟩
    · exact ⟨_, rfl, .inl rfl⟩
    · exact ⟨_, rfl, .inr ⟨_, rfl, (Int.cast_add m n).symm⟩⟩

end Quantity.StandsAt

namespace Voice

variable {last beat tick : Quantity} {x b : Rat}

/-- An exact tick goes on by an exact beat. -/
theorem exact_next (stands : tick.StandsAt x) (even : beat.plain.StandsAt b) :
    (∃ off, tick.add clickTicks = .ok off) ∧
      ∃ next, tick.add beat = .ok next ∧ next.StandsAt (x + b) := by
  have one : clickTicks.StandsAt (1 : Rat) := .inr ⟨1, rfl, rfl⟩
  have plain : tick.add beat = tick.add beat.plain := by
    unfold Quantity.add
    cases beat <;> rfl
  obtain ⟨off, ends, -⟩ := stands.add one
  rw [plain]
  exact ⟨⟨off, ends⟩, stands.add even⟩

/-- Exact clicks end before a place, if there is room for the beats up to it. -/
theorem exact_ends {l : Rat} (ends : last.place? = some (.value l)) (even : beat.plain.StandsAt b)
    {room : Nat} (stands : tick.StandsAt x) (within : l ≤ x + room * b) :
    ∃ events, clicks last beat room tick = .ok events := by
  induction room generalizing tick x with
  | zero =>
    refine ⟨[], clicks_past ?_ 0⟩
    unfold Quantity.lt
    rw [stands.place, ends]
    refine decide_eq_false (not_lt.2 ?_)
    rwa [Nat.cast_zero, zero_mul, add_zero] at within
  | succ room ih =>
    cases before : tick.lt last with
    | false => exact ⟨[], clicks_past before _⟩
    | true =>
      obtain ⟨⟨off, stops⟩, next, goes, there⟩ := exact_next stands even
      obtain ⟨rest, made⟩ := ih there (by push_cast at within; linarith)
      refine ⟨click tick off ++ rest, ?_⟩
      rw [clicks_next before stops goes, made]
      rfl

/-- Up to the top of the number line they have no end. -/
theorem exact_endless (ends : last.place? = some .top) (even : beat.plain.StandsAt b)
    (stands : tick.StandsAt x) : Endless last beat tick := by
  intro most
  induction most generalizing tick x with
  | zero =>
    refine clicks_full ?_
    unfold Quantity.lt
    rw [stands.place, ends]
    rfl
  | succ most ih =>
    obtain ⟨⟨off, stops⟩, next, goes, there⟩ := exact_next stands even
    have before : tick.lt last = true := by
      unfold Quantity.lt
      rw [stands.place, ends]
      rfl
    rw [clicks_next before stops goes, ih there]
    rfl

end Voice

/-! ## §3. Rounded sums. -/

namespace Binary64

variable {m n t : Nat}

/-- Up to the next power of two, doubles are no farther apart. -/
theorem spacing_dvd_spacing (below : m < twoTo (n.log2 + 1)) : spacing m ∣ spacing n := by
  have logs : m.log2 ≤ n.log2 := by
    rcases Nat.eq_zero_or_pos m with rfl | pos
    · exact Nat.zero_le _
    · exact Nat.le_of_lt_succ ((Nat.log2_lt pos.ne').2 below)
  exact Nat.pow_dvd_pow 2 (by omega)

theorem spacing_dvd_power {e : Nat} (le : m.log2 ≤ e) : spacing m ∣ twoTo e :=
  Nat.pow_dvd_pow 2 (by omega)

/-- A double below a power of two stays away from it by half the distance at which doubles follow
the power, or by one unit. -/
theorem double_below_power {e : Nat} (double : spacing t ∣ t) (below : t < twoTo e) :
    t + twoTo (e - 53) ≤ twoTo e := by
  cases e with
  | zero => exact below
  | succ e =>
    have power : twoTo (e + 1) = 2 * twoTo e := Nat.pow_succ'
    -- Only from half the power on is the double a multiple of that distance.
    by_cases small : t < twoTo e
    · have step : twoTo (e + 1 - 53) ≤ twoTo e := Nat.pow_le_pow_right (by decide) (by omega)
      omega
    · have log : t.log2 = e :=
        (Nat.log2_eq_iff (by have := twoTo_pos e; omega)).2 ⟨Nat.not_lt.1 small, below⟩
      have step : spacing t = twoTo (e + 1 - 53) := congrArg (fun k => twoTo (k + 1 - 53)) log
      rw [step] at double
      have whole : twoTo (e + 1 - 53) ∣ twoTo (e + 1) := Nat.pow_dvd_pow 2 (by omega)
      have gap := Nat.le_of_dvd (Nat.sub_pos_of_lt below) (Nat.dvd_sub whole double)
      omega

/-- Rounding passes no multiple of the distance between doubles. -/
theorem le_roundedUnits (whole : spacing m ∣ t) (le : t ≤ m) : t ≤ roundedUnits m 1 := by
  obtain ⟨k, rfl⟩ := whole
  rw [roundedUnits_one, Nat.mul_comm]
  refine Nat.mul_le_mul_right _ (Nat.le_trans ?_ (div_le_nearestQuotient _ _))
  exact (Nat.le_div_iff_mul_le (spacing_pos m)).2 (Nat.mul_comm _ _ ▸ le)

/-- What is rounded is a multiple of the distance. -/
theorem spacing_dvd_roundedUnits (m : Nat) : spacing m ∣ roundedUnits m 1 := by
  rw [roundedUnits_one]
  exact Nat.dvd_mul_left _ _

/-- Rounding moves a number by half the distance at most. -/
theorem le_roundedUnits_add_half (m : Nat) : 2 * m ≤ 2 * roundedUnits m 1 + spacing m := by
  have near := (nearestQuotient_isNearest m (spacing_pos m)).high
  have above : (0 : Rat) < spacing m := Nat.cast_pos.2 (spacing_pos m)
  rw [← mul_div_assoc, div_le_iff₀ above] at near
  have scaled : 2 * m ≤ (2 * nearestQuotient m (spacing m) + 1) * spacing m := by
    exact_mod_cast near
  rw [roundedUnits_one]
  linarith

/-- What is rounded is a double. -/
theorem double_roundedUnits (m : Nat) : spacing (roundedUnits m 1) ∣ roundedUnits m 1 := by
  rcases Nat.eq_zero_or_pos m with rfl | pos
  · exact Nat.dvd_zero _
  · have below : m < twoTo (m.log2 + 1) := Nat.lt_log2_self
    have step : spacing m ∣ twoTo (m.log2 + 1) := spacing_dvd_power (Nat.le_succ _)
    have within : roundedUnits m 1 ≤ twoTo (m.log2 + 1) := by
      obtain ⟨k, power⟩ := step
      rw [Nat.mul_comm] at power
      rw [roundedUnits_one, power]
      exact Nat.mul_le_mul_right _ (nearestQuotient_le (power ▸ below.le))
    rcases Nat.lt_or_eq_of_le within with less | same
    · exact (spacing_dvd_spacing less).trans (spacing_dvd_roundedUnits m)
    · rw [same]
      exact spacing_dvd_power Nat.log2_two_pow.le

/-- A sum of a double and something more is rounded back to the double, or moves on by at least
half of what was added. -/
theorem rounded_moves {b : Nat} (double : spacing t ∣ t) (pos : 0 < b) :
    roundedUnits (t + b) 1 = t ∨ 2 * t + b ≤ 2 * roundedUnits (t + b) 1 := by
  have near := le_roundedUnits_add_half (t + b)
  have bounds : twoTo (t + b).log2 ≤ t + b := Nat.log2_self_le (by omega)
  have bounds' : t + b < twoTo ((t + b).log2 + 1) := Nat.lt_log2_self
  by_cases small : t < twoTo (t + b).log2
  · -- The power of two between them is passed, and `t` keeps its distance from the power.
    have passed := le_roundedUnits (spacing_dvd_power le_rfl) bounds
    have gap := double_below_power double small
    have half : spacing (t + b) ≤ 2 * twoTo ((t + b).log2 - 53) :=
      calc spacing (t + b) ≤ twoTo ((t + b).log2 - 53 + 1) :=
            Nat.pow_le_pow_right (by decide) (by omega)
        _ = 2 * twoTo ((t + b).log2 - 53) := Nat.pow_succ'
    omega
  · -- Both are multiples of the same distance.
    have whole : spacing (t + b) ∣ t := by
      have some_ : t ≠ 0 := ((twoTo_pos _).trans_le (Nat.not_lt.1 small)).ne'
      have log : (t + b).log2 = t.log2 := ((Nat.log2_eq_iff some_).2
        ⟨Nat.not_lt.1 small, (Nat.le_add_right t b).trans_lt bounds'⟩).symm
      unfold spacing at double ⊢
      rwa [log]
    rcases Nat.lt_or_eq_of_le (le_roundedUnits whole (Nat.le_add_right t b)) with less | same
    · have gap := Nat.le_of_dvd (Nat.sub_pos_of_lt less)
        (Nat.dvd_sub (spacing_dvd_roundedUnits (t + b)) whole)
      omega
    · exact .inl same.symm

theorem add_positive {b : Nat} (pos : 0 < b) :
    add (.finite false t) (.finite false b) = rounded false (t + b) 1 := by
  have some_ : ((t + b : Nat) : Int) ≠ 0 := by omega
  have forward : ¬ ((t + b : Nat) : Int) < 0 := by omega
  show (if ((t + b : Nat) : Int) = 0 then _
    else rounded (decide (((t + b : Nat) : Int) < 0)) ((t + b : Nat) : Int).natAbs 1) = _
  rw [if_neg some_, decide_eq_false forward]
  rfl

end Binary64

/-! ## §4. Beats that are doubles. -/

namespace Voice

open Binary64

/-- No tick is before an end if it has no place, or the topmost one. -/
theorem not_before {tick last : Quantity} (placed : tick.place? = none ∨ tick.place? = some .top) :
    tick.lt last = false := by
  unfold Quantity.lt
  rcases placed with nowhere | top
  · rw [nowhere]
  · rw [top]
    cases last.place? <;> rfl

theorem double_click_ends (x : Binary64) :
    ∃ off, (Quantity.float x).add clickTicks = .ok (.float off) := by
  have one : (Quantity.floatOfInt 1).toOption.isSome = true := by decide +kernel
  cases image : Quantity.floatOfInt 1 with
  | error f =>
    rw [image] at one
    cases one
  | ok y =>
    refine ⟨x.add y, ?_⟩
    simp only [clickTicks, Quantity.add, Quantity.plain, Quantity.onFloats, Quantity.toFloat, image]
    rfl

/-- A rounded number of units that is before an end is finite. -/
theorem finite_before {last : Quantity} {m : Nat}
    (before : (Quantity.float (rounded false m 1)).lt last = true) :
    rounded false m 1 = .finite false (roundedUnits m 1) ∧ roundedUnits m 1 < unitsLimit := by
  by_cases small : roundedUnits m 1 < unitsLimit
  · refine ⟨?_, small⟩
    unfold rounded
    exact if_pos small
  · have tick : rounded false m 1 = .infinite false := by
      unfold rounded
      exact if_neg small
    have top : (Quantity.float (.infinite false)).place? = some .top := by
      rw [Quantity.place?, if_neg Bool.false_ne_true]
    rw [tick, not_before (.inr top)] at before
    cases before

/-- Clicks at doubles stay where they are, or pass all doubles before the end.  A double is told by
the number `m` of units that it was rounded from, and the end by a number `l` that no double before
it reaches. -/
theorem settled_double {last : Quantity} {b m room : Nat} {l : Rat} (pos : 0 < b)
    (bound : ∀ t < unitsLimit, (Quantity.float (.finite false t)).lt last = true →
      (t : Rat) < l * unitsPerOne)
    (within : 2 * (l * unitsPerOne) ≤ 2 * roundedUnits m 1 + room * b) :
    Settled last (.float (.finite false b)) room (.float (rounded false m 1)) := by
  -- The tick and half a beat for each click that is left reach the end, and each click keeps that.
  induction room generalizing m with
  | zero =>
    cases before : (Quantity.float (rounded false m 1)).lt last with
    | false => exact settled_past before _
    | true =>
      obtain ⟨tick, small⟩ := finite_before before
      rw [tick] at before
      have short := bound _ small before
      rw [Nat.cast_zero, zero_mul, add_zero] at within
      linarith
  | succ room ih =>
    cases before : (Quantity.float (rounded false m 1)).lt last with
    | false => exact settled_past before _
    | true =>
      obtain ⟨tick, small⟩ := finite_before before
      obtain ⟨off, stops⟩ := double_click_ends (rounded false m 1)
      have goes : (Quantity.float (rounded false m 1)).add (.float (.finite false b)) =
          .ok (.float (rounded false (roundedUnits m 1 + b) 1)) := by
        rw [tick, ← add_positive pos]
        rfl
      rcases rounded_moves (double_roundedUnits m) pos with stays | moves
      · refine .inr (endless_stuck before stops ?_)
        rw [goes, tick]
        unfold rounded
        rw [stays, if_pos small]
      · refine settled_next before stops goes (ih ?_)
        have moves : 2 * (roundedUnits m 1 : Rat) + b ≤
            2 * roundedUnits (roundedUnits m 1 + b) 1 := by exact_mod_cast moves
        push_cast at within
        linarith

/-- There is room for all beats before a place. -/
theorem le_beats {l b : Rat} (positive : 0 < b) : l ≤ (l / b).ceil.toNat * b := by
  have above : l / b ≤ (l / b).ceil.toNat :=
    Rat.le_ceil.trans (Int.cast_le.2 (Int.self_le_toNat _))
  exact (div_le_iff₀ positive).1 above

/-- Zero goes on by a double. -/
theorem zero_next (x : Binary64) :
    (Quantity.whole 0).add (.float x) = .ok (.float (Binary64.zero.add x)) := by
  have zero : Quantity.floatOfInt 0 = .ok .zero := by
    unfold Quantity.floatOfInt ofInt
    rw [Int.natAbs_zero, Nat.zero_mul, rounded_zero]
    rfl
  simp only [Quantity.add, Quantity.plain, Quantity.onFloats, Quantity.toFloat, zero]
  rfl

theorem settled_float {last : Quantity} {b : Nat} {l : Rat} (pos : 0 < b)
    (bound : ∀ t < unitsLimit, (Quantity.float (.finite false t)).lt last = true →
      (t : Rat) < l * unitsPerOne) :
    Settled last (.float (.finite false b)) (2 * (l / mkRat b unitsPerOne).ceil.toNat + 2)
      (.whole 0) := by
  have goes : (Quantity.whole 0).add (.float (.finite false b)) =
      .ok (.float (rounded false b 1)) := by
    rw [zero_next, zero, add_positive pos, Nat.zero_add]
  cases before : (Quantity.whole 0).lt last with
  | false => exact settled_past before _
  | true =>
    refine settled_next before rfl goes (settled_double pos bound ?_)
    have one : (0 : Rat) < unitsPerOne := Nat.cast_pos.2 unitsPerOne_pos
    have beat : mkRat b unitsPerOne * unitsPerOne = (b : Rat) := by
      rw [Rat.mkRat_eq_div, div_mul_cancel₀ _ one.ne']
      rfl
    have positive : 0 < mkRat b unitsPerOne := by
      rw [Rat.mkRat_pos_iff _ unitsPerOne_pos.ne']
      exact_mod_cast pos
    have beats := mul_le_mul_of_nonneg_right (le_beats (l := l) positive) one.le
    rw [mul_assoc, beat] at beats
    -- The first tick is at least half a beat after zero.
    have first : (b : Rat) ≤ 2 * roundedUnits b 1 := by
      rcases rounded_moves (Nat.dvd_zero (spacing 0)) pos with stays | moves
      · rw [Nat.zero_add] at stays
        exact absurd stays (roundedUnits_pos pos).ne'
      · rw [Nat.zero_add] at moves
        exact_mod_cast moves
    push_cast
    linarith

/-- What comes after zero is a place, or the top. -/
theorem place_of_pos {last : Quantity} (before : (Quantity.whole 0).lt last = true) :
    (∃ l, last.place? = some (.value l)) ∨ last.place? = some .top := by
  unfold Quantity.lt at before
  cases place : last.place? with
  | none =>
    rw [place] at before
    cases before
  | some p =>
    cases p with
    | bottom =>
      rw [place] at before
      cases before
    | value l => exact .inl ⟨l, rfl⟩
    | top => exact .inr rfl

/-- There is room for the clicks of exact beats up to a place. -/
theorem clicks_value {last beat : Quantity} {l b : Rat} (ends : last.place? = some (.value l))
    (positive : beat.le (.whole 0) = false) (even : beat.plain.StandsAt b) :
    ∃ events, clicks last beat (clickLimit last beat) (.whole 0) = .ok events := by
  have place : beat.place? = some (.value b) := by
    rw [← even.place]
    cases beat <;> rfl
  have above : 0 < b := by
    unfold Quantity.le at positive
    rw [place] at positive
    exact_mod_cast of_decide_eq_true (Bool.not_eq_false' _ ▸ positive)
  refine exact_ends ends even (.inr ⟨0, rfl, rfl⟩) ?_
  have beats := le_beats (l := l) above
  have forward : (0 : Rat) ≤ (l / b).ceil.toNat * b := by positivity
  unfold clickLimit
  rw [ends, place]
  dsimp only
  rw [if_pos above]
  push_cast
  linarith

/-- Exact beats end if and only if they do not go up to the top. -/
theorem exact_ends_iff {last beat : Quantity} {b : Rat} (positive : beat.le (.whole 0) = false)
    (even : beat.plain.StandsAt b) :
    (∃ most events, clicks last beat most (.whole 0) = .ok events) ↔ last.place? ≠ some .top := by
  constructor
  · rintro ⟨most, events, made⟩ top
    cases made.symm.trans (exact_endless top even (.inr ⟨0, rfl, rfl⟩) most)
  · intro below
    cases before : (Quantity.whole 0).lt last with
    | false => exact ⟨0, [], clicks_past before 0⟩
    | true =>
      rcases place_of_pos before with ⟨l, ends⟩ | top
      · exact ⟨_, clicks_value ends positive even⟩
      · exact absurd top below

theorem settled_exact {last beat : Quantity} {b : Rat} (before : (Quantity.whole 0).lt last = true)
    (positive : beat.le (.whole 0) = false) (even : beat.plain.StandsAt b) :
    Settled last beat (clickLimit last beat) (.whole 0) := by
  rcases place_of_pos before with ⟨l, ends⟩ | ends
  · exact .inl (clicks_value ends positive even)
  · exact .inr (exact_endless ends even (.inr ⟨0, rfl, rfl⟩))

/-- The room for beats that are doubles is that up to a number which no double before the end
reaches: the end itself, or the end of the doubles. -/
theorem exists_clickLimit {last : Quantity} {b : Nat} (before : (Quantity.whole 0).lt last = true)
    (pos : 0 < b) :
    ∃ l : Rat, clickLimit last (.float (.finite false b)) =
        2 * (l / mkRat b unitsPerOne).ceil.toNat + 2 ∧
      ∀ t < unitsLimit, (Quantity.float (.finite false t)).lt last = true →
        (t : Rat) < l * unitsPerOne := by
  have one : (0 : Rat) < unitsPerOne := Nat.cast_pos.2 unitsPerOne_pos
  have positive : 0 < mkRat (signedUnits false b) unitsPerOne :=
    (Rat.mkRat_pos_iff _ unitsPerOne_pos.ne').2 (Int.natCast_pos.2 pos)
  unfold clickLimit
  rw [Quantity.place_finite]
  rcases place_of_pos before with ⟨l, ends⟩ | ends
  · rw [ends]
    refine ⟨l, if_pos positive, fun t _ early => ?_⟩
    unfold Quantity.lt at early
    rw [Quantity.place_finite, ends] at early
    simp only [Quantity.Place.lt, decide_eq_true_eq, Rat.mkRat_eq_div] at early
    exact (div_lt_iff₀ one).1 early
  · rw [ends]
    refine ⟨twoTo 1024, if_pos positive, fun t small _ => ?_⟩
    have limit : unitsLimit = twoTo 1024 * unitsPerOne := by
      rw [unitsLimit, unitsPerOne, ← twoTo_add]
    rw [limit] at small
    exact_mod_cast small

/-- Clicks from zero on end in the room that is taken for them, or never. -/
theorem clicks_settled {beat : Quantity} (positive : beat.le (.whole 0) = false)
    (last : Quantity) : Settled last beat (clickLimit last beat) (.whole 0) := by
  cases before : (Quantity.whole 0).lt last with
  | false => exact settled_past before _
  | true =>
    cases beat with
    | whole n => exact settled_exact before positive (.inr ⟨n, rfl, rfl⟩)
    | truth b => exact settled_exact before positive (.inr ⟨Quantity.ofTruth b, rfl, rfl⟩)
    | ratio q => exact settled_exact before positive (.inl rfl)
    | float x =>
      cases x with
      | nan =>
        have room : clickLimit last (.float .nan) = 0 + 1 := by
          unfold clickLimit
          cases last.place? <;> rfl
        rw [room]
        exact settled_next before rfl (zero_next _) (settled_past (not_before (.inl rfl)) 0)
      | infinite negative =>
        cases negative with
        | true => cases positive
        | false =>
          have room : clickLimit last (.float (.infinite false)) = 0 + 1 := by
            unfold clickLimit
            cases last.place? <;> rfl
          rw [room]
          exact settled_next before rfl (zero_next _) (settled_past (not_before (.inr rfl)) 0)
      | finite negative units =>
        have above : 0 < signedUnits negative units := by
          unfold Quantity.le at positive
          rw [Quantity.place_finite] at positive
          exact (Rat.mkRat_pos_iff _ unitsPerOne_pos.ne').1
            (of_decide_eq_true (Bool.not_eq_false' _ ▸ positive))
        cases negative with
        | true =>
          have below : signedUnits true units = -(units : Int) := rfl
          omega
        | false =>
          have pos : 0 < units := Int.natCast_pos.1 above
          obtain ⟨l, room, bound⟩ := exists_clickLimit before pos
          rw [room]
          exact settled_float pos bound

/-- Clicks end in the room that is taken for them if they end in any room. -/
theorem clicks_ok_iff {last beat : Quantity} (positive : beat.le (.whole 0) = false)
    {events : List Event} :
    clicks last beat (clickLimit last beat) (.whole 0) = .ok events ↔
      ∃ most, clicks last beat most (.whole 0) = .ok events := by
  refine ⟨fun made => ⟨_, made⟩, fun ⟨most, made⟩ => ?_⟩
  rcases clicks_settled positive last with ⟨events', made'⟩ | endless
  · rcases Nat.le_total most (clickLimit last beat) with room | room
    · rw [clicks_more room (by rw [made]; exact nofun), made]
    · rw [← clicks_more room (by rw [made']; exact nofun), made]
  · cases made.symm.trans (endless most)

/-- Otherwise they have no end. -/
theorem clicks_endless_iff {last beat : Quantity} (positive : beat.le (.whole 0) = false) :
    clicks last beat (clickLimit last beat) (.whole 0) = .error .endless ↔
      Endless last beat (.whole 0) := by
  refine ⟨fun full => ?_, fun endless => endless _⟩
  rcases clicks_settled positive last with ⟨events, made⟩ | endless
  · cases made.symm.trans full
  · exact endless

end Voice
end Plectrum
