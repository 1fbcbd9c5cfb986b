/-
  Plectrum.Proofs.Straying
  ────────────────────────
  **A velocity does not stray down to silence.**

  A velocity strays only if it is greater than the spread, and the spread is at most
  six.  The sum is computed in doubles, so the exact sum being positive is not enough:
  the velocity is rounded first, and then the sum.  Up to seven a velocity is its own
  double, from there on its double is far above six, and rounding keeps a positive sum
  positive.
-/
import Mathlib.Algebra.Order.Field.Rat
import Mathlib.Tactic.Linarith
import Mathlib.Tactic.Positivity
import Plectrum.Proofs.Onsets

namespace Plectrum

namespace Binary64

/-! ## §1. Rounding a count of units. -/

theorem spacing_pos (m : Nat) : 0 < spacing m := twoTo_pos _

/-- The distance between doubles is at most a `2^52`-th of the number, or one unit. -/
theorem spacing_le {m : Nat} (pos : 0 < m) : spacing m ≤ m := by
  unfold spacing twoTo
  have top : 2 ^ m.log2 ≤ m := (Nat.le_log2 (by omega)).1 (Nat.le_refl _)
  have step : 2 ^ (m.log2 + 1 - 53) ≤ 2 ^ m.log2 := Nat.pow_le_pow_right (by decide) (by omega)
  exact Nat.le_trans step top

/-- A number of at least five bits is eight times the distance between doubles around it. -/
theorem eight_mul_spacing_le {m : Nat} (large : 8 ≤ m) : 8 * spacing m ≤ m := by
  have log : 3 ≤ m.log2 := (Nat.le_log2 (by omega)).2 (by omega)
  have top : 2 ^ m.log2 ≤ m := (Nat.le_log2 (by omega)).1 (Nat.le_refl _)
  have step : 2 ^ (m.log2 + 1 - 53) ≤ 2 ^ (m.log2 - 3) :=
    Nat.pow_le_pow_right (by decide) (by omega)
  have whole : 2 ^ m.log2 = 2 ^ (m.log2 - 3) * 8 := by
    rw [show 8 = 2 ^ 3 from rfl, ← Nat.pow_add, Nat.sub_add_cancel log]
  unfold spacing twoTo
  show 8 * 2 ^ (m.log2 + 1 - 53) ≤ m
  omega

theorem roundedUnits_one (m : Nat) :
    roundedUnits m 1 = nearestQuotient m (spacing m) * spacing m := by
  unfold roundedUnits
  dsimp only
  rw [Nat.div_one, Nat.one_mul]

/-- Rounding loses less than the distance between doubles. -/
theorem lt_roundedUnits_add_spacing (m : Nat) : m < roundedUnits m 1 + spacing m := by
  rw [roundedUnits_one]
  have floor := div_le_nearestQuotient m (spacing m)
  have whole : m < (m / spacing m + 1) * spacing m :=
    (Nat.div_lt_iff_lt_mul (spacing_pos m)).1 (Nat.lt_succ_self _)
  calc m < (m / spacing m + 1) * spacing m := whole
    _ ≤ (nearestQuotient m (spacing m) + 1) * spacing m :=
      Nat.mul_le_mul_right _ (Nat.succ_le_succ floor)
    _ = nearestQuotient m (spacing m) * spacing m + spacing m := Nat.succ_mul _ _

/-- What is positive stays positive when it is rounded. -/
theorem roundedUnits_pos {m : Nat} (pos : 0 < m) : 0 < roundedUnits m 1 := by
  rw [roundedUnits_one]
  have step := spacing_pos m
  have quotient : 1 ≤ m / spacing m := (Nat.one_le_div_iff step).2 (spacing_le pos)
  exact Nat.mul_pos (Nat.lt_of_lt_of_le quotient (div_le_nearestQuotient _ _)) step

/-- A multiple of the distance between doubles is a double. -/
theorem roundedUnits_of_dvd {m : Nat} (whole : spacing m ∣ m) : roundedUnits m 1 = m := by
  rw [roundedUnits_one]
  unfold nearestQuotient
  rw [Nat.mod_eq_zero_of_dvd whole, if_pos (spacing_pos m)]
  exact Nat.div_mul_cancel whole

/-- Small whole numbers are doubles, in whatever units one is counted. -/
theorem roundedUnits_small {n : Nat} (e : Nat) (small : n < 8) :
    roundedUnits (n * twoTo e) 1 = n * twoTo e := by
  refine roundedUnits_of_dvd ?_
  refine Dvd.dvd.mul_left ?_ n
  unfold spacing twoTo
  refine Nat.pow_dvd_pow 2 ?_
  by_cases zero : n * 2 ^ e = 0
  · rw [show n * Nat.pow 2 e = 0 from zero]
    have log : Nat.log2 0 = 0 := rfl
    omega
  · have bound : n * 2 ^ e < 2 ^ (3 + e) := by
      rw [Nat.pow_add]
      exact Nat.mul_lt_mul_of_pos_right small (Nat.pow_pos (by decide))
    have log : (n * 2 ^ e).log2 < 3 + e := (Nat.log2_lt zero).2 bound
    show (n * 2 ^ e).log2 + 1 - 53 ≤ e
    omega

/-- The double of a whole number is as large as the number up to seven, and
greater than six from there on. -/
theorem roundedUnits_whole (n : Nat) {one e : Nat} (power : one = twoTo e) :
    roundedUnits (n * one) 1 = n * one ∨ 6 * one < roundedUnits (n * one) 1 := by
  subst power
  by_cases small : n < 8
  · exact .inl (roundedUnits_small e small)
  · have one := twoTo_pos e
    have size : 8 * twoTo e ≤ n * twoTo e := Nat.mul_le_mul_right _ (by omega)
    have large : 8 ≤ n * twoTo e := by omega
    have gap := eight_mul_spacing_le large
    have lost := lt_roundedUnits_add_spacing (n * twoTo e)
    right
    omega

/-! ## §2. Sums that stay positive. -/

theorem unitsPerOne_pos : 0 < unitsPerOne := twoTo_pos _

theorem rounded_pos {m : Nat} (pos : 0 < m) :
    (Quantity.float (rounded false m 1)).le (.whole 0) = false := by
  unfold rounded
  dsimp only
  split
  · have units : (0 : Int) < roundedUnits m 1 := Int.natCast_pos.2 (roundedUnits_pos pos)
    show (!decide ((0 : Rat) < mkRat (roundedUnits m 1) unitsPerOne)) = false
    rw [Bool.not_eq_false', decide_eq_true_eq, Rat.mkRat_pos_iff _ unitsPerOne_pos.ne']
    exact units
  · rfl

/-- A sum of counts with a positive total is a positive double. -/
theorem add_pos {a : Nat} {negative : Bool} {b : Nat}
    (pos : 0 < (a : Int) + signedUnits negative b) :
    (Quantity.float (add (.finite false a) (.finite negative b))).le (.whole 0) = false := by
  have total : add (.finite false a) (.finite negative b) =
      rounded false ((a : Int) + signedUnits negative b).natAbs 1 := by
    show (if (a : Int) + signedUnits negative b = 0 then _
      else rounded (decide ((a : Int) + signedUnits negative b < 0)) _ 1) = _
    rw [if_neg pos.ne', decide_eq_false (Int.not_lt.2 pos.le)]
    rfl
  rw [total]
  exact rounded_pos (Int.natAbs_pos.2 pos.ne')

/-- A whole number against a count of units. -/
theorem lt_mkRat_units {k s : Int} : (k : Rat) < mkRat s unitsPerOne ↔ k * unitsPerOne < s := by
  have pos : (0 : Rat) < unitsPerOne := Nat.cast_pos.2 unitsPerOne_pos
  rw [Rat.mkRat_eq_div, lt_div_iff₀ pos]
  exact_mod_cast Iff.rfl

theorem le_mkRat_units {k s : Int} : (k : Rat) ≤ mkRat s unitsPerOne ↔ k * unitsPerOne ≤ s := by
  have pos : (0 : Rat) < unitsPerOne := Nat.cast_pos.2 unitsPerOne_pos
  rw [Rat.mkRat_eq_div, le_div_iff₀ pos]
  exact_mod_cast Iff.rfl

end Binary64

/-! ## §3. Velocities that stray. -/

/-- A draw within a bound, both ends included. -/
def Within (bound : Quantity) (x : Binary64) : Prop :=
  ∃ b r, bound.place? = some (.value b) ∧ (Quantity.float x).place? = some (.value r) ∧
    -b ≤ r ∧ r ≤ b

theorem Quantity.place_finite (negative : Bool) (units : Nat) :
    (Quantity.float (.finite negative units)).place? =
      some (.value (mkRat (Binary64.signedUnits negative units) Binary64.unitsPerOne)) := by
  rw [place?]

/-- The double of a positive whole number, if there is one: the number itself, or a number
greater than six. -/
theorem Quantity.floatOfInt_pos {n : Int} (pos : 0 < n) {x : Binary64}
    (image : floatOfInt n = .ok x) :
    ∃ a : Nat, x = .finite false a ∧
      (n * Binary64.unitsPerOne = a ∨ 6 * (Binary64.unitsPerOne : Int) < a) := by
  unfold floatOfInt Binary64.ofInt Binary64.rounded at image
  rw [decide_eq_false (Int.not_lt.2 pos.le)] at image
  dsimp only at image
  split at image
  · cases image
    refine ⟨_, rfl, ?_⟩
    have power : Binary64.unitsPerOne = twoTo 1074 := by rw [Binary64.unitsPerOne]
    obtain same | large := Binary64.roundedUnits_whole n.natAbs power
    · left
      rw [same, Int.natCast_mul, Int.natAbs_of_nonneg pos.le]
    · right
      exact_mod_cast large
  · cases image

theorem Quantity.onFloats_ok {op : Binary64 → Binary64 → Binary64} {a b c : Quantity}
    (result : onFloats op a b = .ok c) :
    ∃ x y, a.toFloat = .ok x ∧ b.toFloat = .ok y ∧ c = .float (op x y) := by
  unfold onFloats at result
  cases first : a.toFloat with
  | error f =>
    rw [first] at result
    cases result
  | ok x =>
    cases second : b.toFloat with
    | error f =>
      rw [first, second] at result
      cases result
    | ok y =>
      rw [first, second] at result
      cases result
      exact ⟨x, y, rfl, rfl, rfl⟩

/-- A velocity that strays by more than minus itself, and by no more than six, stays
positive. -/
theorem Quantity.add_float_pos {n : Int} (pos : 0 < n) {x : Binary64} {r : Rat}
    (place : (Quantity.float x).place? = some (.value r)) (above : -(n : Rat) < r) (near : -6 ≤ r)
    {force : Quantity} (sum : (Quantity.whole n).add (.float x) = .ok force) :
    force.le (.whole 0) = false := by
  cases x with
  | nan => cases place
  | infinite negative => cases negative <;> cases place
  | finite negative units =>
    rw [place_finite] at place
    have value := Place.value.inj (Option.some.inj place)
    rw [← value] at above near
    have above' : -n * Binary64.unitsPerOne < Binary64.signedUnits negative units := by
      rw [← Binary64.lt_mkRat_units]
      exact_mod_cast above
    have near' : -6 * (Binary64.unitsPerOne : Int) ≤ Binary64.signedUnits negative units := by
      rw [← Binary64.le_mkRat_units]
      exact_mod_cast near
    simp only [add, plain] at sum
    obtain ⟨y, z, image, same, rfl⟩ := onFloats_ok sum
    cases same
    rw [toFloat] at image
    obtain ⟨a, rfl, size⟩ := floatOfInt_pos pos image
    refine Binary64.add_pos ?_
    obtain same | large := size
    · rw [← same]
      linarith
    · linarith

/-- A stray of the spread, and the spread itself, as numbers. -/
theorem Strays.within {γ : Type} [ChanceSource γ] {spread : Quantity} {x : Binary64}
    (fair : ∀ y, Drawn γ spread y → Within spread y) (strays : Strays γ spread x) :
    Within spread x := by
  unfold Strays at strays
  split at strays
  · next still =>
    subst strays
    unfold Quantity.isZero Quantity.same at still
    cases place : spread.place? with
    | none =>
      rw [place] at still
      cases still
    | some b =>
      rw [place] at still
      have zero : b = .value 0 := by simpa [Quantity.place?] using still
      refine ⟨0, 0, by rw [place, zero], ?_, by simp, le_refl _⟩
      show some (Quantity.Place.value (mkRat 0 _)) = _
      rw [Rat.zero_mkRat]
  · exact fair x strays

/-- A velocity that is positive as written keeps a positive force, whatever is drawn within
an accepted spread. -/
theorem strayed_pos {spread : Quantity} {x : Binary64} {velocity : Int} {force : Quantity}
    (accepted : Config.between (.whole 0) Config.maxVolumeSpread spread = true)
    (within : Within spread x) (positive : 0 < velocity)
    (strayed : Play.strayed spread velocity x = .ok force) : force.le (.whole 0) = false := by
  obtain ⟨b, r, bound, place, above, -⟩ := within
  unfold Play.strayed at strayed
  split at strayed
  · next beyond =>
    have far : b < velocity := by
      unfold Quantity.lt at beyond
      rw [bound] at beyond
      exact of_decide_eq_true beyond
    have six : b ≤ 6 := by
      unfold Config.between Config.maxVolumeSpread Quantity.le at accepted
      rw [bound] at accepted
      have high := (Bool.and_eq_true_iff.1 accepted).2
      change (!decide ((6 : Int) < b)) = true at high
      rw [Bool.not_eq_true', decide_eq_false_iff_not, not_lt] at high
      exact_mod_cast high
    refine Quantity.add_float_pos positive place ?_ ?_ strayed
    · linarith
    · linarith
  · cases strayed
    rw [Quantity.le_whole]
    exact decide_eq_false (Int.not_le.2 positive)

end Plectrum
