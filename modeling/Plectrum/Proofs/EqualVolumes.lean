/-
  Plectrum.Proofs.EqualVolumes
  ────────────────────────────
  **Equal volumes sound alike, whatever kinds of numbers they are.**

  One and a volume of the same value may be a whole number, a fraction or a double.  A force that is
  a double is scaled by the double nearest to the volume, and that is the same one for numbers of
  one value: but for the sign of a zero, which is lost when a velocity is rounded.

  Main result:
    * `Play.scaledVelocity_same` — scaled by equal volumes, a force has one velocity or none.
-/
import Plectrum.Proofs.NearestTicks
import Plectrum.Proofs.Tempos

namespace Plectrum

/-! ## §1. The double of a number. -/

/-- A quotient is rounded by what it is, not by how it is written. -/
theorem nearestQuotient_scale (n : Nat) {d k : Nat} (positive : 0 < d) (scaled : 0 < k) :
    nearestQuotient (n * k) (d * k) = nearestQuotient n d := by
  have near := nearestQuotient_isNearest (n * k) (Nat.mul_pos positive scaled)
  have same : (((n * k : Nat) : Int) : Rat) / ((d * k : Nat) : Rat) = ((n : Int) : Rat) / d := by
    push_cast
    exact mul_div_mul_right _ _ (Nat.cast_ne_zero.2 scaled.ne')
  rw [same] at near
  exact_mod_cast near.unique (nearestQuotient_isNearest n positive)

theorem nearestQuotient_zero (d : Nat) : nearestQuotient 0 d = 0 := by
  unfold nearestQuotient
  simp

namespace Binary64

/-- Doubles that differ in the sign of a zero at most. -/
def Same (x y : Binary64) : Prop := x = y ∨ x.isZero = true ∧ y.isZero = true

namespace Same

variable {x y z : Binary64}

theorem symm (h : x.Same y) : y.Same x := h.imp Eq.symm And.symm

theorem trans (h : x.Same y) (h' : y.Same z) : x.Same z := by
  rcases h with rfl | ⟨zero, zero'⟩
  · exact h'
  · rcases h' with rfl | ⟨-, zero''⟩
    · exact .inr ⟨zero, zero'⟩
    · exact .inr ⟨zero, zero''⟩

end Same

/-- A number of units that there is a double for. -/
def IsExact (units : Nat) : Prop := roundedUnits units 1 = units ∧ units < unitsLimit

instance (units : Nat) : Decidable (IsExact units) := inferInstanceAs (Decidable (_ ∧ _))

/-- A double that is written as a quotient is that double. -/
theorem rounded_exact {units d : Nat} (exact_ : IsExact units) (positive : 0 < d) (s : Bool) :
    rounded s (units * d) d = .finite s units := by
  have whole : roundedUnits (units * d) d = units := by
    obtain ⟨same, -⟩ := exact_
    unfold roundedUnits at same ⊢
    dsimp only at same ⊢
    rw [Nat.div_one] at same
    have step : 0 < spacing units := twoTo_pos _
    rw [Nat.mul_div_cancel units positive, Nat.mul_comm d,
      nearestQuotient_scale units step positive]
    rwa [Nat.one_mul] at same
  unfold rounded
  rw [whole]
  exact if_pos exact_.2

/-- A zero is rounded to a zero. -/
theorem rounded_zero (s : Bool) (d : Nat) : rounded s 0 d = .finite s 0 := by
  have none_ : roundedUnits 0 d = 0 := by
    unfold roundedUnits
    dsimp only
    rw [nearestQuotient_zero, Nat.zero_mul]
  unfold rounded
  rw [none_]
  exact if_pos (twoTo_pos 2098)

/-- A product with a zero is rounded to nothing, whatever the sign of the zero is. -/
theorem nearest_mul_same (x : Binary64) {y z : Binary64} (same : y.Same z) :
    Quantity.nearestOfFloat (x.mul y) = Quantity.nearestOfFloat (x.mul z) := by
  rcases same with rfl | ⟨zero, zero'⟩
  · rfl
  have product : ∀ s a, ∀ y : Binary64, y.isZero = true →
      Quantity.nearestOfFloat ((finite s a).mul y) = .ok 0 := by
    intro s a y zero
    cases y with
    | finite t units =>
      obtain rfl : units = 0 := eq_of_beq zero
      show Quantity.nearestOfFloat (rounded (s != t) (a * 0) unitsPerOne) = .ok 0
      rw [Nat.mul_zero, rounded_zero]
      show Except.ok (if (s != t) = true then -(nearestQuotient 0 unitsPerOne : Int)
        else nearestQuotient 0 unitsPerOne) = _
      rw [nearestQuotient_zero]
      exact congrArg Except.ok (ite_self _)
    | infinite t => cases zero
    | nan => cases zero
  -- Beyond all doubles, a product with zero has no place.
  have nowhere : ∀ s, ∀ y : Binary64, y.isZero = true →
      Quantity.nearestOfFloat ((infinite s).mul y) = .error .nanToInteger := by
    intro s y zero
    cases y with
    | finite t units =>
      obtain rfl : units = 0 := eq_of_beq zero
      rfl
    | infinite t => cases zero
    | nan => cases zero
  cases x with
  | finite s a => rw [product s a y zero, product s a z zero']
  | infinite s => rw [nowhere s y zero, nowhere s z zero']
  | nan => rfl

/-- A double is the one nearest to its value. -/
theorem same_ofRat {s : Bool} {units : Nat} {r : Rat} (exact_ : IsExact units)
    (value : mkRat (signedUnits s units) unitsPerOne = r) :
    (finite s units).Same (ofRat r) := by
  have crossed : signedUnits s units * r.den = r.num * unitsPerOne :=
    (Rat.mkRat_eq_iff unitsPerOne_pos.ne' r.den_nz).1 (value.trans (Rat.mkRat_self r).symm)
  have size : r.num.natAbs * unitsPerOne = units * r.den := by
    have sizes := congrArg Int.natAbs crossed
    rw [Int.natAbs_mul, Int.natAbs_mul, Int.natAbs_natCast, Int.natAbs_natCast] at sizes
    have unsigned : (signedUnits s units).natAbs = units := by
      unfold signedUnits
      split <;> omega
    rw [unsigned] at sizes
    exact sizes.symm
  unfold ofRat
  rw [size, rounded_exact exact_ r.den_pos]
  by_cases zero : units = 0
  · exact .inr ⟨beq_iff_eq.2 zero, beq_iff_eq.2 zero⟩
  · refine .inl (congrArg (finite · units) ?_)
    -- What is not zero has the sign of its numerator.
    have above : (0 : Int) < unitsPerOne := Int.natCast_pos.2 unitsPerOne_pos
    have below : (0 : Int) < r.den := Int.natCast_pos.2 r.den_pos
    have signs : 0 ≤ signedUnits s units ↔ 0 ≤ r.num := by
      rw [← mul_nonneg_iff_of_pos_right below, crossed, mul_nonneg_iff_of_pos_right above]
    cases s with
    | false =>
      have forward : 0 ≤ r.num := signs.1 (Int.natCast_nonneg units)
      exact (decide_eq_false (Int.not_lt.2 forward)).symm
    | true =>
      have back : ¬0 ≤ -(units : Int) := by omega
      exact (decide_eq_true (Int.not_le.1 fun forward => back (signs.2 forward))).symm

end Binary64

namespace Quantity

/-- A number that can be: the units of a double are those of one that there is. -/
def IsReal : Quantity → Prop
  | .float (.finite _ units) => Binary64.IsExact units
  | _ => True

instance : (q : Quantity) → Decidable q.IsReal
  | .whole _ | .truth _ | .ratio _ | .float (.infinite _) | .float .nan => isTrue True.intro
  | .float (.finite _ units) => inferInstanceAs (Decidable (Binary64.IsExact units))

variable {p q : Quantity} {r : Rat}

/-- The double that a number takes part as is the one nearest to its value, if there is one. -/
theorem toFloat_of_place (real : q.IsReal) (place : q.place? = some (.value r)) :
    (∃ f s, q.toFloat = .error f ∧ Binary64.ofRat r = .infinite s) ∨
      ∃ x, q.toFloat = .ok x ∧ x.Same (.ofRat r) ∧ ∀ s, Binary64.ofRat r ≠ .infinite s := by
  have ranged : ∀ f, q.toFloat = inRange f (.ofRat r) →
      (∃ f s, q.toFloat = .error f ∧ Binary64.ofRat r = .infinite s) ∨
        ∃ x, q.toFloat = .ok x ∧ x.Same (.ofRat r) ∧ ∀ s, Binary64.ofRat r ≠ .infinite s := by
    intro f same
    rw [same]
    cases Binary64.ofRat r with
    | infinite s => exact .inl ⟨f, s, rfl, rfl⟩
    | finite s units => exact .inr ⟨_, rfl, .inl rfl, nofun⟩
    | nan => exact .inr ⟨_, rfl, .inl rfl, nofun⟩
  cases q with
  | whole n =>
    cases place
    exact ranged .integerTooLarge rfl
  | truth b =>
    cases place
    exact ranged .integerTooLarge rfl
  | ratio q =>
    cases place
    refine ranged .quotientTooLarge ?_
    have below : ¬((r.den : Int) < 0) := Int.not_lt.2 (Int.natCast_nonneg _)
    show (if (r.den : Int) = 0 then _ else inRange _ (.ofQuotient r.num r.den)) = _
    rw [if_neg (Int.natCast_ne_zero.2 r.den_nz)]
    unfold Binary64.ofQuotient Binary64.ofRat
    rw [decide_eq_false below, Bool.bne_false, Int.natAbs_natCast]
  | float x =>
    cases x with
    | finite s units =>
      have value : mkRat (Binary64.signedUnits s units) Binary64.unitsPerOne = r :=
        Place.value.inj (Option.some.inj place)
      have same := Binary64.same_ofRat real value
      refine .inr ⟨_, rfl, same, fun t large => ?_⟩
      rw [large] at same
      rcases same with never | ⟨-, never⟩ <;> cases never
    | infinite s => cases s <;> cases place
    | nan => cases place

/-- Only infinite doubles are beyond all values. -/
theorem toFloat_of_extreme {s : Bool} (place : q.place? = some (if s then .bottom else .top)) :
    q.toFloat = .ok (.infinite s) := by
  cases q with
  | float x =>
    cases x with
    | infinite t => cases s <;> cases t <;> first | rfl | cases place
    | _ => cases s <;> cases place
  | _ => cases s <;> cases place

/-- Numbers of one value have one double but for the sign of a zero, or none. -/
theorem toFloat_same (real : p.IsReal) (real' : q.IsReal) (same : p.same q = true) :
    (∃ f g, p.toFloat = .error f ∧ q.toFloat = .error g) ∨
      ∃ x y, p.toFloat = .ok x ∧ q.toFloat = .ok y ∧ x.Same y := by
  obtain ⟨here, place, place'⟩ : ∃ here, p.place? = some here ∧ q.place? = some here := by
    unfold Quantity.same at same
    cases place : p.place? <;> cases place' : q.place? <;> rw [place, place'] at same
    · cases same
    · cases same
    · cases same
    · exact ⟨_, rfl, congrArg some (eq_of_beq same).symm⟩
  have extreme : ∀ s : Bool, here = (if s then .bottom else .top) →
      ∃ x y, p.toFloat = .ok x ∧ q.toFloat = .ok y ∧ x.Same y := by
    rintro s rfl
    exact ⟨_, _, toFloat_of_extreme place, toFloat_of_extreme place', .inl rfl⟩
  cases here with
  | bottom => exact .inr (extreme true rfl)
  | top => exact .inr (extreme false rfl)
  | value r =>
    rcases toFloat_of_place real place with ⟨f, s, failed, large⟩ | ⟨x, here, near, small⟩
    · rcases toFloat_of_place real' place' with ⟨g, -, failed', -⟩ | ⟨-, -, -, small⟩
      · exact .inl ⟨f, g, failed, failed'⟩
      · exact absurd large (small s)
    · rcases toFloat_of_place real' place' with ⟨-, s, -, large⟩ | ⟨y, there, near', -⟩
      · exact absurd large (small s)
      · exact .inr ⟨x, y, here, there, near.trans near'.symm⟩

end Quantity

/-! ## §2. Velocities. -/

/-- A force that is a double is scaled by the double that the volume takes part as. -/
theorem Play.scaledVelocity_float (x : Binary64) (volume : Quantity) :
    scaledVelocity (.float x) volume = volume.toFloat >>= fun y =>
      clampVelocity <$> Quantity.nearestOfFloat (x.mul y) := by
  have product : (Quantity.float x).mul volume =
      Quantity.onFloats Binary64.mul (.float x) volume.plain := by
    cases volume <;> rfl
  unfold scaledVelocity
  rw [product]
  unfold Quantity.onFloats
  rw [Quantity.plain_toFloat]
  cases volume.toFloat <;> rfl

/-- Scaled by equal volumes, a force has one velocity or none. -/
theorem Play.scaledVelocity_same (x : Binary64) {p q : Quantity} (real : p.IsReal)
    (real' : q.IsReal) (same : p.same q = true) :
    (scaledVelocity (.float x) p).toOption = (scaledVelocity (.float x) q).toOption := by
  rw [scaledVelocity_float, scaledVelocity_float]
  rcases Quantity.toFloat_same real real' same with ⟨f, g, failed, failed'⟩ | ⟨y, z, here, there, near⟩
  · rw [failed, failed']
    rfl
  · rw [here, there]
    show (clampVelocity <$> Quantity.nearestOfFloat (x.mul y)).toOption = _
    rw [Binary64.nearest_mul_same x near]
    rfl

end Plectrum
