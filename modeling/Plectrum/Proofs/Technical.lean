/-
  Plectrum.Proofs.Technical
  ─────────────────────────
  **Failures of numbers are no mistakes in the music.**

  A computation with numbers can fail: a number may be too large for a double, or no
  number at all.  Such a fault never belongs to the families that stand for a mistake
  in the music.  So an act that has passed its checks, and goes on with arithmetic
  alone, has no musical fault left.
-/
import Plectrum.Voice.Measure
import Plectrum.Voice.Tab

namespace Plectrum

/-! ## §1. Technical faults. -/

/-- A fault that is no mistake in the music. -/
def Fault.Technical (f : Fault) : Prop := f.family.isMusical = false

/-- A fault whose message cannot be written counts as a failure of a number, so the
family of the cause decides. -/
theorem Fault.Technical.not_musical {f : Fault} (h : f.Technical) : f.kind.isMusical = false := by
  unfold Fault.kind
  split
  · exact h
  · rfl

variable {α β : Type}

/-- A computation whose faults are all technical. -/
def Technical (result : Except Fault α) : Prop := ∀ f, result = .error f → f.Technical

namespace Technical

@[simp] theorem ok (a : α) : Technical (.ok a : Except Fault α) := by
  intro f h
  cases h

@[simp] theorem pure (a : α) : Technical (Pure.pure a : Except Fault α) := ok a

theorem error {f : Fault} (h : f.Technical) : Technical (.error f : Except Fault α) := by
  intro g e
  cases e
  exact h

theorem bind {result : Except Fault α} {next : α → Except Fault β} (h : Technical result)
    (hnext : ∀ a, Technical (next a)) : Technical (result >>= next) := by
  cases result with
  | ok a => exact hnext a
  | error f => exact error (h f rfl)

/-- A check that refuses with a technical fault. -/
theorem check {c : Prop} [Decidable c] {f : Fault} {next : Unit → Except Fault β}
    (h : f.Technical) (hnext : Technical (next ())) :
    Technical (if c then (throw f : Except Fault Unit) >>= next else next ()) := by
  split
  · exact error h
  · exact hnext

theorem foldlM {step : β → α → Except Fault β} (h : ∀ b a, Technical (step b a)) (b : β)
    (as : List α) : Technical (as.foldlM step b) := by
  induction as generalizing b with
  | nil => exact ok b
  | cons a as ih => exact (h b a).bind fun b => ih b

theorem mapM {step : α → Except Fault β} (h : ∀ a, Technical (step a)) (as : List α) :
    Technical (as.mapM step) := by
  induction as with
  | nil => exact ok []
  | cons a as ih =>
    rw [List.mapM_cons]
    exact (h a).bind fun _ => ih.bind fun _ => ok _

theorem map {result : Except Fault α} (g : α → β) (h : Technical result) :
    Technical (g <$> result) := by
  cases result with
  | ok a => exact ok (g a)
  | error f => exact error (h f rfl)

end Technical

/-! ## §2. Quantities. -/

namespace Quantity

theorem technical_inRange {fault : Fault} (h : fault.Technical) (x : Binary64) :
    Technical (inRange fault x) := by
  cases x with
  | finite negative units => exact .ok _
  | infinite negative => exact .error h
  | nan => exact .ok _

theorem technical_floatOfInt (n : Int) : Technical (floatOfInt n) := by
  unfold floatOfInt
  refine technical_inRange ?_ _
  rfl

theorem technical_floatOfQuotient (n d : Int) : Technical (floatOfQuotient n d) := by
  unfold floatOfQuotient
  split
  · exact .error rfl
  · refine technical_inRange ?_ _
    rfl

theorem technical_toFloat (q : Quantity) : Technical q.toFloat := by
  cases q with
  | whole n =>
    rw [toFloat]
    exact technical_floatOfInt n
  | truth b =>
    rw [toFloat]
    exact technical_floatOfInt _
  | ratio q =>
    rw [toFloat]
    exact technical_floatOfQuotient _ _
  | float x => exact .ok x

theorem technical_onFloats (op : Binary64 → Binary64 → Binary64) (a b : Quantity) :
    Technical (onFloats op a b) :=
  (technical_toFloat a).bind fun _ => (technical_toFloat b).bind fun _ => .pure _

theorem technical_add (a b : Quantity) : Technical (a.add b) := by
  unfold add
  split
  · exact .ok _
  · exact .ok _
  · exact .ok _
  · exact .ok _
  · exact technical_onFloats _ _ _

theorem technical_sub (a b : Quantity) : Technical (a.sub b) := by
  unfold sub
  split
  · exact .ok _
  · exact .ok _
  · exact .ok _
  · exact .ok _
  · exact technical_onFloats _ _ _

theorem technical_mul (a b : Quantity) : Technical (a.mul b) := by
  unfold mul
  split
  · exact .ok _
  · exact .ok _
  · exact .ok _
  · exact .ok _
  · exact technical_onFloats _ _ _

theorem technical_ratioQuotient (p q : Rat) : Technical (ratioQuotient p q) := by
  unfold ratioQuotient
  split
  · exact .error rfl
  · exact .ok _

theorem technical_floatQuotient (x y : Binary64) : Technical (floatQuotient x y) := by
  unfold floatQuotient
  split
  · exact .error rfl
  · exact .ok _

theorem technical_div (a b : Quantity) : Technical (a.div b) := by
  unfold div
  split
  · exact (technical_floatOfQuotient _ _).bind fun _ => .pure _
  · exact technical_ratioQuotient _ _
  · exact technical_ratioQuotient _ _
  · exact technical_ratioQuotient _ _
  · exact (technical_toFloat _).bind fun _ => (technical_toFloat _).bind fun _ =>
      technical_floatQuotient _ _

theorem technical_nearest (a : Quantity) : Technical a.nearest := by
  cases a with
  | whole n => exact .ok _
  | truth b => exact .ok _
  | ratio q => exact .ok _
  | float x =>
    rw [nearest]
    unfold nearestOfFloat
    split
    · exact .ok _
    · exact .error rfl
    · exact .error rfl

theorem technical_truncated (a : Quantity) : Technical a.truncated := by
  cases a with
  | whole n => exact .ok _
  | truth b => exact .ok _
  | ratio q => exact .ok _
  | float x =>
    cases x with
    | finite negative units => exact .ok _
    | infinite negative => exact .error rfl
    | nan => exact .error rfl

end Quantity

/-! ## §3. Data. -/

namespace Datum

theorem technical_asNumber (d : Datum) : Technical d.asNumber := by
  unfold asNumber
  split
  · exact .ok _
  · exact .error rfl

theorem technical_onNumbers {op : Quantity → Quantity → Except Fault α}
    (h : ∀ p q, Technical (op p q)) (a b : Datum) : Technical (onNumbers op a b) :=
  (technical_asNumber a).bind fun p => (technical_asNumber b).bind fun q => h p q

theorem technical_computed {op : Quantity → Quantity → Except Fault Quantity}
    (h : ∀ p q, Technical (op p q)) (a b : Datum) : Technical (computed op a b) :=
  technical_onNumbers (fun p q => (h p q).map _) a b

theorem technical_plus (a b : Datum) : Technical (a.plus b) := by
  unfold plus
  split
  · exact .ok _
  · exact .ok _
  · exact technical_computed Quantity.technical_add _ _

theorem technical_copies (q : Quantity) : Technical (copies q) := by
  unfold copies
  split
  · split
    · exact .error rfl
    · exact .ok _
  · exact .error rfl

theorem technical_repeated {fault : Fault} (technical : fault.Technical) (count : Nat)
    (items : List α) : Technical (repeated fault count items) := by
  unfold repeated
  split
  · exact .ok _
  · split
    · exact .error technical
    · exact .ok _

theorem technical_times (a b : Datum) : Technical (a.times b) := by
  have text : Fault.textTooLong.Technical := rfl
  have list : Fault.noRoom.Technical := rfl
  unfold times
  split
  · exact (technical_copies _).bind fun _ => (technical_repeated text _ _).bind fun _ => .pure _
  · exact (technical_copies _).bind fun _ => (technical_repeated text _ _).bind fun _ => .pure _
  · exact (technical_copies _).bind fun _ => (technical_repeated list _ _).bind fun _ => .pure _
  · exact (technical_copies _).bind fun _ => (technical_repeated list _ _).bind fun _ => .pure _
  · exact technical_computed Quantity.technical_mul _ _

end Datum

/-! ## §4. Ramps of volume. -/

theorem Easing.technical_share (e : Easing) (t : Datum) : Technical (e.share t) := by
  cases e with
  | linear => exact .ok t
  | easeIn => exact Datum.technical_times _ _
  | easeOut =>
    exact (Datum.technical_computed Quantity.technical_sub _ _).bind fun _ =>
      (Datum.technical_computed Quantity.technical_sub _ _).bind fun _ =>
      (Datum.technical_times _ _).bind fun _ => Datum.technical_computed Quantity.technical_sub _ _
  | easeInOut =>
    exact (Datum.technical_times _ _).bind fun _ => (Datum.technical_times _ _).bind fun _ =>
      (Datum.technical_computed Quantity.technical_sub _ _).bind fun _ =>
      Datum.technical_times _ _

theorem Shape.technical_share (s : Shape Datum) (t : Datum) : Technical (s.share t) := by
  cases s with
  | named e => exact e.technical_share t
  | own f =>
    have failed : Fault.shapeFailed.Technical := rfl
    show Technical ((f t).elim _ _)
    cases f t with
    | none => exact .error failed
    | some part => exact .ok part

theorem Shape.technical_blend (s : Shape Datum) (start target t : Datum) :
    Technical (s.blend start target t) :=
  (Datum.technical_computed Quantity.technical_sub _ _).bind fun _ =>
    (s.technical_share t).bind fun _ => (Datum.technical_times _ _).bind fun _ =>
    Datum.technical_plus _ _

theorem VolumeRamp.technical_valueAt (r : VolumeRamp Datum) (tick : Datum) :
    Technical (r.valueAt tick) := by
  unfold VolumeRamp.valueAt
  split
  · exact .ok _
  · exact (Datum.technical_computed Quantity.technical_sub _ _).bind fun _ =>
      (Datum.technical_computed Quantity.technical_sub _ _).bind fun _ =>
      (Datum.technical_computed Quantity.technical_div _ _).bind fun _ =>
      r.shape.technical_blend _ _ _

/-- Comparing data fails only where they are no numbers. -/
theorem Datum.technical_compared (op : Quantity → Quantity → Bool) (a b : Datum) :
    Technical (Datum.onNumbers (fun p q => .ok (op p q)) a b) :=
  technical_onNumbers (fun _ _ => .ok _) a b

theorem Dynamics.technical_volumeAt (d : Dynamics Datum) (tick : Datum) :
    Technical (d.volumeAt tick) := by
  unfold Dynamics.volumeAt
  split
  · exact .ok _
  · refine (Datum.technical_compared Quantity.le _ _).bind fun ended => ?_
    split
    · exact .pure _
    · refine (Datum.technical_compared Quantity.le _ _).bind fun begun => ?_
      split
      · exact (VolumeRamp.technical_valueAt _ _).bind fun _ => .pure _
      · exact .pure _

/-! ## §5. Strikes. -/

theorem LastStrike.technical_landing (last : LastStrike) (nominal shifted : Quantity) :
    Technical (last.landing nominal shifted) :=
  (Quantity.technical_nearest shifted).bind fun _ => .pure _

theorem Play.technical_strayed (spread : Quantity) (velocity : Int) (stray : Binary64) :
    Technical (strayed spread velocity stray) := by
  unfold strayed
  split
  · exact Quantity.technical_add _ _
  · exact .ok _

theorem Play.technical_scaledVelocity (force volume : Quantity) :
    Technical (scaledVelocity force volume) :=
  (Quantity.technical_mul force volume).bind fun _ =>
    (Quantity.technical_nearest _).bind fun _ => .pure _

theorem Play.technical_offsetTick (v : Voice) (offset : Rat) : Technical (offsetTick v offset) :=
  (Quantity.technical_mul _ _).bind fun _ => Quantity.technical_add _ _

theorem Tab.technical_cellDigit (l : Letter) : Technical (cellDigit l) := by
  unfold cellDigit
  split
  · exact .ok _
  · exact .error rfl

theorem TabStyle.technical_hitForce (digit : Quantity) : Technical (hitForce digit) :=
  (Quantity.technical_mul _ _).bind fun _ => (Quantity.technical_div _ _).bind fun _ =>
    Quantity.technical_truncated _

theorem TabStyle.technical_strike (style : TabStyle) (root digit : Quantity) :
    Technical (style.strike root digit) := by
  cases style with
  | frets => exact (Quantity.technical_add root digit).bind fun _ => .pure _
  | hits => exact (technical_hitForce digit).bind fun _ => .pure _

end Plectrum
