/-
  Plectrum.Proofs.FullVolume
  ──────────────────────────
  **At full volume the columns of a grid are played to the end.**

  What can fail in a strike is its arithmetic: its time strays beyond all ticks, or its force is
  scaled beyond all doubles.  Without spreads nothing strays, and a volume of one scales nothing.
  Then a column whose cells are dashes and digits is played whatever was played before, and leaves
  the settings, the strings and the volume as they were; so the next column is played as well.

  Main results:
    * `TabStyle.strike_ok` — each digit is a strike on each string;
    * `Play.sound_velocity` — at a volume of one no velocity fails to be scaled;
    * `Play.unfailing_columns` — so columns of cells do not fail, and end where their steps lead.
-/
import Plectrum.Proofs.EqualVolumes
import Plectrum.Proofs.Pitches
import Plectrum.Proofs.SteadyStrikes

namespace Plectrum

/-! ## §1. A volume of one. -/

theorem Binary64.ofInt_one : ofInt 1 = .finite false unitsPerOne := by decide +kernel

namespace Quantity

variable {q : Quantity}

theorem place_of_one (one : q.same (.whole 1) = true) : q.place? = some (.value 1) := by
  unfold same at one
  cases place : q.place? with
  | none =>
    rw [place] at one
    cases one
  | some p =>
    rw [place] at one
    exact congrArg some (beq_iff_eq.1 one)

theorem floatOfInt_one : floatOfInt 1 = .ok (.ofInt 1) := by
  unfold floatOfInt
  rw [Binary64.ofInt_one, inRange]
  exact nofun

/-- One takes part in operations on doubles as one, whatever kind of number it is. -/
theorem toFloat_of_one (one : q.same (.whole 1) = true) : q.toFloat = .ok (.ofInt 1) := by
  have place := place_of_one one
  cases q with
  | whole n =>
    have value : (n : Rat) = 1 := Place.value.inj (Option.some.inj place)
    obtain rfl : n = 1 := by exact_mod_cast value
    exact floatOfInt_one
  | truth b =>
    cases b with
    | true => exact floatOfInt_one
    | false => cases place
  | ratio r =>
    obtain rfl : r = 1 := Place.value.inj (Option.some.inj place)
    have quotient : Binary64.ofQuotient 1 1 = .ofInt 1 := by decide +kernel
    rw [toFloat, Rat.num_one, Rat.den_one, floatOfQuotient, if_neg (by decide)]
    rw [Int.natCast_one, quotient, Binary64.ofInt_one, inRange]
    intro negative infinite
    cases infinite
  | float x =>
    cases x with
    | finite negative units =>
      have value := Place.value.inj (Option.some.inj place)
      have positive : ((Binary64.unitsPerOne : Int) : Rat) ≠ 0 :=
        Int.cast_ne_zero.2 (Int.natCast_pos.2 Binary64.unitsPerOne_pos).ne'
      rw [Rat.mkRat_eq_div, div_eq_one_iff_eq (by exact_mod_cast positive)] at value
      have exactly : Binary64.signedUnits negative units = Binary64.unitsPerOne := by
        exact_mod_cast value
      have forward := Binary64.unitsPerOne_pos
      unfold Binary64.signedUnits at exactly
      cases negative with
      | true =>
        rw [if_pos rfl] at exactly
        omega
      | false =>
        rw [if_neg Bool.false_ne_true, Int.ofNat_inj] at exactly
        rw [exactly, ← Binary64.ofInt_one, toFloat]
    | infinite negative => cases negative <;> cases place
    | nan => cases place

end Quantity

/-- A voice at full volume: no ramp is active, and the volume is one, as a number of any kind. -/
structure Voice.AtFullVolume (v : Voice) : Prop where
  rampless : v.dynamics.ramp = none
  full : ∃ q : Quantity, v.dynamics.volume = .number q ∧ q.same (.whole 1) = true

instance (v : Voice) : Decidable v.AtFullVolume :=
  decidable_of_iff (v.dynamics.ramp.isNone ∧
      ∃ q ∈ v.dynamics.volume.asNumber.toOption, q.same (.whole 1) = true) <| by
    have number : ∀ q : Quantity, q ∈ v.dynamics.volume.asNumber.toOption ↔
        v.dynamics.volume = .number q := by
      intro q
      cases v.dynamics.volume with
      | number p => simp [Datum.asNumber, Except.toOption]
      | _ => simp [Datum.asNumber, Except.toOption]
    simp only [number, Option.isNone_iff_eq_none]
    exact ⟨fun h => ⟨h.1, h.2⟩, fun h => ⟨h.rampless, h.full⟩⟩

namespace Play

/-- A volume of one scales the force of each velocity, as a double, to a whole number. -/
theorem scaled_by_one (n : Fin 128) :
    ((Quantity.whole (n : Nat)).add (.float .zero) >>= fun force =>
      scaledVelocity force (.float (.ofInt 1))).toBool = true := by
  revert n
  decide +kernel

/-- Where nothing strays, each velocity is a force that every volume of one can scale. -/
theorem sound_velocity {spread : Quantity} (still : spread.isZero = true) {n : Int}
    (positive : 0 < n) (most : n ≤ 127) :
    ∃ force, strayed spread n .zero = .ok force ∧
      ∀ volume : Quantity, volume.same (.whole 1) = true →
        ∃ velocity, scaledVelocity force volume = .ok velocity := by
  have scales := scaled_by_one ⟨n.toNat, by omega⟩
  dsimp only at scales
  rw [Int.toNat_of_nonneg positive.le] at scales
  obtain ⟨velocity, scaled⟩ := exists_ok_of_toBool scales
  obtain ⟨force, sum, scaled⟩ := bind_ok scaled
  have double : Yields (Quantity.onFloats Binary64.add (.whole n) (.float .zero)) fun force =>
      ∃ x, force = .float x := .bind fun _ _ => .bind fun _ _ => .pure ⟨_, rfl⟩
  obtain ⟨x, rfl⟩ := double force sum
  refine ⟨.float x, ?_, fun volume one => ⟨velocity, ?_⟩⟩
  · unfold strayed
    rw [if_pos (Quantity.lt_whole_of_isZero still positive)]
    exact sum
  · -- All volumes of one are the same double.
    rw [scaledVelocity_float] at scaled ⊢
    rw [Quantity.toFloat_of_one one]
    exact scaled

end Play

/-! ## §2. Acts that do not fail. -/

/-- A voice that has been played on: it is open, and has the settings, the strings and the volume
that it had. -/
structure Voice.Undimmed (v w : Voice) : Prop where
  config : w.config = v.config
  tuning : w.tuning = v.tuning
  dynamics : w.dynamics = v.dynamics
  isOpen : w.finished = false

namespace Play

variable {γ α β : Type} {v : Voice} {good : α → Prop}

/-- An act that does not fail on an open voice with the settings, the strings and the volume of `v`.
It keeps all of these, and its value is `good`. -/
def Unfailing (v : Voice) (good : α → Prop) (act : Play γ α) : Prop :=
  ∀ p : Player γ, v.Undimmed p.voice →
    act.Ensures p (fun a q => good a ∧ v.Undimmed q.voice) fun _ _ => False

/-- An act that has nothing to tell. -/
abbrev Done (_ : Unit) : Prop := True

namespace Unfailing

theorem pure {a : α} (h : good a) : Unfailing v good (Pure.pure a : Play γ α) :=
  fun _ here => (Act.ensures_pure a).2 ⟨h, here⟩

theorem bind {act : Play γ β} {mid : β → Prop} {next : β → Play γ α}
    (first : Unfailing v mid act) (then_ : ∀ b, mid b → Unfailing v good (next b)) :
    Unfailing v good (act >>= next) :=
  fun p here => (first p here).bind fun b q there => then_ b there.1 q there.2

theorem lift_bind {result : Except Fault β} {b : β} {next : β → Play γ α}
    (well : result = .ok b) (then_ : Unfailing v good (next b)) :
    Unfailing v good (liftM result >>= next) := by
  intro p here
  rw [well, Act.ensures_lift_bind]
  refine ⟨fun c same => ?_, fun f failed => ?_⟩
  · cases same
    exact then_ p here
  · cases failed

theorem voice_bind {next : Voice → Play γ α}
    (then_ : ∀ w, v.Undimmed w → Unfailing v good (next w)) :
    Unfailing v good (voice >>= next) :=
  fun p here => (ensures_voice_bind next).2 (then_ p.voice here p here)

theorem changeVoice {f : Voice → Voice} (keeps : ∀ w, v.Undimmed w → v.Undimmed (f w)) :
    Unfailing v Done (Play.changeVoice f : Play γ Unit) :=
  fun p here => (ensures_changeVoice f).2 ⟨True.intro, keeps p.voice here⟩

end Unfailing

theorem unfailing_requireOpen : Unfailing v Done (requireOpen : Play γ Unit) := by
  unfold requireOpen
  refine .voice_bind fun w here => ?_
  rw [here.isOpen]
  exact .pure True.intro

/-! ## §3. Strikes. -/

theorem unfailing_record (tick : Datum) (what : Happening) :
    Unfailing v Done (record tick what : Play γ Unit) :=
  .changeVoice fun _ here => ⟨here.config, here.tuning, here.dynamics, here.isOpen⟩

/-- Without a ramp the volume is what it was, at every tick. -/
theorem unfailing_loudness (full : v.AtFullVolume) (tick : Datum) :
    Unfailing v (· = v.dynamics.volume)
      (onDynamics (Dynamics.loudnessAt tick) : Play γ Datum) := by
  intro p here
  have told : p.voice.dynamics.volumeAt tick = .ok (v.dynamics.volume, v.dynamics) := by
    unfold Dynamics.volumeAt
    rw [here.dynamics, full.rampless]
  unfold onDynamics Dynamics.loudnessAt
  rw [Act.ensures_onPart, Act.ensures_state_bind, told, Act.ensures_lift_bind]
  refine ⟨fun answer same => ?_, fun f failed => ?_⟩
  · cases same
    rw [Act.ensures_update_bind, Act.ensures_pure]
    exact ⟨rfl, here.config, here.tuning, rfl, here.isOpen⟩
  · cases failed

/-- A note does not fail if it is an end, or if volumes of one can scale its force. -/
theorem unfailing_note (full : v.AtFullVolume) (tick pitch : Datum) {force : Quantity}
    (scales : force.le (.whole 0) = true ∨ ∀ volume : Quantity, volume.same (.whole 1) = true →
      ∃ velocity, scaledVelocity force volume = .ok velocity) :
    Unfailing v Done (note tick pitch (.number force) : Play γ Unit) := by
  unfold note
  refine .bind unfailing_requireOpen fun _ _ => .voice_bind fun w _ => ?_
  refine .lift_bind (Datum.asNumber_number force) ?_
  split
  · exact unfailing_record tick _
  · next loud =>
    obtain ⟨volume, number, one⟩ := full.full
    obtain ⟨velocity, scaled⟩ := scales.resolve_left loud volume one
    refine .bind (unfailing_loudness full tick) fun told same => ?_
    rw [same, number]
    refine .lift_bind (Datum.asNumber_number volume) ?_
    exact .lift_bind scaled (unfailing_record tick _)

theorem unfailing_stop (full : v.AtFullVolume) (tick pitch : Datum) :
    Unfailing v Done (note tick pitch (.whole 0) : Play γ Unit) :=
  unfailing_note full tick pitch (.inl silent_zero)

theorem unfailing_setSounding (index : Nat) (sounds : Option Quantity) :
    Unfailing v Done (setSounding index sounds : Play γ Unit) :=
  .changeVoice fun _ here => ⟨here.config, here.tuning, here.dynamics, here.isOpen⟩

theorem unfailing_cut (full : v.AtFullVolume) (tick : Int) (index : Nat) :
    Unfailing v Done (cut tick index : Play γ Unit) := by
  unfold cut
  refine .voice_bind fun w _ => ?_
  split
  · exact unfailing_stop full _ _
  · exact .pure True.intro

theorem unfailing_mute (full : v.AtFullVolume) (tick : Int) (index : Nat) (pitch : Quantity)
    (closes : Bool) : Unfailing v Done (mute tick index pitch closes : Play γ Unit) := by
  unfold mute
  cases closes with
  | true => exact unfailing_setSounding index none
  | false => exact .bind (unfailing_stop full _ _) fun _ _ => unfailing_setSounding index none

theorem unfailing_sound (steady : v.config.IsSteady) (full : v.AtFullVolume) (tick : Int)
    (index : Nat) (pitch : Quantity) {velocity : Int} (positive : 0 < velocity)
    (most : velocity ≤ 127) :
    Unfailing v Done (sound tick index pitch velocity .zero : Play γ Unit) := by
  unfold sound
  refine .voice_bind fun w here => ?_
  have still : w.config.volumeSpread.isZero = true := by
    rw [here.config]
    exact steady.2
  obtain ⟨force, strays, scales⟩ := sound_velocity still positive most
  refine .lift_bind strays ?_
  exact .bind (unfailing_note full _ _ (.inr scales)) fun _ _ => unfailing_setSounding index _

/-- A strike does not fail, whatever sounds on its string. -/
theorem unfailing_strike (steady : v.config.IsSteady) (full : v.AtFullVolume) (tick : Int)
    (index : Nat) (pitch : Quantity) {velocity : Int} (most : velocity ≤ 127) (closes : Bool) :
    Unfailing v Done (strike tick index pitch velocity .zero closes : Play γ Unit) := by
  have sounds : Unfailing v Done
      (muteOrSound tick index pitch velocity .zero closes : Play γ Unit) := by
    unfold muteOrSound
    split
    · exact unfailing_mute full tick index pitch closes
    · exact unfailing_sound steady full tick index pitch (by omega) most
  unfold strike
  cases closes with
  | true => exact .bind (unfailing_cut full tick index) fun _ _ => sounds
  | false => exact sounds

end Play

/-! ## §4. Columns. -/

/-- A cell that is struck is a digit. -/
theorem Tab.cellDigit_of_isCell {l : Letter} (known : isCell l = true)
    (struck : ¬(l == '-') = true) :
    ∃ digit, cellDigit l = .ok digit ∧ digit < 10 := by
  unfold isCell Text.isDigit at known
  rw [Bool.or_eq_true] at known
  obtain ⟨digit, value⟩ := Option.isSome_iff_exists.1 (known.resolve_left struck)
  refine ⟨digit, ?_, Text.digitValue?_lt value⟩
  unfold cellDigit
  rw [value]

namespace TabStyle

/-- Hits are no harder than velocities can be. -/
theorem hitForce_ok (digit : Fin 10) :
    (hitForce (.whole (digit : Nat))).toOption.any (· ≤ 127) = true := by
  revert digit
  decide +kernel

/-- Each digit is a strike on each string, and a pitch that is too high is so by a digit at most. -/
theorem strike_ok (style : TabStyle) {root : Quantity} (known : root.IsPitch) {digit : Nat}
    (small : digit < 10) :
    ∃ pitch velocity, style.strike root (.whole digit) = .ok (pitch, velocity) ∧ velocity ≤ 127 ∧
      ∃ n : Int, pitch.integer? = some n ∧ 0 ≤ n ∧ n ≤ 136 := by
  obtain ⟨n, whole, low, high⟩ := known
  cases style with
  | frets =>
    have sum : root.add (.whole digit) = .ok (.whole (n + digit)) :=
      Quantity.add_of_integer whole rfl
    unfold strike
    rw [sum]
    exact ⟨_, fretVelocity, rfl, by decide, n + digit, rfl, by omega, by omega⟩
  | hits =>
    have most := hitForce_ok ⟨digit, small⟩
    unfold strike
    cases force : hitForce (.whole digit) with
    | error f =>
      dsimp only at most
      rw [force] at most
      cases most
    | ok velocity =>
      dsimp only at most
      rw [force] at most
      exact ⟨root, velocity, rfl, of_decide_eq_true most, n, whole, low, by omega⟩

end TabStyle

namespace Play

variable {γ : Type} {v : Voice}

theorem unfailing_cell (known : ∀ root ∈ v.roots, root.IsPitch) (steady : v.config.IsSteady)
    (full : v.AtFullVolume) (tick : Int) (line : Nat) {l : Letter} (isCell : Tab.isCell l = true) :
    Unfailing v Done (cell tick .zero line l : Play γ Unit) := by
  unfold cell
  split
  · exact .pure True.intro
  · next struck =>
    refine .voice_bind fun w here => ?_
    dsimp only
    split
    · exact .pure True.intro
    · next root rooted =>
      have inside : root ∈ v.roots := by
        have own := List.mem_of_getElem? rooted
        unfold Voice.roots at own ⊢
        rwa [here.tuning] at own
      obtain ⟨digit, read, small⟩ := Tab.cellDigit_of_isCell isCell struck
      obtain ⟨pitch, velocity, strikes, most, -⟩ := w.tabStyle.strike_ok (known root inside) small
      refine .lift_bind read (.lift_bind strikes ?_)
      exact unfailing_strike steady full tick _ pitch most _

theorem unfailing_cells (known : ∀ root ∈ v.roots, root.IsPitch) (steady : v.config.IsSteady)
    (full : v.AtFullVolume) (tick : Int) (line : Nat) {column : Text}
    (areCells : ∀ l ∈ column, Tab.isCell l = true) :
    Unfailing v Done (cells tick .zero line column : Play γ Unit) := by
  induction column generalizing line with
  | nil => exact .pure True.intro
  | cons l column ih =>
    obtain ⟨first, others⟩ := List.forall_mem_cons.1 areCells
    unfold cells
    exact .bind (unfailing_cell known steady full tick line first) fun _ _ => ih (line + 1) others

variable [ChanceSource γ]

theorem unfailing_jitter (steady : v.config.IsSteady) :
    Unfailing v (· = .zero) (jitter : Play γ Binary64) := by
  unfold jitter
  refine .voice_bind fun w here => ?_
  dsimp only
  rw [here.config, if_pos steady.2]
  exact .pure rfl

/-- A strike that is written at a whole tick lands, wherever the strike before it did. -/
theorem unfailing_humanize (steady : v.config.IsSteady) (n : Int) :
    Unfailing v (fun _ => True) (humanize (.whole n) : Play γ Int) := by
  have shifts : Unfailing v (· = .whole n) (shift (.whole n) : Play γ Quantity) := by
    unfold shift
    refine .voice_bind fun w here => ?_
    dsimp only
    rw [here.config, if_pos steady.1]
    exact .pure rfl
  unfold humanize
  refine .bind shifts fun shifted same => .voice_bind fun w _ => ?_
  rw [same]
  refine .lift_bind rfl (.bind (.changeVoice fun _ here => ?_) fun _ _ => .pure True.intro)
  exact ⟨here.config, here.tuning, here.dynamics, here.isOpen⟩

theorem unfailing_column (known : ∀ root ∈ v.roots, root.IsPitch) (steady : v.config.IsSteady)
    (full : v.AtFullVolume) (n : Int) {cells : Text} (areCells : ∀ l ∈ cells, Tab.isCell l = true) :
    Unfailing v Done (column (.whole n) cells : Play γ Unit) := by
  unfold column
  refine .bind (unfailing_jitter steady) fun stray none_ => ?_
  rw [none_]
  exact .bind (unfailing_humanize steady n) fun tick _ =>
    unfailing_cells known steady full tick 0 areCells

/-- Columns of dashes and digits do not fail, and end where their steps lead. -/
theorem unfailing_columns (known : ∀ root ∈ v.roots, root.IsPitch) (steady : v.config.IsSteady)
    (full : v.AtFullVolume) {columns : List (Quantity × Text)}
    (areCells : ∀ column ∈ columns, ∀ l ∈ column.2, Tab.isCell l = true) {steps : List Int}
    (whole : columns.map Prod.fst = steps.map .whole) (n : Int) :
    Unfailing v (· = .whole (n + steps.sum))
      (Play.columns (.whole n) columns : Play γ Quantity) := by
  induction columns generalizing steps n with
  | nil =>
    obtain rfl : steps = [] := List.map_eq_nil_iff.1 whole.symm
    rw [List.sum_nil, Int.add_zero]
    exact .pure rfl
  | cons first columns ih =>
    obtain ⟨step, cells⟩ := first
    obtain ⟨here, others⟩ := List.forall_mem_cons.1 areCells
    cases steps with
    | nil => cases whole
    | cons k steps =>
      obtain ⟨rfl, rest⟩ := List.cons.inj whole
      rw [columns_cons, List.sum_cons, ← Int.add_assoc]
      refine .bind (unfailing_column known steady full n here) fun _ _ => ?_
      exact .lift_bind rfl (ih others rest (n + k))

end Play
end Plectrum
