/-
  Plectrum.Proofs.Tempos
  ──────────────────────
  **Tempos that are accepted.**

  A tempo is accepted if it is positive, and is queued in microseconds for each beat.  No
  step of the computation brings a minus sign in, so what is queued is never negative; how
  slow a tempo may be is not checked.  Calls that change the tempo move the dynamics of the
  master and nothing else.

  Main results:
    * `microsecondsPerBeat_nonneg` — the microseconds of a positive tempo are not negative;
    * `Session.run_retimed` — changes of tempo touch nothing but the queue and the current
      tempo.
-/
import Plectrum.Proofs.Overruns

namespace Plectrum

/-! ## §1. Numbers without a minus sign. -/

namespace Binary64

/-- A double without a minus sign; NaN has none. -/
inductive Unsigned : Binary64 → Prop where
  | finite (units : Nat) : Unsigned (.finite false units)
  | infinite : Unsigned (.infinite false)
  | nan : Unsigned .nan

variable {x y : Binary64}

theorem unsigned_rounded (n d : Nat) : (rounded false n d).Unsigned := by
  unfold rounded
  dsimp only
  split
  · exact .finite _
  · exact .infinite

theorem unsigned_ofInt {n : Int} (nonnegative : 0 ≤ n) : (ofInt n).Unsigned := by
  unfold ofInt
  rw [decide_eq_false (Int.not_lt.2 nonnegative)]
  exact unsigned_rounded _ _

/-- What the doubles of zero and infinity give without a sign. -/
theorem unsigned_ite {c : Prop} [Decidable c] : (if c then nan else infinite false).Unsigned := by
  split
  · exact .nan
  · exact .infinite

theorem Unsigned.mul (hx : x.Unsigned) (hy : y.Unsigned) : (x.mul y).Unsigned := by
  cases hx with
  | nan => exact .nan
  | finite a =>
    cases hy with
    | nan => exact .nan
    | finite b =>
      rw [Binary64.mul, bne_self_eq_false]
      exact unsigned_rounded _ _
    | infinite => exact unsigned_ite
  | infinite =>
    cases hy with
    | nan => exact .nan
    | finite b => exact unsigned_ite
    | infinite => exact .infinite

theorem Unsigned.div (hx : x.Unsigned) (hy : y.Unsigned) : (x.div y).Unsigned := by
  cases hx with
  | nan => exact .nan
  | finite a =>
    cases hy with
    | nan => exact .nan
    | finite b =>
      rw [Binary64.div, bne_self_eq_false]
      exact unsigned_rounded _ _
    | infinite => exact .finite 0
  | infinite =>
    cases hy with
    | nan => exact .nan
    | finite b => exact .infinite
    | infinite => exact .nan

end Binary64

namespace Quantity

open Binary64 (Unsigned)

theorem inRange_unsigned {fault : Fault} {x : Binary64} (h : x.Unsigned) :
    Yields (inRange fault x) Unsigned := by
  cases h with
  | infinite => exact .error _
  | finite units => exact .pure (.finite units)
  | nan => exact .pure .nan

theorem floatOfInt_unsigned {n : Int} (nonnegative : 0 ≤ n) : Yields (floatOfInt n) Unsigned :=
  inRange_unsigned (Binary64.unsigned_ofInt nonnegative)

/-- The double of a number above zero has no minus sign. -/
theorem toFloat_unsigned {q : Quantity} (positive : q.le (.whole 0) = false) :
    Yields q.toFloat Unsigned := by
  cases q with
  | whole n =>
    rw [le_whole, decide_eq_false_iff_not] at positive
    exact floatOfInt_unsigned (by omega)
  | truth b =>
    refine floatOfInt_unsigned ?_
    cases b <;> decide
  | ratio r =>
    have above : ¬r.num < 0 := by
      change (!decide (((0 : Int) : Rat) < r)) = false at positive
      simp only [Bool.not_eq_false', decide_eq_true_eq] at positive
      exact Int.not_lt.2 (Rat.num_nonneg.2 positive.le)
    show Yields (if (r.den : Int) = 0 then _ else inRange _ (.ofQuotient r.num r.den)) _
    refine .ite_error fun _ => inRange_unsigned ?_
    unfold Binary64.ofQuotient
    rw [decide_eq_false above, decide_eq_false (Int.not_lt.2 (Int.natCast_nonneg _))]
    exact Binary64.unsigned_rounded _ _
  | float x =>
    refine .pure ?_
    cases x with
    | nan => exact .nan
    | infinite s =>
      cases s with
      | false => exact .infinite
      | true => cases positive
    | finite s units =>
      cases s with
      | false => exact .finite units
      | true =>
        change (!decide (((0 : Int) : Rat) < mkRat (-(units : Int)) Binary64.unitsPerOne)) =
          false at positive
        simp only [Bool.not_eq_false', decide_eq_true_eq, Int.cast_zero,
          Rat.mkRat_pos_iff _ Binary64.unitsPerOne_pos.ne'] at positive
        omega

theorem nearestOfFloat_nonneg {x : Binary64} (h : x.Unsigned) :
    Yields (nearestOfFloat x) (0 ≤ ·) := by
  cases h with
  | nan | infinite => exact .error _
  | finite units => exact .pure (Int.natCast_nonneg _)

/-- A double without a minus sign, as a quantity. -/
def IsUnsigned (q : Quantity) : Prop := ∃ x : Binary64, q = .float x ∧ x.Unsigned

variable {p q : Quantity}

theorem plain_toFloat (q : Quantity) : q.plain.toFloat = q.toFloat := by
  cases q <;> rfl

theorem mul_unsigned (hp : p.IsUnsigned) (positive : q.le (.whole 0) = false) :
    Yields (p.mul q) IsUnsigned := by
  obtain ⟨x, rfl, hx⟩ := hp
  have same : (float x).mul q = onFloats Binary64.mul (.float x) q.plain := by
    cases q <;> rfl
  rw [same]
  unfold onFloats
  rw [plain_toFloat]
  refine .bind fun x' here => ?_
  cases here
  refine .bind fun y there => .pure ?_
  exact ⟨x.mul y, rfl, hx.mul (toFloat_unsigned positive y there)⟩

theorem div_unsigned (hp : p.IsUnsigned) (positive : q.le (.whole 0) = false) :
    Yields (p.div q) IsUnsigned := by
  obtain ⟨x, rfl, hx⟩ := hp
  have same : (float x).div q =
      (float x).toFloat >>= fun x => q.plain.toFloat >>= fun y => floatQuotient x y := by
    cases q <;> rfl
  rw [same, plain_toFloat]
  refine .bind fun x' here => ?_
  cases here
  refine .bind fun y there => ?_
  have quotient : (float (x.div y)).IsUnsigned :=
    ⟨x.div y, rfl, hx.div (toFloat_unsigned positive y there)⟩
  unfold floatQuotient
  split
  · exact .error _
  · exact .pure quotient

end Quantity

/-- The microseconds of one beat at a positive tempo are not negative. -/
theorem microsecondsPerBeat_nonneg {bpm : Datum}
    (positive : Scalar.le bpm (Scalar.count 0) = .ok false) :
    Yields (microsecondsPerBeat bpm) (0 ≤ ·) := by
  obtain ⟨q, rfl, above⟩ : ∃ q, bpm = .number q ∧ q.le (.whole 0) = false := by
    cases bpm with
    | number q => exact ⟨q, rfl, Except.ok.inj positive⟩
    | _ => cases positive
  have minute : (Quantity.float (.ofInt 60000000)).IsUnsigned :=
    ⟨_, rfl, Binary64.unsigned_ofInt (by decide)⟩
  have four : (Quantity.float (.ofInt 4)).le (.whole 0) = false := by decide +kernel
  have number : ∀ {result : Except Fault Quantity}, Yields result Quantity.IsUnsigned →
      Yields (Datum.number <$> result) fun d => ∃ p : Quantity, d = .number p ∧ p.IsUnsigned :=
    fun h => .map fun p here => ⟨p, rfl, h p here⟩
  unfold microsecondsPerBeat
  refine .bind fun beat beatHere => ?_
  obtain ⟨beat, rfl, hbeat⟩ := number (Quantity.div_unsigned minute above) beat beatHere
  refine .bind fun beats beatsHere => ?_
  obtain ⟨beats, rfl, hbeats⟩ :=
    number (Quantity.mul_unsigned hbeat ((Quantity.le_whole 4 0).trans rfl)) beats beatsHere
  refine .bind fun length lengthHere => ?_
  obtain ⟨length, rfl, x, rfl, unsigned⟩ :=
    number (Quantity.div_unsigned hbeats four) length lengthHere
  exact Quantity.nearestOfFloat_nonneg unsigned

/-! ## §2. The queue of changes. -/

/-- Dynamics that began with a tempo, and whose changes are no negative times. -/
structure Dynamics.Forward (first : Datum) (d : Dynamics Datum) : Prop where
  initialBpm : d.initialBpm = first
  changes : ∀ c ∈ d.tempoChanges.toList, 0 ≤ c.microseconds

namespace Dynamics

variable {first : Datum} {d : Dynamics Datum}

theorem start_forward (bpm volume : Datum) : Yields (Dynamics.start bpm volume) (Forward bpm) := by
  intro d started
  have queue := start_tempoChanges bpm volume d started
  unfold start at started
  obtain ⟨stopped, -, started⟩ := bind_ok started
  refine ⟨?_, ?_⟩
  · split at started
    · cases started
    · cases started
      rfl
  · rw [queue]
    exact fun _ here => nomatch here

theorem Forward.setTempo (h : d.Forward first) (bpm tick : Datum) :
    Yields (d.setTempo bpm tick) (Forward first) := by
  unfold Dynamics.setTempo
  refine .bind fun stopped compared => ?_
  split
  · exact .bind fun _ failed => nomatch failed
  · next positive =>
    rw [Bool.not_eq_true] at positive
    subst positive
    refine .bind fun microseconds here => .pure ⟨h.initialBpm, ?_⟩
    have forward := microsecondsPerBeat_nonneg compared microseconds here
    rw [Array.toList_push]
    exact List.forall_mem_append.2 ⟨h.changes, List.forall_mem_singleton.2 forward⟩

/-- What a change of tempo keeps of the dynamics, however it is asked for. -/
def KeptByTempos (J : Dynamics Datum → Prop) : Prop :=
  ∀ d, J d → ∀ bpm tick, Yields (d.setTempo bpm tick) J

theorem keptByTempos_forward (first : Datum) : KeptByTempos (Forward first) :=
  fun _ here => here.setTempo

section Tempos

variable {J : Dynamics Datum → Prop}

theorem climb_kept (kept : KeptByTempos J) (here : J d) (s : Staircase Datum)
    (startTick ticksPerBeat : Datum) (beats count step : Nat) :
    J (climb s startTick ticksPerBeat beats step count d).2 := by
  induction count generalizing step d with
  | zero => exact here
  | succ count ih =>
    unfold climb
    dsimp only
    split
    · exact here
    · next e next =>
      obtain ⟨bpm, -, made⟩ := bind_ok next
      obtain ⟨tick, -, made⟩ := bind_ok made
      exact ih (kept d here bpm tick e made) (step + 1)

theorem keeps_tempo (kept : KeptByTempos J) (bpm tick : Datum) : Act.Keeps J (tempo bpm tick) := by
  unfold tempo change
  refine .state_bind fun d here => ?_
  rw [Act.ensures_lift_bind]
  refine ⟨fun e made => ?_, fun _ _ => here⟩
  exact (Act.ensures_update _).2 (kept d here bpm tick e made)

theorem keeps_ritardando (kept : KeptByTempos J) (factor startTick beats ticksPerBeat : Datum)
    (shape : Shape.Choice Datum) :
    Act.Keeps J (ritardando factor startTick beats ticksPerBeat shape) := by
  have climbs : ∀ stairs count, Act.Keeps J (Act.ofStart fun desk =>
      let climbed := climb stairs startTick ticksPerBeat count 1 count desk.state
      (climbed.1, { desk with state := climbed.2 })) := by
    intro stairs count d here
    refine ⟨fun journal => ?_⟩
    rw [Act.start_ofStart]
    have there := climb_kept kept here stairs startTick ticksPerBeat count count 1
    generalize climb stairs startTick ticksPerBeat count 1 count d = climbed at there ⊢
    obtain ⟨outcome, e⟩ := climbed
    cases outcome with
    | ok => exact there
    | error => exact there
  unfold ritardando
  refine .state_bind fun d here => ?_
  refine (Act.Keeps.lift _).bind (fun stairs => ?_) d here
  split
  · exact (climbs _ _).bind fun _ => (Act.Keeps.lift _).bind fun _ => (Act.Keeps.lift _).bind
      fun _ => .report _ _ _
  · exact .throw _

end Tempos

end Dynamics

/-! ## §3. Changes of tempo. -/

/-- A voice of which only the dynamics have moved, and those forward. -/
def Voice.Retimed (v w : Voice) : Prop :=
  ∃ d, w = { v with dynamics := d } ∧ d.Forward v.dynamics.initialBpm

section Moves

variable {γ : Type} {I : Player γ → Prop} {v : Voice}

namespace Play

theorem keeps_voice : Act.Keeps I (voice : Play γ Voice) :=
  .state_bind fun _ here => (Act.ensures_pure _).2 here

theorem keeps_requireOpen : Act.Keeps I (requireOpen : Play γ Unit) := by
  unfold requireOpen
  refine .bind keeps_voice fun v => ?_
  split
  · exact .throw _
  · exact .pure _

theorem keeps_requireMaster : Act.Keeps I (requireMaster : Play γ Unit) := by
  unfold requireMaster
  refine .bind keeps_voice fun v => ?_
  split
  · exact .throw _
  · exact .pure _

end Play

/-- A change of tempo, at once or step by step. -/
def Move.isTempo : Move → Bool
  | .tempo .. | .rit .. => true
  | _ => false

variable [ChanceSource γ]

/-- Changes of tempo touch nothing but the dynamics, and those as `setTempo` does. -/
theorem Move.keeps_tempo {J : Dynamics Datum → Prop} (kept : Dynamics.KeptByTempos J)
    (inner : ∀ p : Player γ, I p → J p.voice.dynamics)
    (outer : ∀ (p : Player γ) d, I p → J d → I { p with voice := { p.voice with dynamics := d } })
    {m : Move} (tempo : m.isTempo = true) : Act.Keeps I m.act := by
  have dynamics : ∀ act : Act (Dynamics Datum) Unit, Act.Keeps J act →
      Act.Keeps I (Play.onDynamics act) := fun act h => h.onPart inner outer
  cases m with
  | tempo bpm tick =>
    show Act.Keeps I (Play.tempo bpm tick)
    unfold Play.tempo
    exact .bind Play.keeps_requireOpen fun _ => .bind Play.keeps_requireMaster fun _ =>
      .bind Play.keeps_voice fun _ => dynamics _ (Dynamics.keeps_tempo kept _ _)
  | rit factor measures shape =>
    show Act.Keeps I (Play.rit factor measures shape)
    unfold Play.rit
    exact .bind Play.keeps_requireOpen fun _ => .bind Play.keeps_requireMaster fun _ =>
      .bind (.lift _) fun _ => .bind Play.keeps_voice fun _ => .bind (.lift _) fun _ =>
        dynamics _ (Dynamics.keeps_ritardando kept _ _ _ _ _)
  | _ => cases tempo

theorem Move.keeps_retimed {m : Move} (tempo : m.isTempo = true) :
    Act.Keeps (fun p : Player γ => v.Retimed p.voice) m.act := by
  refine keeps_tempo (Dynamics.keptByTempos_forward v.dynamics.initialBpm) ?_ ?_ tempo
  · rintro p ⟨d, same, forward⟩
    rw [same]
    exact forward
  · rintro p e ⟨d, same, -⟩ forward
    refine ⟨e, ?_, forward⟩
    show { p.voice with dynamics := e } = _
    rw [same]

/-- Changes of tempo of a master alone, whether they go well or fail, touch nothing but the
dynamics. -/
theorem Session.run_retimed {desk : Desk (Band γ)} {moves : List Move}
    (tempos : ∀ m ∈ moves, m.isTempo = true) (alone : desk.state.auxiliaries = [])
    (retimed : v.Retimed desk.state.master) :
    let now := run (moves.map (.move .master)) desk
    now.state.auxiliaries = [] ∧ v.Retimed now.state.master := by
  induction moves generalizing desk with
  | nil => exact ⟨alone, retimed⟩
  | cons m moves ih =>
    have keeps : Act.Keeps (fun b : Band γ => b.auxiliaries = [] ∧ v.Retimed b.master)
        (Call.perform (.move .master m)) := by
      intro b here
      refine Perform.ensures_on (fun _ _ => here) fun w plays => ?_
      cases plays
      refine (Move.keeps_retimed (tempos m List.mem_cons_self) _ here.2).mono ?_ ?_
      · exact fun _ _ moved => ⟨here.1, moved⟩
      · exact fun _ _ moved => ⟨here.1, moved⟩
    have contract := keeps desk.state ⟨alone, retimed⟩
    obtain ⟨alone, retimed⟩ : _ ∧ _ := by
      cases outcome : ((Call.perform (.move .master m)).start desk).1 with
      | ok _ => exact contract.of_ok outcome
      | error f => exact contract.of_error outcome
    exact ih (fun m' here => tempos m' (List.mem_cons_of_mem _ here)) alone retimed

end Moves
end Plectrum
