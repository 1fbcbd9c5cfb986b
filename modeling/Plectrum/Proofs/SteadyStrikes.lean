/-
  Plectrum.Proofs.SteadyStrikes
  ─────────────────────────────
  **Without a spread of time, strikes land on the ticks that they are written at.**

  A strike is never played before a strike that was written before it.  This delays strikes only
  where written times stray.  Where they do not, a strike is played no later than any tick from the
  start on that it is not written beyond, and so it holds no later strike back: a strike written at
  a whole tick is played at that tick, whatever was played before.

  Main results:
    * `LastStrike.Inert.landing` — where a strike lands that is written at a whole tick;
    * `Session.throughout_even` — at every point of every session, the last strikes of voices
      without a spread of time hold nothing back, and whole resolutions make whole measures;
    * `Play.start_humanize_steady` — so what was played before does not matter to a strike.
-/
import Plectrum.Proofs.ClockAccount
import Plectrum.Proofs.Untimed

namespace Plectrum

/-! ## §1. The order of times. -/

/-- A whole number is its own nearest one. -/
theorem nearestInt_intCast (n : Int) : nearestInt (n : Rat) = n := by
  unfold nearestInt
  rw [Rat.num_intCast, Rat.den_intCast, nearestQuotient_one]
  dsimp only
  split <;> omega

namespace Quantity

/-- One number is at most another if both have a place, and the places are not the other way. -/
theorem le_iff {a b : Quantity} :
    a.le b = true ↔ ∃ p q, a.place? = some p ∧ b.place? = some q ∧ q.lt p = false := by
  unfold le
  cases a.place? with
  | none => simp
  | some p =>
    cases b.place? with
    | none => simp
    | some q => simp

theorem Place.lt_of_lt {p q r : Place} (first : q.lt p = false) (rest : r.lt q = false) :
    r.lt p = false := by
  cases p <;> cases q <;> cases r <;> simp_all [Place.lt]
  exact le_trans first rest

theorem le_of_le {a b c : Quantity} (first : a.le b = true) (rest : b.le c = true) :
    a.le c = true := by
  obtain ⟨p, q, hp, hq, apart⟩ := le_iff.1 first
  obtain ⟨q', r, hq', hr, apart'⟩ := le_iff.1 rest
  cases hq.symm.trans hq'
  exact le_iff.2 ⟨p, r, hp, hr, Place.lt_of_lt apart apart'⟩

/-- A time at a place is at most a whole tick if the place is. -/
theorem le_whole_iff {q : Quantity} {r : Rat} (place : q.place? = some (.value r)) {m : Int} :
    q.le (.whole m) = true ↔ r ≤ m := by
  unfold le
  rw [place]
  show (!decide ((m : Rat) < r)) = true ↔ r ≤ m
  rw [Bool.not_eq_true', decide_eq_false_iff_not, not_lt]

/-- Zero of any kind is less than what is above it. -/
theorem lt_whole_of_isZero {q : Quantity} (zero : q.isZero = true) {n : Int} (above : 0 < n) :
    q.lt (.whole n) = true := by
  unfold isZero same at zero
  unfold lt
  cases place : q.place? with
  | none =>
    rw [place] at zero
    cases zero
  | some here =>
    rw [place] at zero
    obtain rfl : here = .value (0 : Int) := eq_of_beq zero
    exact decide_eq_true (Int.cast_lt.2 above)

/-- Rounding takes no time beyond a tick that it has not passed. -/
theorem nearest_le {q : Quantity} {n m : Int} (rounds : q.nearest = .ok n) (start : 0 ≤ m)
    (within : q.le (.whole m) = true) : n ≤ m := by
  cases q with
  | whole k =>
    cases rounds
    rw [le_whole_iff rfl] at within
    exact_mod_cast within
  | truth b =>
    cases rounds
    rw [le_whole_iff rfl] at within
    exact_mod_cast within
  | ratio r =>
    cases rounds
    rw [le_whole_iff rfl] at within
    exact nearestInt_le start within
  | float x =>
    cases x with
    | finite negative units =>
      cases rounds
      split
      · -- What is rounded from below the start stays there.
        omega
      · next forward =>
        rw [le_whole_iff (place_finite negative units)] at within
        obtain ⟨k, rfl⟩ := Int.eq_ofNat_of_zero_le start
        have sign : negative = false := Bool.not_eq_true _ ▸ forward
        subst sign
        have bound : (units : Int) ≤ (k : Int) * Binary64.unitsPerOne := by
          by_contra beyond
          exact absurd within (not_le.2 (Binary64.lt_mkRat_units.2 (Int.not_le.1 beyond)))
        exact_mod_cast nearestQuotient_le (Int.ofNat_le.1 (by exact_mod_cast bound))
    | infinite negative => cases rounds
    | nan => cases rounds

end Quantity

/-! ## §2. Strikes that hold nothing back. -/

/-- A last strike that holds no later strike back: it was played no later than any tick, from the
start on, that it was not written beyond. -/
def LastStrike.Inert (last : LastStrike) : Prop :=
  ∀ m : Int, 0 ≤ m → last.nominal.le (.whole m) = true → last.tick ≤ m

namespace LastStrike

variable {last : LastStrike} {nominal : Quantity} {tick n : Int}

/-- A strike that does not stray is inert, if the one before it was. -/
theorem Inert.next (inert : last.Inert) (lands : last.landing nominal nominal = .ok tick) :
    (⟨nominal, tick⟩ : LastStrike).Inert := by
  unfold landing at lands
  obtain ⟨rounded, rounds, landed⟩ := bind_ok lands
  intro m start within
  change nominal.le (.whole m) = true at within
  show tick ≤ m
  have near := Quantity.nearest_le rounds start within
  have played := Except.ok.inj landed
  split at played
  · next after =>
    -- The strike before it had not been written beyond this tick either.
    have before := inert m start (Quantity.le_of_le after within)
    omega
  · omega

/-- After an inert strike, a strike written at a whole tick is played there, or at the start. -/
theorem Inert.landing (inert : last.Inert) (stands : nominal.StandsAt n) :
    last.landing nominal nominal = .ok (max 0 n) := by
  have rounds : nominal.nearest = .ok n := by
    rcases stands with rfl | ⟨k, rfl, same⟩
    · exact congrArg Except.ok (nearestInt_intCast n)
    · exact congrArg Except.ok (Int.cast_injective same.symm)
  have within : nominal.le (.whole (max 0 n)) = true :=
    (Quantity.le_whole_iff stands.place).2 (Int.cast_le.2 (le_max_right 0 n))
  unfold LastStrike.landing
  rw [rounds]
  show Except.ok (if last.nominal.le nominal then max (max 0 n) last.tick else max 0 n) = _
  split
  · next after =>
    have before := inert _ (le_max_left 0 n) (Quantity.le_of_le after within)
    rw [max_eq_left before]
  · rfl

/-- A strike that was written at a whole tick and played there, or at the start, is inert. -/
theorem inert_of_standsAt (stands : nominal.StandsAt n) :
    (⟨nominal, max 0 n⟩ : LastStrike).Inert := by
  intro m start within
  have place : (n : Rat) ≤ m := (Quantity.le_whole_iff stands.place).1 within
  exact max_le start (Int.cast_le.1 place)

end LastStrike

/-! ## §3. Sessions. -/

/-- What becomes of a voice on which strikes are played: its settings and the ticks of its measures
stay, and without a spread of time its last strike stays inert. -/
structure Voice.PacedOn (v w : Voice) : Prop where
  config : w.config = v.config
  measure : w.measure = v.measure
  inert : v.config.timeSpread.isZero = true → v.lastStrike.Inert → w.lastStrike.Inert

theorem Voice.PacedOn.lasting {γ : Type} [ChanceSource γ] : Voice.Lasting γ PacedOn where
  trans h h' := by
    refine ⟨h'.config.trans h.config, h'.measure.trans h.measure, fun still inert => ?_⟩
    exact h'.inert (h.config.symm ▸ still) (h.inert still inert)
  quiet h := ⟨h.config, h.measure, fun _ inert => h.lastStrike.symm ▸ inert⟩
  onset {closes nominal v w} h := by
    have landed : ∀ tick, LandsOn γ v nominal tick → v.config.timeSpread.isZero = true →
        v.lastStrike.Inert → (⟨nominal, tick⟩ : LastStrike).Inert := by
      rintro tick ⟨shifted, shifts, lands⟩ still inert
      unfold ShiftsTo at shifts
      rw [if_pos still] at shifts
      exact inert.next (shifts ▸ lands)
    cases h with
    | landed lands => exact ⟨rfl, rfl, landed _ lands⟩
    | struck d lands _ _ => exact ⟨rfl, rfl, landed _ lands⟩
  note d _ := ⟨rfl, rfl, fun _ inert => inert⟩

/-- A voice in which time goes evenly: without a spread of time its last strike is inert, and with a
whole resolution its measures have the ticks of their beats. -/
structure Voice.Even (v : Voice) : Prop where
  inert : v.config.timeSpread.isZero = true → v.lastStrike.Inert
  measure : v.config.ticks.integer?.isSome = true →
    0 < v.config.beatTicks ∧ v.measure = .whole v.config.measureTicks

namespace Voice.Even

variable {v w : Voice}

theorem paced (h : v.Even) (paced : v.PacedOn w) : w.Even := by
  refine ⟨fun still => ?_, fun whole => ?_⟩
  · rw [paced.config] at still
    exact paced.inert still (h.inert still)
  · rw [paced.config] at whole ⊢
    obtain ⟨positive, measure⟩ := h.measure whole
    exact ⟨positive, paced.measure.trans measure⟩

theorem close (h : v.Even) : v.close.Even := ⟨h.inert, h.measure⟩

/-- A new voice has not been struck. -/
theorem of_new (new : v.New) : v.Even := by
  obtain ⟨options, accepted, -, fresh⟩ := new.fresh
  refine ⟨fun _ => ?_, fun whole => ?_⟩
  · rw [fresh.lastStrike]
    exact fun m start _ => start
  · have resolution := Config.resolution_of_whole whole
    have positive := (Config.ofOptions_inBounds options _ accepted).ticks
    have measure := fresh.measure
    unfold Config.ticksPerMeasure at measure
    rw [Quantity.mul_of_integer rfl resolution] at measure
    exact ⟨Quantity.pos_of_integer resolution positive, (Except.ok.inj measure).symm⟩

end Voice.Even

/-- Time goes evenly in every voice at every point of every session. -/
theorem Session.throughout_even {γ : Type} [ChanceSource γ] {band : Band γ}
    (created : band.Created) (calls : List Call) (journal : Journal) :
    (run calls ⟨band, journal⟩).state.Throughout Voice.Even := by
  have keeps : ∀ m : Move, True → ∀ p : Player γ, p.voice.Even →
      m.act.Ensures p (fun _ q => q.voice.Even) fun _ q => q.voice.Even := by
    intro m _ p here
    refine (m.ensures_lasting Voice.PacedOn.lasting p).mono ?_ ?_
    · exact fun _ _ paced => here.paced paced
    · exact fun _ _ paced => here.paced paced
  exact .run_kept (fun _ new => .of_new new) (fun _ here => here.close) keeps
    (fun _ _ _ => True.intro) (created.throughout fun _ new => .of_new new)

/-! ## §4. Steady players. -/

namespace Play

variable {γ : Type} [ChanceSource γ] {desk : Desk (Player γ)} {nominal : Quantity} {n : Int}

/-- A desk whose voice has been struck at a tick. -/
abbrev landedAt (desk : Desk (Player γ)) (nominal : Quantity) (tick : Int) : Desk (Player γ) :=
  ⟨{ desk.state with voice := desk.state.voice.struckAt nominal tick }, desk.journal⟩

/-- Without a spread of velocities none is drawn. -/
theorem start_jitter_steady (steady : desk.state.voice.config.IsSteady) :
    (jitter : Play γ Binary64).start desk = (.ok .zero, desk) := by
  unfold jitter
  show (if desk.state.voice.config.volumeSpread.isZero then pure .zero
    else draw desk.state.voice.config.volumeSpread : Play γ Binary64).start desk = _
  rw [if_pos steady.2]
  rfl

/-- Without a spread of time, a strike is played where it lands when it does not stray. -/
theorem start_humanize_landing {tick : Int} (steady : desk.state.voice.config.IsSteady)
    (lands : desk.state.voice.lastStrike.landing nominal nominal = .ok tick) :
    (humanize nominal : Play γ Int).start desk = (.ok tick, landedAt desk nominal tick) := by
  have shifts : (shift nominal : Play γ Quantity).start desk = (.ok nominal, desk) := by
    unfold shift
    show (if desk.state.voice.config.timeSpread.isZero then pure nominal else _ :
      Play γ Quantity).start desk = _
    rw [if_pos steady.1]
    rfl
  unfold humanize
  rw [Act.start_bind, shifts]
  show (liftM (desk.state.voice.lastStrike.landing nominal nominal) >>= _ :
    Play γ Int).start desk = _
  rw [Act.start_bind, Act.start_lift, lands]
  rfl

/-- Without a spread of time, a strike written at a whole tick after an inert one is played there,
or at the start. -/
theorem start_humanize_steady (steady : desk.state.voice.config.IsSteady)
    (inert : desk.state.voice.lastStrike.Inert) (stands : nominal.StandsAt n) :
    (humanize nominal : Play γ Int).start desk =
      (.ok (max 0 n), landedAt desk nominal (max 0 n)) :=
  start_humanize_landing steady (inert.landing stands)

end Play
end Plectrum
