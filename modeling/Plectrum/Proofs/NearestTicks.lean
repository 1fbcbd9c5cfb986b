/-
  Plectrum.Proofs.NearestTicks
  ────────────────────────────
  **The nearest tick moves with the time, if the time moves by an even number of ticks.**

  A time is played at the nearest whole tick, and a time halfway between two ticks at the even one.
  So the tick is known by where it lies, whatever kind of number the time is.  It does not go back
  when the time goes on.  An even number of ticks takes it along, while an odd one turns the choice
  at a half around.

  This is why without a spread of time no strike is ever held back: a strike that was written no
  later was rounded to no later tick.

  Main results:
    * `IsNearest.unique` — of two whole numbers, one is not the nearest one;
    * `nearestInt_add_even` — an even number of ticks takes the nearest tick along;
    * `Session.throughout_prompt` — at every point of every session, the last strikes of voices
      without a spread of time hold no strike back.
-/
import Plectrum.Proofs.SteadyStrikes

namespace Plectrum

/-! ## §1. The nearest whole number. -/

/-- A whole number to which no other one is nearer, and which is even if another one is as near. -/
structure IsNearest (r : Rat) (n : Int) : Prop where
  low : 2 * (n : Rat) - 1 ≤ 2 * r
  high : 2 * r ≤ 2 * n + 1
  even : 2 * r = 2 * n - 1 ∨ 2 * r = 2 * n + 1 → Even n

namespace IsNearest

variable {r s : Rat} {n m : Int}

theorem unique (h : IsNearest r n) (h' : IsNearest r m) : n = m := by
  have upper : n - m ≤ 1 := by
    have apart : ((n - m : Int) : Rat) ≤ 1 := by
      push_cast
      linarith [h.low, h'.high]
    exact_mod_cast apart
  have lower : m - n ≤ 1 := by
    have apart : ((m - n : Int) : Rat) ≤ 1 := by
      push_cast
      linarith [h'.low, h.high]
    exact_mod_cast apart
  by_contra other
  -- Neighbours that are both nearest share a half, and one of them is odd.
  have neighbours : n = m + 1 ∨ m = n + 1 := by omega
  rcases neighbours with rfl | rfl
  · have high := h'.high
    have low := h.low
    push_cast at low
    have half : 2 * r = 2 * m + 1 := by linarith
    have even := h'.even (.inr half)
    have even' := h.even (.inl (by push_cast; linarith))
    exact Int.not_even_iff_odd.2 even.add_one even'
  · have high := h.high
    have low := h'.low
    push_cast at low
    have half : 2 * r = 2 * n + 1 := by linarith
    have even := h.even (.inr half)
    have even' := h'.even (.inl (by push_cast; linarith))
    exact Int.not_even_iff_odd.2 even.add_one even'

theorem neg (h : IsNearest r n) : IsNearest (-r) (-n) := by
  refine ⟨?_, ?_, fun half => ?_⟩
  · push_cast
    linarith [h.high]
  · push_cast
    linarith [h.low]
  · push_cast at half
    refine (h.even ?_).neg
    rcases half with half | half
    · exact .inr (by linarith)
    · exact .inl (by linarith)

/-- An even number takes the nearest whole number along. -/
theorem add_even (h : IsNearest r n) {d : Int} (even : Even d) : IsNearest (r + d) (n + d) := by
  refine ⟨?_, ?_, fun half => ?_⟩
  · push_cast
    linarith [h.low]
  · push_cast
    linarith [h.high]
  · push_cast at half
    refine (h.even ?_).add even
    rcases half with half | half
    · exact .inl (by linarith)
    · exact .inr (by linarith)

/-- The nearest whole number goes on with what is rounded. -/
theorem mono (h : IsNearest r n) (h' : IsNearest s m) (le : r ≤ s) : n ≤ m := by
  by_contra back
  have apart : ((m + 1 : Int) : Rat) ≤ n := Int.cast_le.2 (by omega)
  push_cast at apart
  have same : r = s := by linarith [h.low, h'.high]
  subst same
  exact back (h.unique h').le

end IsNearest

/-- For a quotient these are conditions on whole numbers. -/
theorem IsNearest.of_quotient {n k : Int} {d : Nat} (positive : 0 < d)
    (low : (2 * k - 1) * d ≤ 2 * n) (high : 2 * n ≤ (2 * k + 1) * d)
    (even : 2 * n = (2 * k - 1) * d ∨ 2 * n = (2 * k + 1) * d → Even k) :
    IsNearest ((n : Rat) / d) k := by
  have above : (0 : Rat) < d := Nat.cast_pos.2 positive
  have twice : 2 * ((n : Rat) / d) = ((2 * n : Int) : Rat) / d := by
    push_cast
    ring
  refine ⟨?_, ?_, fun half => even ?_⟩
  · rw [twice, le_div_iff₀ above]
    exact_mod_cast low
  · rw [twice, div_le_iff₀ above]
    exact_mod_cast high
  · rw [twice, div_eq_iff above.ne', div_eq_iff above.ne'] at half
    exact_mod_cast half

/-- A quotient is rounded to the nearest whole number. -/
theorem nearestQuotient_isNearest (n : Nat) {d : Nat} (positive : 0 < d) :
    IsNearest (((n : Int) : Rat) / d) (nearestQuotient n d : Int) := by
  have parts : d * (n / d) + n % d = n := Nat.div_add_mod n d
  have rest : n % d < d := Nat.mod_lt n positive
  unfold nearestQuotient
  dsimp only
  generalize n / d = q at parts
  generalize n % d = r at parts rest
  have whole : (n : Int) = d * q + r := by exact_mod_cast parts.symm
  have below : (2 * (q : Int) - 1) * d = 2 * (d * q) - d := by ring
  have above : (2 * (q : Int) + 1) * d = 2 * (d * q) + d := by ring
  have next : (2 * ((q + 1 : Nat) : Int) - 1) * d = 2 * (d * q) + d := by
    push_cast
    ring
  have beyond : (2 * ((q + 1 : Nat) : Int) + 1) * d = 2 * (d * q) + 3 * d := by
    push_cast
    ring
  split
  · exact .of_quotient positive (by omega) (by omega) fun half => by omega
  · split
    · exact .of_quotient positive (by omega) (by omega) fun half => by omega
    · -- Both neighbours are as near.
      split
      · next isEven =>
        refine .of_quotient positive (by omega) (by omega) fun _ => ?_
        exact_mod_cast Nat.even_iff.2 isEven
      · next odd =>
        refine .of_quotient positive (by omega) (by omega) fun _ => ?_
        have even : Even (q + 1) := Nat.even_iff.2 (by omega)
        exact_mod_cast even

/-- What is rounded with its sign is rounded to the nearest whole number. -/
theorem signed_isNearest (negative : Bool) (n : Nat) {d : Nat} (positive : 0 < d) :
    IsNearest (((Binary64.signedUnits negative n : Int) : Rat) / d)
      (if negative then -(nearestQuotient n d : Int) else nearestQuotient n d) := by
  have near := nearestQuotient_isNearest n positive
  cases negative with
  | false => exact near
  | true =>
    have sign : ((Binary64.signedUnits true n : Int) : Rat) / d = -(((n : Int) : Rat) / d) := by
      show ((-(n : Int) : Int) : Rat) / d = _
      push_cast
      ring
    rw [sign]
    exact near.neg

theorem nearestInt_isNearest (r : Rat) : IsNearest r (nearestInt r) := by
  have sign : Binary64.signedUnits (decide (r.num < 0)) r.num.natAbs = r.num := by
    unfold Binary64.signedUnits
    split
    · next below =>
      have below := of_decide_eq_true below
      omega
    · next start =>
      have start := of_decide_eq_false (Bool.not_eq_true _ ▸ start)
      omega
  have near := signed_isNearest (decide (r.num < 0)) r.num.natAbs r.den_pos
  rw [sign, Rat.num_div_den] at near
  unfold nearestInt
  simpa only [decide_eq_true_eq] using near

theorem isNearest_intCast (n : Int) : IsNearest (n : Rat) n := by
  have near := nearestInt_isNearest n
  rwa [nearestInt_intCast] at near

/-- An even number of ticks takes the nearest tick along. -/
theorem nearestInt_add_even (r : Rat) {d : Int} (even : Even d) :
    nearestInt (r + d) = nearestInt r + d :=
  (nearestInt_isNearest _).unique ((nearestInt_isNearest r).add_even even)

/-- The nearest tick does not depend on the kind of number that a time is. -/
theorem Quantity.nearest_isNearest {q : Quantity} {n : Int} (rounds : q.nearest = .ok n) :
    ∃ r, q.place? = some (.value r) ∧ IsNearest r n := by
  cases q with
  | whole k =>
    cases rounds
    exact ⟨_, rfl, isNearest_intCast n⟩
  | truth b =>
    cases rounds
    exact ⟨_, rfl, isNearest_intCast _⟩
  | ratio r =>
    cases rounds
    exact ⟨r, rfl, nearestInt_isNearest r⟩
  | float x =>
    cases x with
    | finite negative units =>
      cases rounds
      refine ⟨_, rfl, ?_⟩
      rw [Rat.mkRat_eq_div]
      exact signed_isNearest negative units (twoTo_pos 1074)
    | infinite negative => cases rounds
    | nan => cases rounds

/-- A later time is not rounded to an earlier tick. -/
theorem Quantity.nearest_mono {p q : Quantity} {n m : Int} (le : p.le q = true)
    (rounds : p.nearest = .ok n) (rounds' : q.nearest = .ok m) : n ≤ m := by
  obtain ⟨r, place, near⟩ := nearest_isNearest rounds
  obtain ⟨s, place', near'⟩ := nearest_isNearest rounds'
  obtain ⟨_, _, here, there, ordered⟩ := le_iff.1 le
  cases place.symm.trans here
  cases place'.symm.trans there
  exact near.mono near' (not_lt.1 (of_decide_eq_false ordered))

/-! ## §2. Strikes that hold no strike back. -/

/-- A last strike that holds no later strike back: it was played no later than any tick, from the
start on, to which a time is rounded that it was not written beyond. -/
def LastStrike.Prompt (last : LastStrike) : Prop :=
  ∀ (q : Quantity) (n : Int), last.nominal.le q = true → q.nearest = .ok n → last.tick ≤ max 0 n

namespace LastStrike

variable {last : LastStrike} {nominal : Quantity} {tick n : Int}

/-- After it, a strike that does not stray is played at the nearest tick, or at the start. -/
theorem Prompt.landing (prompt : last.Prompt) (rounds : nominal.nearest = .ok n) :
    last.landing nominal nominal = .ok (max 0 n) := by
  unfold LastStrike.landing
  rw [rounds]
  show Except.ok (if last.nominal.le nominal then max (max 0 n) last.tick else max 0 n) = _
  split
  · next after => rw [max_eq_left (prompt nominal n after rounds)]
  · rfl

/-- A strike that is played at the nearest tick, or at the start, holds no strike back. -/
theorem prompt_of_nearest (rounds : nominal.nearest = .ok n) :
    (⟨nominal, max 0 n⟩ : LastStrike).Prompt :=
  fun _ _ later rounds' => max_le_max (le_refl 0) (Quantity.nearest_mono later rounds rounds')

/-- So one strike after the other holds no strike back. -/
theorem Prompt.next (prompt : last.Prompt) (lands : last.landing nominal nominal = .ok tick) :
    (⟨nominal, tick⟩ : LastStrike).Prompt := by
  obtain ⟨n, rounds, -⟩ := bind_ok lands
  rw [prompt.landing rounds] at lands
  cases lands
  exact prompt_of_nearest rounds

end LastStrike

/-! ## §3. Sessions. -/

/-- What becomes of a voice on which strikes are played: without a spread of time its last strike
holds no strike back, if it did not before. -/
structure Voice.PromptOn (v w : Voice) : Prop where
  config : w.config = v.config
  prompt : v.config.timeSpread.isZero = true → v.lastStrike.Prompt → w.lastStrike.Prompt

theorem Voice.PromptOn.lasting {γ : Type} [ChanceSource γ] : Voice.Lasting γ PromptOn where
  trans h h' :=
    ⟨h'.config.trans h.config, fun still prompt => h'.prompt (h.config.symm ▸ still)
      (h.prompt still prompt)⟩
  quiet h := ⟨h.config, fun _ prompt => h.lastStrike.symm ▸ prompt⟩
  onset {closes nominal v w} h := by
    have landed : ∀ tick, LandsOn γ v nominal tick → v.config.timeSpread.isZero = true →
        v.lastStrike.Prompt → (⟨nominal, tick⟩ : LastStrike).Prompt := by
      rintro tick ⟨shifted, shifts, lands⟩ still prompt
      unfold ShiftsTo at shifts
      rw [if_pos still] at shifts
      exact prompt.next (shifts ▸ lands)
    cases h with
    | landed lands => exact ⟨rfl, landed _ lands⟩
    | struck d lands _ _ => exact ⟨rfl, landed _ lands⟩
  note d _ := ⟨rfl, fun _ prompt => prompt⟩

/-- A voice that holds no strike back, if it has no spread of time. -/
def Voice.Prompt (v : Voice) : Prop := v.config.timeSpread.isZero = true → v.lastStrike.Prompt

/-- No voice without a spread of time holds a strike back at any point of any session. -/
theorem Session.throughout_prompt {γ : Type} [ChanceSource γ] {band : Band γ}
    (created : band.Created) (calls : List Call) (journal : Journal) :
    (run calls ⟨band, journal⟩).state.Throughout Voice.Prompt := by
  have fresh : ∀ v : Voice, v.New → v.Prompt := by
    intro v new _
    obtain ⟨options, accepted, -, fresh⟩ := new.fresh
    rw [fresh.lastStrike]
    exact fun _ n _ _ => le_max_left 0 n
  have keeps : ∀ m : Move, True → ∀ p : Player γ, p.voice.Prompt →
      m.act.Ensures p (fun _ q => q.voice.Prompt) fun _ q => q.voice.Prompt := by
    intro m _ p here
    have kept : ∀ q : Player γ, p.voice.PromptOn q.voice → q.voice.Prompt := by
      intro q promptOn still
      rw [promptOn.config] at still
      exact promptOn.prompt still (here still)
    exact (m.ensures_lasting Voice.PromptOn.lasting p).mono (fun _ q => kept q) fun _ q => kept q
  exact .run_kept fresh (fun _ here => here) keeps (fun _ _ _ => True.intro)
    (created.throughout fresh)

end Plectrum
