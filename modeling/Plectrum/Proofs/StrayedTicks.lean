/-
  Plectrum.Proofs.StrayedTicks
  ────────────────────────────
  **Strikes that stray stay near, and stay in order.**

  A strike is played at the tick nearest to where it strays to, or later: it waits for the strike
  before it, unless it was written before that one.  So it waits for a strike that was written no
  later than itself, and that was near its own time; what is near is handed on from strike to
  strike, through steps back and the start of time.

  Sums are exact here.  The doubles of a performance round them, and where they happen not to, the
  performance lands on the ticks that are found here.

  Main results:
    * `LastStrike.Near.landing` — one strike lands near its time, and not before the last one;
    * `LastStrike.landings_near` — and so do strikes one after the other;
    * `Voice.strays_near` — so does what a new voice plays.
-/
import Plectrum.Proofs.NearestTicks

namespace Plectrum

/-! ## §1. Times that stray. -/

/-- A written time, and where it strays to. -/
structure StrayedTime where
  nominal : Quantity
  shifted : Quantity
  /-- The written time as a number. -/
  time : Rat
  stray : Rat
  written : nominal.place? = some (.value time)
  strayed : shifted.place? = some (.value (time + stray))

namespace StrayedTime

/-- A written time that strays by a number. -/
def exactly (nominal : Quantity) {time : Rat} (written : nominal.place? = some (.value time))
    (stray : Rat) : StrayedTime :=
  ⟨nominal, .ratio (time + stray), time, stray, written, rfl⟩

end StrayedTime

/-- What has a place among the numbers can be rounded. -/
theorem Quantity.exists_nearest {q : Quantity} {r : Rat} (place : q.place? = some (.value r)) :
    ∃ n, q.nearest = .ok n ∧ IsNearest r n := by
  have rounds : ∃ n, q.nearest = .ok n := by
    cases q with
    | whole n => exact ⟨n, rfl⟩
    | truth b => exact ⟨_, rfl⟩
    | ratio q => exact ⟨_, rfl⟩
    | float x =>
      cases x with
      | finite negative units => exact ⟨_, rfl⟩
      | infinite negative => cases negative <;> cases place
      | nan => cases place
  obtain ⟨n, rounds⟩ := rounds
  obtain ⟨s, place', near⟩ := nearest_isNearest rounds
  cases place.symm.trans place'
  exact ⟨n, rounds, near⟩

/-- Numbers at one place are rounded alike. -/
theorem Quantity.nearest_of_place {p q : Quantity} {r : Rat} (hp : p.place? = some (.value r))
    (hq : q.place? = some (.value r)) : p.nearest = q.nearest := by
  obtain ⟨n, rounds, near⟩ := exists_nearest hp
  obtain ⟨m, rounds', near'⟩ := exists_nearest hq
  rw [rounds, rounds', near.unique near']

/-! ## §2. One strike. -/

/-- A tick that is near a time: not further away than the spread and half a tick, but for the start
of time. -/
structure IsNear (spread time : Rat) (tick : Int) : Prop where
  start : 0 ≤ tick
  low : time - spread - 1 / 2 ≤ tick
  high : (tick : Rat) ≤ max 0 (time + spread + 1 / 2)

namespace LastStrike

variable {last : LastStrike} {spread before : Rat} {t : StrayedTime}

/-- A last strike that was written at a time, and played no further beyond it than strikes stray. -/
structure Near (last : LastStrike) (spread before : Rat) : Prop where
  written : last.nominal.place? = some (.value before)
  high : (last.tick : Rat) ≤ max 0 (before + spread + 1 / 2)

/-- Where a strike lands depends on the place that it strays to. -/
theorem landing_eq {n : Int} (written : last.nominal.place? = some (.value before))
    (rounds : t.shifted.nearest = .ok n) :
    last.landing t.nominal t.shifted =
      .ok (if before ≤ t.time then max (max 0 n) last.tick else max 0 n) := by
  have order : last.nominal.le t.nominal = decide (before ≤ t.time) := by
    unfold Quantity.le
    rw [written, t.written]
    show (!decide (t.time < before)) = _
    rw [← decide_not]
    exact decide_eq_decide.2 not_lt
  unfold landing
  rw [rounds, order]
  simp only [decide_eq_true_eq]
  rfl

/-- A strike lands near its time, and not before the last one if it was not written before it. -/
theorem Near.landing (near : last.Near spread before) (strays : |t.stray| ≤ spread) :
    ∃ tick, last.landing t.nominal t.shifted = .ok tick ∧ IsNear spread t.time tick ∧
      (before ≤ t.time → last.tick ≤ tick) := by
  obtain ⟨n, rounds, nearest⟩ := Quantity.exists_nearest t.strayed
  obtain ⟨below, above⟩ := abs_le.1 strays
  have low : t.time - spread - 1 / 2 ≤ n := by linarith [nearest.high]
  have high : (n : Rat) ≤ t.time + spread + 1 / 2 := by linarith [nearest.low]
  have own : IsNear spread t.time (max 0 n) := by
    refine ⟨le_max_left _ _, low.trans ?_, ?_⟩
    · exact_mod_cast le_max_right 0 n
    · rw [Int.cast_max, Int.cast_zero]
      exact max_le_max le_rfl high
  rw [landing_eq near.written rounds]
  split
  · next after =>
    refine ⟨_, rfl, ⟨?_, ?_, ?_⟩, fun _ => le_max_right _ _⟩
    · exact own.start.trans (le_max_left _ _)
    · exact own.low.trans (by exact_mod_cast le_max_left (max 0 n) last.tick)
    · -- The last strike was near a time that is no later.
      rw [Int.cast_max]
      refine max_le own.high (near.high.trans (max_le_max le_rfl ?_))
      linarith
  · next earlier => exact ⟨_, rfl, own, fun after => absurd after earlier⟩

/-- Without a spread a strike lands as if it did not stray. -/
theorem landing_still (strays : |t.stray| ≤ 0) :
    last.landing t.nominal t.shifted = last.landing t.nominal t.nominal := by
  have place := t.strayed
  rw [abs_nonpos_iff.1 strays, add_zero] at place
  unfold landing
  rw [Quantity.nearest_of_place place t.written]

/-! ## §3. Strikes one after the other. -/

/-- The ticks that strikes land on. -/
def landings : LastStrike → List StrayedTime → Except Fault (List Int)
  | _, [] => .ok []
  | last, t :: times => do
    let tick ← last.landing t.nominal t.shifted
    return tick :: (← landings ⟨t.nominal, tick⟩ times)

/-- The first strike lands after the last one, and the others after it. -/
theorem landings_cons_iff {times : List StrayedTime} {ticks : List Int} :
    last.landings (t :: times) = .ok ticks ↔ ∃ tick others,
      last.landing t.nominal t.shifted = .ok tick ∧
      landings ⟨t.nominal, tick⟩ times = .ok others ∧ ticks = tick :: others := by
  rw [landings]
  constructor
  · intro landed
    obtain ⟨tick, lands, landed⟩ := bind_ok landed
    obtain ⟨others, rest, same⟩ := bind_ok landed
    exact ⟨tick, others, lands, rest, (Except.ok.inj same).symm⟩
  · rintro ⟨tick, others, lands, rest, rfl⟩
    rw [lands]
    show (landings ⟨t.nominal, tick⟩ times >>= fun ticks => .ok (tick :: ticks)) = _
    rw [rest]
    rfl

/-- Strikes as they are written and played: the second one is not played before the first, unless
it is written before it. -/
def Onward (a b : Rat × Int) : Prop := a.1 ≤ b.1 → a.2 ≤ b.2

/-- Strikes land near their times, and each not before the one before it. -/
theorem landings_near {times : List StrayedTime} (strays : ∀ t ∈ times, |t.stray| ≤ spread)
    (near : last.Near spread before) :
    ∃ ticks, last.landings times = .ok ticks ∧
      List.Forall₂ (fun t tick => IsNear spread t.time tick) times ticks ∧
      ((before, last.tick) :: (times.map StrayedTime.time).zip ticks).IsChain Onward := by
  induction times generalizing last before with
  | nil => exact ⟨[], rfl, .nil, .singleton _⟩
  | cons t times ih =>
    obtain ⟨here, there⟩ := List.forall_mem_cons.1 strays
    obtain ⟨tick, lands, own, onward⟩ := near.landing here
    -- This strike is the last one for the others, and it is near its own time.
    have near' : Near ⟨t.nominal, tick⟩ spread t.time := ⟨t.written, own.high⟩
    obtain ⟨ticks, others, each, chain⟩ := ih there near'
    exact ⟨tick :: ticks, landings_cons_iff.2 ⟨tick, ticks, lands, others, rfl⟩, .cons own each,
      List.isChain_cons_cons.2 ⟨onward, chain⟩⟩

/-- Strays that no double is equal to. -/
example : (LastStrike.landings ⟨.whole 0, 0⟩
    [.exactly (.whole 5) rfl (5 / 3), .exactly (.whole 6) rfl (-5 / 3)]).toOption =
      some [7, 7] := by
  decide +kernel

/-- Where times do not go back, ticks do not. -/
theorem ordered_of_onward {strikes : List (Rat × Int)} (onward : strikes.IsChain Onward)
    (ordered : (strikes.map Prod.fst).Pairwise (· ≤ ·)) :
    (strikes.map Prod.snd).Pairwise (· ≤ ·) := by
  rw [← List.isChain_iff_pairwise, List.isChain_map] at ordered ⊢
  induction strikes with
  | nil => exact .nil
  | cons a strikes ih =>
    cases strikes with
    | nil => exact .singleton _
    | cons b strikes =>
      obtain ⟨first, rest⟩ := List.isChain_cons_cons.1 onward
      obtain ⟨le, others⟩ := List.isChain_cons_cons.1 ordered
      exact List.isChain_cons_cons.2 ⟨first le, ih rest others⟩

/-- Without a spread, strikes land on the nearest ticks, or at the start. -/
theorem landings_still {times : List StrayedTime} (strays : ∀ t ∈ times, |t.stray| ≤ 0)
    (prompt : last.Prompt) {ticks : List Int} (landed : last.landings times = .ok ticks) :
    List.Forall₂ (fun t tick => ∃ n, IsNearest (StrayedTime.time t) n ∧ tick = max 0 n)
      times ticks := by
  induction times generalizing last ticks with
  | nil =>
    cases landed
    exact .nil
  | cons t times ih =>
    obtain ⟨here, there⟩ := List.forall_mem_cons.1 strays
    obtain ⟨n, rounds, nearest⟩ := Quantity.exists_nearest t.written
    obtain ⟨tick, others, lands, rest, rfl⟩ := landings_cons_iff.1 landed
    rw [landing_still here, prompt.landing rounds] at lands
    cases lands
    exact .cons ⟨n, nearest, rfl⟩ (ih there (prompt_of_nearest rounds) rest)

end LastStrike

/-! ## §4. What is played. -/

namespace Play

/-- A player with draws that are settled. -/
abbrev scripted (v : Voice) (draws : Script) (journal : Journal) : Desk (Player Script) :=
  ⟨⟨v, some draws⟩, journal⟩

/-- Draws that are added to written times lead to where these stray to. -/
def Leads (times : List StrayedTime) (draws : Script) : Prop :=
  List.Forall₂ (fun t x => t.nominal.add (.float x) = .ok t.shifted) times draws

variable {v : Voice} {t : StrayedTime}

/-- A strike is played where it lands. -/
theorem start_humanize_of_shift (shifted : Quantity) {tick : Int} {draws rest : Script}
    {journal : Journal}
    (shifts : (shift t.nominal : Play Script Quantity).start (scripted v draws journal) =
      (.ok shifted, scripted v rest journal))
    (lands : v.lastStrike.landing t.nominal shifted = .ok tick) :
    (humanize t.nominal : Play Script Int).start (scripted v draws journal) =
      (.ok tick, scripted (v.struckAt t.nominal tick) rest journal) := by
  unfold humanize
  rw [Act.start_bind, shifts]
  show (liftM (v.lastStrike.landing t.nominal shifted) >>= _ :
    Play Script Int).start (scripted v rest journal) = _
  rw [Act.start_bind, Act.start_lift, lands]
  rfl

/-- A strike takes the first draw, or none if there is no spread. -/
theorem exists_humanized {draws : Script} (journal : Journal) {tick : Int}
    (leads : v.config.timeSpread.isZero = false →
      ∃ x rest, draws = x :: rest ∧ t.nominal.add (.float x) = .ok t.shifted)
    (still : v.config.timeSpread.isZero = true → |t.stray| ≤ 0)
    (lands : v.lastStrike.landing t.nominal t.shifted = .ok tick) :
    ∃ rest, (v.config.timeSpread.isZero = false → rest = draws.tail) ∧
      (humanize t.nominal : Play Script Int).start (scripted v draws journal) =
        (.ok tick, scripted (v.struckAt t.nominal tick) rest journal) := by
  cases steady : v.config.timeSpread.isZero with
  | true =>
    refine ⟨draws, nofun, start_humanize_of_shift t.nominal ?_ ?_⟩
    · unfold shift
      show (if v.config.timeSpread.isZero then pure t.nominal else _ :
        Play Script Quantity).start _ = _
      rw [if_pos steady]
      rfl
    · rw [← LastStrike.landing_still (still steady), lands]
  | false =>
    obtain ⟨x, rest, rfl, sum⟩ := leads steady
    refine ⟨rest, fun _ => rfl, start_humanize_of_shift t.shifted ?_ lands⟩
    unfold shift
    show (if v.config.timeSpread.isZero then pure t.nominal
      else draw v.config.timeSpread >>= fun x => liftM (t.nominal.add (.float x)) :
      Play Script Quantity).start _ = _
    rw [if_neg (Bool.eq_false_iff.1 steady), Act.start_bind]
    show (liftM (t.nominal.add (.float x)) : Play Script Quantity).start _ = _
    rw [Act.start_lift, sum]
    rfl

/-- Strikes one after the other are played where they land. -/
theorem humanized {times : List StrayedTime} {draws : Script} {journal : Journal}
    {ticks : List Int} (leads : v.config.timeSpread.isZero = false → Leads times draws)
    (still : v.config.timeSpread.isZero = true → ∀ t ∈ times, |t.stray| ≤ 0)
    (landed : v.lastStrike.landings times = .ok ticks) :
    (((times.map StrayedTime.nominal).mapM humanize : Play Script (List Int)).start
      (scripted v draws journal)).1 = .ok ticks := by
  induction times generalizing v draws ticks with
  | nil =>
    cases landed
    rfl
  | cons t times ih =>
    obtain ⟨tick, others, lands, landed', rfl⟩ := LastStrike.landings_cons_iff.1 landed
    have first : v.config.timeSpread.isZero = false →
        ∃ x rest, draws = x :: rest ∧ t.nominal.add (.float x) = .ok t.shifted := by
      intro stray
      cases leads stray with
      | cons sum _ => exact ⟨_, _, rfl, sum⟩
    obtain ⟨rest, follows, played⟩ :=
      exists_humanized journal first (fun steady => still steady t List.mem_cons_self) lands
    -- Without a spread no draw is taken, and the draws that are left do not matter.
    have later : (v.struckAt t.nominal tick).config.timeSpread.isZero = false →
        Leads times rest := by
      intro stray
      rw [follows stray]
      cases leads stray with
      | cons _ others => exact others
    have onwards := ih (v := v.struckAt t.nominal tick) later
      (fun steady t' here => still steady t' (List.mem_cons_of_mem _ here)) landed'
    rw [List.map_cons, List.mapM_cons, Act.start_bind, played]
    show (((times.map StrayedTime.nominal).mapM humanize >>= fun ticks => pure (tick :: ticks) :
      Play Script (List Int)).start (scripted (v.struckAt t.nominal tick) rest journal)).1 = _
    rw [Act.start_bind]
    revert onwards
    cases ((times.map StrayedTime.nominal).mapM humanize : Play Script (List Int)).start
      (scripted (v.struckAt t.nominal tick) rest journal) with
    | mk outcome after =>
      rintro ⟨⟩
      rfl

end Play

/-- Accepted settings have a spread of time that is a number. -/
theorem Config.InBounds.exists_spread {c : Config} (h : c.InBounds) :
    ∃ spread, c.timeSpread.place? = some (.value spread) ∧ 0 ≤ spread ∧ spread ≤ 10 := by
  have bounds := h.timeSpread
  unfold between at bounds
  rw [Bool.and_eq_true, Quantity.le_iff, Quantity.le_iff] at bounds
  obtain ⟨⟨_, place, ⟨⟩, here, low⟩, _, _, here', ⟨⟩, high⟩ := bounds
  cases here.symm.trans here'
  cases place with
  | bottom => cases low
  | top => cases high
  | value spread =>
    have low : ¬ spread < ((0 : Int) : Rat) := of_decide_eq_false low
    have high : ¬ ((10 : Int) : Rat) < spread := of_decide_eq_false high
    push_cast at low high
    exact ⟨spread, here, not_lt.1 low, not_lt.1 high⟩

theorem Quantity.isZero_of_place {q : Quantity} {r : Rat} (place : q.place? = some (.value r)) :
    q.isZero = decide (r = 0) := by
  unfold isZero same
  rw [place]
  show (Place.value r == Place.value ((0 : Int) : Rat)) = _
  rw [Int.cast_zero, Bool.eq_iff_iff, beq_iff_eq, decide_eq_true_eq, Place.value.injEq]

/-- Whatever is played on a new voice, each strike lands near its time, from the start of time on,
and no strike lands before the one before it unless it was written before that.  Without a spread
each lands on the nearest tick, or at the start.  A performance lands on the same ticks wherever its
sums are exact. -/
theorem Voice.strays_near {v : Voice} (new : v.New) :
    ∃ spread, v.config.timeSpread.place? = some (.value spread) ∧
      ∀ times : List StrayedTime, (∀ t ∈ times, |t.stray| ≤ spread) →
        ∃ ticks, v.lastStrike.landings times = .ok ticks ∧
          List.Forall₂ (fun t tick => IsNear spread t.time tick) times ticks ∧
          (∀ stretch, stretch <:+: (times.map StrayedTime.time).zip ticks →
            (stretch.map Prod.fst).Pairwise (· ≤ ·) → (stretch.map Prod.snd).Pairwise (· ≤ ·)) ∧
          (spread = 0 → List.Forall₂ (fun t tick =>
            ∃ n, IsNearest (StrayedTime.time t) n ∧ tick = max 0 n) times ticks) ∧
          ∀ draws journal, (spread ≠ 0 → Play.Leads times draws) →
            (((times.map StrayedTime.nominal).mapM Play.humanize : Play Script (List Int)).start
              (Play.scripted v draws journal)).1 = .ok ticks := by
  obtain ⟨options, accepted, -, fresh⟩ := new.fresh
  obtain ⟨spread, place, low, -⟩ :=
    (Config.ofOptions_inBounds options _ accepted).exists_spread
  have zero := Quantity.isZero_of_place place
  refine ⟨spread, place, fun times strays => ?_⟩
  have near : v.lastStrike.Near spread 0 := by
    rw [fresh.lastStrike]
    exact ⟨rfl, le_max_left _ _⟩
  have prompt : v.lastStrike.Prompt := by
    rw [fresh.lastStrike]
    exact fun _ n _ _ => le_max_left 0 n
  obtain ⟨ticks, landed, each, chain⟩ := LastStrike.landings_near strays near
  refine ⟨ticks, landed, each, fun stretch within => ?_, fun still => ?_, fun draws journal leads => ?_⟩
  · have onward := List.IsChain.infix chain.tail within
    exact LastStrike.ordered_of_onward onward
  · subst still
    exact LastStrike.landings_still strays prompt landed
  · refine Play.humanized (fun stray => leads ?_) (fun steady => ?_) landed
    · rw [zero] at stray
      exact of_decide_eq_false stray
    · rw [zero] at steady
      rwa [of_decide_eq_true steady] at strays

/-! ## §5. Three strikes. -/

/-- A new master of one string, with a spread of time of two ticks. -/
def looseStart : Except Fault (Desk (Band Script)) :=
  Session.begin [] [("strings", .list [.whole 40]), ("rtime", .whole 2)]

/-- Two strikes in order, of which the second strays to before the first, and one out of order. -/
def looseTimes : List StrayedTime :=
  [⟨.whole 10, .float (.ofQuotient 23 2), 10, 3 / 2, by decide +kernel, by decide +kernel⟩,
    ⟨.whole 11, .float (.ofInt 9), 11, -2, by decide +kernel, by decide +kernel⟩,
    ⟨.ratio (9 / 2), .float (.ofInt 5), 9 / 2, 1 / 2, by decide +kernel, by decide +kernel⟩]

def looseDraws : Script := [.ofQuotient 3 2, .ofInt (-2), .ofQuotient 1 2]

/-- The second strike waits for the first, and the third for none. -/
theorem loose_near :
    ∃ desk, looseStart = .ok desk ∧
      (((looseTimes.map StrayedTime.nominal).mapM Play.humanize : Play Script (List Int)).start
        (Play.scripted desk.state.master looseDraws desk.journal)).1 = .ok [12, 12, 5] ∧
      List.Forall₂ (fun t tick => IsNear 2 (StrayedTime.time t) tick) looseTimes [12, 12, 5] ∧
      ([12, 12] : List Int).Pairwise (· ≤ ·) := by
  have seen : (looseStart.toOption.map fun desk => desk.state.master.config.timeSpread.place?) =
      some (some (.value 2)) := by
    decide +kernel
  obtain ⟨desk, accepted, place⟩ := exists_ok_of_seen seen
  have new := (Session.begin_created _ _ desk accepted).new.1
  obtain ⟨spread, place', lands⟩ := Voice.strays_near new
  cases place.symm.trans place'
  have strays : ∀ t ∈ looseTimes, |t.stray| ≤ 2 := by decide +kernel
  obtain ⟨ticks, landed, near, ordered, -, played⟩ := lands looseTimes strays
  obtain ⟨-, -, -, fresh⟩ := new.fresh
  have computed : (LastStrike.landings ⟨.whole 0, 0⟩ looseTimes).toOption = some [12, 12, 5] := by
    decide +kernel
  rw [← fresh.lastStrike, landed] at computed
  cases computed
  have leads : Play.Leads looseTimes looseDraws :=
    .cons (ok_of_toOption (by decide +kernel)) (.cons (ok_of_toOption (by decide +kernel))
      (.cons (ok_of_toOption (by decide +kernel)) .nil))
  refine ⟨desk, accepted, played looseDraws desk.journal fun _ => leads, near, ?_⟩
  exact ordered [(10, 12), (11, 12)] ⟨[], [(9 / 2, 5)], rfl⟩ (by decide +kernel)

end Plectrum
