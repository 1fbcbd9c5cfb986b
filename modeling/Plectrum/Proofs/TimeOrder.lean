/-
  Plectrum.Proofs.TimeOrder
  ─────────────────────────
  **Music that is written in order is recorded in order.**

  A strike may stray in time, but not before the strike that was written before it.  So
  the events of a voice never go back if the written times do not.  Within a measure the
  written times climb towards the clock of the next measure, and a tab climbs from column
  to column; silence moves the clock on.  The played times have no such bound: a strike
  may stray beyond the clock that its measure ends at.
-/
import Plectrum.Proofs.Grids
import Plectrum.Proofs.Moves
import Plectrum.Proofs.Straying
import Plectrum.Proofs.Tracks

namespace Plectrum

/-! ## §1. Lists that climb. -/

/-- A list whose items never go back, from one place to the place of its last item. -/
inductive Climbs {α κ : Type} [LE κ] (stands : α → κ → Prop) : κ → List α → κ → Prop where
  | nil (a : κ) : Climbs stands a [] a
  | cons {a b c : κ} {x : α} {xs : List α} (here : stands x b) (after : a ≤ b)
      (rest : Climbs stands b xs c) : Climbs stands a (x :: xs) c

namespace Climbs

variable {α κ : Type} [Preorder κ] {stands : α → κ → Prop} {a b c : κ} {xs ys : List α}

theorem append (h : Climbs stands a xs b) (h' : Climbs stands b ys c) :
    Climbs stands a (xs ++ ys) c := by
  induction h with
  | nil => exact h'
  | cons here after _ ih => exact .cons here after (ih h')

/-- Items at one place stay there. -/
theorem level (all : ∀ x ∈ xs, stands x a) : Climbs stands a xs a := by
  induction xs with
  | nil => exact .nil a
  | cons x xs ih =>
    refine .cons (all x List.mem_cons_self) (le_refl a) (ih fun y inside => ?_)
    exact all y (List.mem_cons_of_mem _ inside)

/-- Items at a later place go there, if there are any. -/
theorem upTo (all : ∀ x ∈ xs, stands x b) (after : a ≤ b) :
    ∃ c, c ≤ b ∧ Climbs stands a xs c := by
  cases xs with
  | nil => exact ⟨a, after, .nil a⟩
  | cons x xs =>
    refine ⟨b, le_refl b, .cons (all x List.mem_cons_self) after ?_⟩
    exact level fun y inside => all y (List.mem_cons_of_mem _ inside)

/-- The last item stands at the end. -/
theorem getLast (h : Climbs stands a xs b) :
    (xs = [] ∧ b = a) ∨ ∃ x, xs.getLast? = some x ∧ stands x b := by
  induction h with
  | nil => exact .inl ⟨rfl, rfl⟩
  | @cons a b c x xs here _ _ ih =>
    obtain ⟨rfl, rfl⟩ | ⟨y, last, there⟩ := ih
    · exact .inr ⟨x, rfl, here⟩
    · refine .inr ⟨y, ?_, there⟩
      rw [List.getLast?_cons, last]
      rfl

end Climbs

/-- An event at a whole tick. -/
def Event.StandsAt (e : Event) (n : Int) : Prop := e.tick = .whole n

/-- A written time that is exact. -/
def Quantity.StandsAt (q : Quantity) (r : Rat) : Prop :=
  q = .ratio r ∨ ∃ n : Int, q = .whole n ∧ r = n

/-! ## §2. Rounding to a tick. -/

/-- Rounding does not pass a whole number. -/
theorem nearestQuotient_le {n d m : Nat} (within : n ≤ m * d) : nearestQuotient n d ≤ m := by
  rcases Nat.eq_zero_or_pos d with rfl | pos
  · rw [Nat.mul_zero, Nat.le_zero] at within
    subst within
    exact Nat.zero_le m
  · by_cases short : n / d < m
    · exact (nearestQuotient_le_succ n d).trans short
    · have full : m * d ≤ n := (Nat.le_div_iff_mul_le pos).1 (Nat.le_of_not_lt short)
      obtain rfl := Nat.le_antisymm within full
      unfold nearestQuotient
      rw [Nat.mul_mod_left]
      show (if 0 < d then m * d / d else _) ≤ m
      rw [if_pos pos, Nat.mul_div_cancel _ pos]

theorem nearestInt_le {q : Rat} {m : Int} (start : 0 ≤ m) (within : q ≤ m) : nearestInt q ≤ m := by
  unfold nearestInt
  dsimp only
  split
  · omega
  · next positive =>
    obtain ⟨k, rfl⟩ := Int.eq_ofNat_of_zero_le start
    have scaled : q.num ≤ k * q.den := by
      have bound := (Rat.le_iff _ _).1 within
      rwa [Rat.num_intCast, Rat.den_intCast, Nat.cast_one, mul_one] at bound
    have nat : q.num.natAbs ≤ k * q.den := by
      zify
      rwa [abs_of_nonneg (not_lt.1 positive)]
    exact_mod_cast nearestQuotient_le nat

namespace Quantity

variable {q : Quantity} {r : Rat}

theorem StandsAt.place (h : q.StandsAt r) : q.place? = some (.value r) := by
  rcases h with rfl | ⟨n, rfl, rfl⟩
  · rfl
  · rfl

/-- A time that has not reached a whole tick is not rounded beyond it. -/
theorem StandsAt.nearest_le (h : q.StandsAt r) {n m : Int} (rounds : q.nearest = .ok n)
    (start : 0 ≤ m) (within : r ≤ m) : n ≤ m := by
  rcases h with rfl | ⟨k, rfl, rfl⟩
  · cases rounds
    exact nearestInt_le start within
  · cases rounds
    exact_mod_cast within

theorem le_of_places {p q : Quantity} {a b : Rat} (hp : p.place? = some (.value a))
    (hq : q.place? = some (.value b)) (le : a ≤ b) : p.le q = true := by
  unfold Quantity.le
  rw [hp, hq]
  show (!decide (b < a)) = true
  rw [decide_eq_false (not_lt.2 le)]
  rfl

end Quantity

/-- A tick that no double exceeds. -/
def farthestTick : Nat := twoTo 1024

namespace Binary64

theorem unitsLimit_eq : unitsLimit = farthestTick * unitsPerOne := by
  unfold unitsLimit farthestTick unitsPerOne
  rw [← twoTo_add]

theorem rounded_lt_limit {sign negative : Bool} {n d units : Nat}
    (h : rounded sign n d = .finite negative units) : units < unitsLimit := by
  unfold rounded at h
  dsimp only at h
  split at h
  · next within =>
    injection h with _ same
    exact same ▸ within
  · cases h

theorem add_lt_limit {x y : Binary64} {negative : Bool} {units : Nat}
    (h : x.add y = .finite negative units) : units < unitsLimit := by
  unfold add at h
  split at h
  · dsimp only at h
    split at h
    · injection h with _ same
      exact same ▸ twoTo_pos _
    · exact rounded_lt_limit h
  · split at h <;> cases h
  all_goals cases h

/-- A sum rounds to no tick beyond the farthest. -/
theorem nearest_add_le {x y : Binary64} {n : Int}
    (rounds : Quantity.nearestOfFloat (x.add y) = .ok n) : n ≤ farthestTick := by
  cases sum : x.add y with
  | finite negative units =>
    have within : units ≤ farthestTick * unitsPerOne := unitsLimit_eq ▸ (add_lt_limit sum).le
    have bound := nearestQuotient_le within
    rw [sum] at rounds
    injection rounds with same
    subst same
    split
    · omega
    · exact_mod_cast bound
  | infinite negative =>
    rw [sum] at rounds
    cases rounds
  | nan =>
    rw [sum] at rounds
    cases rounds

end Binary64

/-! ## §3. Onsets. -/

theorem Bank.cutIf_standsAt (bank : Bank) (closes : Bool) (channel : Datum) (tick : Int)
    (index : Nat) : ∀ e ∈ bank.cutIf closes channel tick index, e.StandsAt tick := by
  unfold cutIf cut
  split
  · split
    · exact List.forall_mem_singleton.2 rfl
    · exact List.forall_mem_nil _
  · exact List.forall_mem_nil _

section Strikes

variable {config : Config} {tuning : Tuning} {tick : Int} {stray : Binary64} {closes : Bool}
variable {bank bank' : Bank} {es : List Event}

/-- All events of a strike at one tick are at that tick. -/
theorem Struck.standsAt
    (h : Struck config tuning tick stray closes bank es bank') : ∀ e ∈ es, e.StandsAt tick := by
  cases h with
  | muted index pitch =>
    refine List.forall_mem_append.2 ⟨bank.cutIf_standsAt closes _ tick index, ?_⟩
    split
    · exact List.forall_mem_nil _
    · exact List.forall_mem_singleton.2 rfl
  | sounded index pitch velocity =>
    refine List.forall_mem_append.2 ⟨bank.cutIf_standsAt closes _ tick index, ?_⟩
    exact List.forall_mem_singleton.2 rfl
  | strayedOut index pitch =>
    refine List.forall_mem_append.2 ⟨bank.cutIf_standsAt closes _ tick index, ?_⟩
    exact List.forall_mem_singleton.2 rfl

theorem Strikes.standsAt
    (h : Strikes config tuning tick stray closes bank es bank') : ∀ e ∈ es, e.StandsAt tick := by
  induction h with
  | nil => exact List.forall_mem_nil _
  | cons first _ ih => exact List.forall_mem_append.2 ⟨first.standsAt, ih⟩

end Strikes

/-- A landing that is not written before the last strike is not played before it either. -/
theorem LastStrike.landing_spec (last : LastStrike) (nominal shifted : Quantity) :
    Yields (last.landing nominal shifted) fun tick => ∃ n, shifted.nearest = .ok n ∧
      (last.nominal.le nominal = true → tick = max (max 0 n) last.tick) := by
  unfold landing
  refine .bind fun n rounds => .pure ⟨n, rounds, fun after => ?_⟩
  rw [if_pos after]

/-- What in-order strikes have made of a voice whose last one was written at `latest`: the
events climb from zero to a tick that the last strike has reached. -/
structure Voice.Timed (v : Voice) (latest : Rat) : Prop where
  nominal : v.lastStrike.nominal.place? = some (.value latest)
  climbs : ∃ last, last ≤ v.lastStrike.tick ∧ Climbs Event.StandsAt 0 v.events.toList last
  /-- A strike that may stray is placed by a double. -/
  near : v.config.timeSpread.isZero = false → v.lastStrike.tick ≤ farthestTick
  /-- A strike that does not stray passes no whole tick that its written time does not pass. -/
  steady : v.config.timeSpread.isZero = true →
    ∀ n : Int, 0 ≤ n → latest ≤ n → v.lastStrike.tick ≤ n

section Onsets

variable {γ : Type} [ChanceSource γ] {closes : Bool} {v w : Voice} {latest r : Rat}

/-- A written time that strays is rounded to no tick beyond the farthest. -/
theorem Quantity.StandsAt.strayed_le {nominal shifted : Quantity} {x : Binary64} {n : Int}
    (stands : nominal.StandsAt r) (sum : nominal.add (.float x) = .ok shifted)
    (rounds : shifted.nearest = .ok n) : n ≤ farthestTick := by
  have onFloats : onFloats Binary64.add nominal (.float x) = .ok shifted := by
    rcases stands with rfl | ⟨m, rfl, -⟩ <;> exact sum
  obtain ⟨y, z, -, -, rfl⟩ := onFloats_ok onFloats
  exact Binary64.nearest_add_le rounds

/-- Where an in-order strike lands: not before the last one, and, unless it strays, not
beyond a whole tick that it is not written beyond. -/
theorem LandsOn.timed {nominal : Quantity} {tick : Int} (lands : LandsOn γ v nominal tick)
    (timed : v.Timed latest) (stands : nominal.StandsAt r) (after : latest ≤ r) :
    v.lastStrike.tick ≤ tick ∧ (v.config.timeSpread.isZero = false → tick ≤ farthestTick) ∧
      (v.config.timeSpread.isZero = true → ∀ m : Int, 0 ≤ m → r ≤ m → tick ≤ m) := by
  obtain ⟨shifted, shifts, lands⟩ := lands
  obtain ⟨n, rounds, settled⟩ := v.lastStrike.landing_spec nominal shifted _ lands
  have played := settled (Quantity.le_of_places timed.nominal stands.place after)
  unfold ShiftsTo at shifts
  refine ⟨?_, ?_, ?_⟩
  · omega
  · intro strays
    have before := timed.near strays
    rw [if_neg (by rw [strays]; exact Bool.false_ne_true)] at shifts
    obtain ⟨x, -, sum⟩ := shifts
    have strayed := stands.strayed_le sum rounds
    omega
  · intro still m start within
    have before := timed.steady still m start (le_trans after within)
    rw [if_pos still] at shifts
    subst shifts
    have rounded := stands.nearest_le rounds start within
    omega

theorem Onset.timed {nominal : Quantity} (h : Onset γ closes nominal v w) (timed : v.Timed latest)
    (stands : nominal.StandsAt r) (after : latest ≤ r) : w.Timed r := by
  obtain ⟨d, lands, -, strikes⟩ := h
  obtain ⟨later, near, steady⟩ := lands.timed timed stands after
  obtain ⟨last, reached, climbs⟩ := timed.climbs
  refine ⟨stands.place, ?_, near, steady⟩
  obtain ⟨last', reached', climbs'⟩ := Climbs.upTo strikes.standsAt (le_trans reached later)
  refine ⟨last', reached', ?_⟩
  show Climbs Event.StandsAt 0 (v.events ++ _).toList last'
  rw [Array.toList_append]
  exact climbs.append climbs'

/-- Written times that climb keep a voice in time. -/
theorem Onsets.timed {nominals : List Quantity} (h : Onsets γ closes nominals v w)
    (timed : v.Timed latest) (climbs : Climbs Quantity.StandsAt latest nominals r) :
    w.Timed r := by
  induction h generalizing latest with
  | nil =>
    cases climbs
    exact timed
  | cons first _ ih =>
    obtain - | ⟨stands, after, rest⟩ := climbs
    exact ih (first.timed timed stands after) rest

end Onsets

/-! ## §4. Passages. -/

/-- A pattern in order and within its measure. -/
structure Pattern.InMeasure (p : Pattern) (beats : Nat) : Prop where
  sorted : p.groups.Pairwise fun g h => g.offset ≤ h.offset
  within : ∀ g ∈ p.groups, 1 ≤ g.offset ∧ g.offset < beats + 1

instance (p : Pattern) (beats : Nat) : Decidable (p.InMeasure beats) :=
  decidable_of_iff ((p.groups.Pairwise fun g h => g.offset ≤ h.offset) ∧
      ∀ g ∈ p.groups, 1 ≤ g.offset ∧ g.offset < beats + 1)
    ⟨fun h => ⟨h.1, h.2⟩, fun h => ⟨h.sorted, h.within⟩⟩

/-- An open master with a whole resolution, whose tempo has not changed. -/
structure Voice.Metered (v : Voice) (beats : Nat) (t : Int) : Prop where
  signature : v.beats = beats
  resolution : v.config.ticks.integer? = some t
  positive : 0 < t
  measure : v.measure = .whole (beats * t)
  tempoChanges : v.dynamics.tempoChanges = #[]
  auxiliary : v.auxiliary = false
  isOpen : v.finished = false

/-- A voice in time: its clock is a whole tick, and its last strike was not written later. -/
structure Voice.InTime (v : Voice) (beats : Nat) (t : Int) : Prop extends v.Metered beats t where
  pulse : ∃ (c : Int) (latest : Rat), v.clock = .whole c ∧ 0 ≤ c ∧ latest ≤ c ∧ v.Timed latest

section Passages

variable {γ : Type} [ChanceSource γ] {v w : Voice} {beats : Nat} {t c : Int} {latest limit : Rat}

theorem Voice.Metered.grown (h : v.Metered beats t) (grown : v.Grown w) : w.Metered beats t := by
  refine ⟨?_, ?_, h.positive, grown.measure.trans h.measure,
    grown.tempoChanges.trans h.tempoChanges, grown.auxiliary.trans h.auxiliary,
    grown.isOpen h.isOpen⟩
  · unfold Voice.beats
    rw [grown.config]
    exact h.signature
  · rw [grown.config]
    exact h.resolution

/-- The time of an offset from a whole clock, with a whole resolution. -/
theorem Play.offsetTick_exact (resolution : v.config.ticks.integer? = some t)
    (clock : v.clock = .whole c) (offset : Rat) :
    Play.offsetTick v offset = .ok (.ratio (c + (offset - 1) * t)) := by
  have product : (Quantity.ratio (offset - 1)).mul v.config.ticks =
      .ok (.ratio ((offset - 1) * t)) := by
    unfold Quantity.mul
    rw [Quantity.plain_of_integer resolution]
    rfl
  unfold Play.offsetTick
  rw [product, clock]
  rfl

/-- The written times of sorted groups climb. -/
theorem Voice.Metered.climbs (h : v.Metered beats t) (clock : v.clock = .whole c)
    {groups : List Group} {nominals : List Quantity}
    (times : List.Forall₂ (fun g nominal => Play.offsetTick v g.offset = .ok nominal)
      groups nominals)
    (sorted : groups.Pairwise fun g h => g.offset ≤ h.offset)
    (between : ∀ g ∈ groups, latest ≤ c + (g.offset - 1) * t ∧ c + (g.offset - 1) * t ≤ limit)
    (room : latest ≤ limit) :
    ∃ r, r ≤ limit ∧ Climbs Quantity.StandsAt latest nominals r := by
  induction times generalizing latest with
  | nil => exact ⟨latest, room, .nil latest⟩
  | @cons g nominal groups nominals time _ ih =>
    rw [Play.offsetTick_exact h.resolution clock] at time
    cases time
    obtain ⟨before, sorted⟩ := List.pairwise_cons.1 sorted
    obtain ⟨after, inside⟩ := between g List.mem_cons_self
    have later : ∀ g' ∈ groups, (c : Rat) + (g.offset - 1) * t ≤ c + (g'.offset - 1) * t ∧
        c + (g'.offset - 1) * t ≤ limit := by
      intro g' here
      have positive : (0 : Rat) ≤ t := Int.cast_nonneg h.positive.le
      have ordered := mul_le_mul_of_nonneg_right (sub_le_sub_right (before g' here) 1) positive
      exact ⟨add_le_add_right ordered _, (between g' (List.mem_cons_of_mem _ here)).2⟩
    obtain ⟨r, within, climbs⟩ := ih sorted later inside
    exact ⟨r, within, .cons (.inl rfl) after climbs⟩

/-- A measure in order keeps a voice in time. -/
theorem Measured.inTime {p : Pattern} (h : Measured γ p.groups v w) (inTime : v.InTime beats t)
    (inMeasure : p.InMeasure beats) : w.InTime beats t := by
  obtain ⟨c, latest, clock, begun, past, timed⟩ := inTime.pulse
  obtain ⟨nominals, x, next, times, onsets, sum, rfl⟩ := h
  have metered := inTime.toMetered.grown onsets.grown
  rw [onsets.still.1, clock, metered.measure] at sum
  cases sum
  have positive : (0 : Rat) < t := Int.cast_pos.2 inTime.positive
  have between : ∀ g ∈ p.groups, latest ≤ c + (g.offset - 1) * t ∧
      c + (g.offset - 1) * t ≤ (c : Rat) + beats * t := by
    intro g here
    obtain ⟨low, high⟩ := inMeasure.within g here
    constructor
    · have forward : 0 ≤ (g.offset - 1) * t := mul_nonneg (sub_nonneg.2 low) positive.le
      linarith
    · have inside : (g.offset - 1) * t ≤ beats * t :=
        mul_le_mul_of_nonneg_right (by linarith) positive.le
      linarith
  have length : (0 : Rat) ≤ beats * t := mul_nonneg (Nat.cast_nonneg _) positive.le
  obtain ⟨r, within, climbs⟩ := inTime.toMetered.climbs clock times inMeasure.sorted between
    (past.trans (le_add_of_nonneg_right length))
  refine ⟨metered.grown (x.grown_rest _ _), c + beats * t, r, rfl, ?_, ?_, ?_⟩
  · have ahead : 0 ≤ (beats : Int) * t := Int.mul_nonneg (Int.natCast_nonneg _) inTime.positive.le
    omega
  · push_cast
    exact within
  · have moved := onsets.timed timed climbs
    exact ⟨moved.nominal, moved.climbs, moved.near, moved.steady⟩

/-- So do measures one after the other. -/
theorem Measures.inTime {p : Pattern} {count : Nat} (h : Measures γ p.groups count v w)
    (inTime : v.InTime beats t) (inMeasure : p.InMeasure beats) : w.InTime beats t := by
  induction h with
  | nil => exact inTime
  | cons first _ ih => exact ih (first.inTime inTime inMeasure)

/-- A step of whole ticks forward. -/
def Quantity.IsStep (q : Quantity) : Prop := ∃ n : Int, q = .whole n ∧ 0 ≤ n

/-- The ticks of columns climb with their steps. -/
theorem ColumnTicks.climbs {steps nominals : List Quantity} {tick last : Quantity}
    (h : ColumnTicks tick steps nominals last) (each : ∀ s ∈ steps, s.IsStep)
    (start : tick = .whole c) (past : latest ≤ c) :
    ∃ (n : Int) (r : Rat), last = .whole n ∧ c ≤ n ∧ r ≤ n ∧
      Climbs Quantity.StandsAt latest nominals r := by
  induction h generalizing c latest with
  | nil => exact ⟨c, latest, start, le_refl c, past, .nil latest⟩
  | @cons tick step next last steps nominals sum _ ih =>
    obtain ⟨k, rfl, forward⟩ := each step List.mem_cons_self
    subst start
    cases sum
    obtain ⟨n, r, rfl, ahead, within, climbs⟩ :=
      ih (fun s here => each s (List.mem_cons_of_mem _ here)) rfl
        (show (c : Rat) ≤ ((c + k : Int) : Rat) from Int.cast_le.2 (by omega))
    exact ⟨n, r, rfl, by omega, within, .cons (.inr ⟨c, rfl, rfl⟩) past climbs⟩

/-- A tab keeps a voice in time. -/
theorem Tabbed.inTime {g : Grid} (h : Tabbed γ g v w) (inTime : v.InTime beats t)
    (each : ∀ s ∈ g.steps, s.IsStep) : w.InTime beats t := by
  obtain ⟨c, latest, clock, begun, past, timed⟩ := inTime.pulse
  obtain ⟨nominals, x, next, ticks, onsets, rfl⟩ := h
  rw [g.columns_steps] at ticks
  obtain ⟨n, r, rfl, ahead, within, climbs⟩ := ticks.climbs each clock past
  have metered := inTime.toMetered.grown onsets.grown
  refine ⟨metered.grown (x.grown_rest _ _), n, r, rfl, le_trans begun ahead, within, ?_⟩
  have moved := onsets.timed timed climbs
  exact ⟨moved.nominal, moved.climbs, moved.near, moved.steady⟩

end Passages

/-! ## §5. Steps of a tab. -/

namespace Tab

/-- The columns of a tab of whole beats are steps forward. -/
theorem grid_steps {tab count : Datum} {ticks beats : Quantity} {t b : Int} {uniform : Bool}
    (resolution : ticks.integer? = some t) (positive : 0 < t) (whole : beats.integer? = some b)
    {g : Grid} (read : grid tab count (.number ticks) (.number beats) uniform = .ok g) :
    ∀ s ∈ g.steps, s.IsStep := by
  obtain ⟨forward, tabLines, table, parts, -, fills⟩ := exists_fills resolution whole read
  intro s here
  obtain ⟨k, ahead, same⟩ := fills.steps_pos (Int.mul_pos positive forward) s here
  exact ⟨k, same, ahead.le⟩

end Tab

/-! ## §6. Moves in order. -/

/-- A move that writes its music in order: a pattern within its measure, a tab of whole
beats, or silence. -/
def Move.InOrder (beats : Nat) : Move → Prop
  | .play (.pattern p) _ => p.InMeasure beats
  | .play _ _ => True
  | .tab _ stated => stated = .null ∨ stated.int?.isSome = true
  | .rest _ => True
  | _ => False

section Moves

variable {γ : Type} [ChanceSource γ] {p : Player γ} {v w : Voice} {beats : Nat} {t : Int}

/-- Silence moves the clock on. -/
theorem Voice.InTime.rest (h : v.InTime beats t) {clock : Quantity} {c n : Int}
    (now : v.clock = .whole c) (next : clock = .whole n) (ahead : c ≤ n) (skip : Quantity) :
    Voice.InTime { v with clock, skip } beats t := by
  obtain ⟨c', latest, clockHere, begun, past, timed⟩ := h.pulse
  rw [now] at clockHere
  cases clockHere
  refine ⟨h.toMetered.grown (v.grown_rest _ _), n, latest, next, le_trans begun ahead, ?_, ?_⟩
  · exact past.trans (Int.cast_le.2 ahead)
  · exact ⟨timed.nominal, timed.climbs, timed.near, timed.steady⟩

/-- What a sheet is made of keeps a voice in time. -/
def Sheet.Steady (beats : Nat) : Sheet → Prop
  | .measures p _ => p.InMeasure beats
  | .grid g => ∀ s ∈ g.steps, s.IsStep

theorem Sheet.Played.inTime {sheet : Sheet} (h : sheet.Played γ v w) (inTime : v.InTime beats t)
    (steady : sheet.Steady beats) : w.InTime beats t := by
  cases sheet with
  | measures p parsed =>
    obtain ⟨c, latest, clock, -, -, -⟩ := inTime.pulse
    exact Measures.inTime h (inTime.rest clock clock (le_refl c) _) steady
  | grid g => exact Tabbed.inTime h inTime steady

/-- The beats of a tab are those that are stated, or a whole number in front of it. -/
theorem TabText.ofParts_beats (parts : List Datum) (stated : Datum) :
    Yields (TabText.ofParts parts stated) fun asked =>
      asked.beats = stated ∨ asked.beats.int?.isSome = true := by
  unfold ofParts
  cases parts with
  | nil => exact .error _
  | cons first rest =>
    cases rest with
    | nil => exact .ite_error fun _ => .pure (.inl rfl)
    | cons second rest =>
      dsimp only
      split
      · next number =>
        refine .ite_error fun _ => ?_
        split
        · exact .pure (.inr number)
        · exact .pure (.inr number)
      · exact .ite_error fun _ => .pure (.inl rfl)

/-- So the beats of a tab are a whole number, if the stated ones are. -/
theorem TabText.ofParts_whole {parts : List Datum} {stated : Datum} (beats : Nat)
    (whole : stated = .null ∨ stated.int?.isSome = true) :
    Yields (TabText.ofParts parts stated) fun asked => ∃ (q : Quantity) (b : Int),
      asked.beatsOr beats = .number q ∧ q.integer? = some b := by
  intro asked askedHere
  have wellFormed : asked.beats = .null ∨ asked.beats.int?.isSome = true := by
    rcases TabText.ofParts_beats parts stated asked askedHere with same | whole
    · rw [same]
      exact whole
    · exact .inr whole
  unfold TabText.beatsOr
  rcases wellFormed with none_ | whole
  · rw [none_]
    exact ⟨.whole beats, beats, rfl, rfl⟩
  · obtain ⟨b, number⟩ := Option.isSome_iff_exists.1 whole
    cases first : asked.beats with
    | number q =>
      rw [first] at number
      exact ⟨q, b, rfl, number⟩
    | _ =>
      rw [first] at number
      cases number

/-- A tab of whole beats is read into steps forward. -/
theorem Play.readTab_steps (resolution : v.config.ticks.integer? = some t) (positive : 0 < t)
    {parts : List Datum} {stated : Datum} (whole : stated = .null ∨ stated.int?.isSome = true) :
    Yields (Play.readTab v parts stated) fun g => ∀ s ∈ g.steps, s.IsStep := by
  unfold readTab
  refine .bind fun asked askedHere => ?_
  obtain ⟨q, b, same, wholeBeats⟩ := TabText.ofParts_whole v.beats whole asked askedHere
  rw [same]
  refine .bind fun g read => .bind fun _ _ => .pure ?_
  exact Tab.grid_steps resolution positive wholeBeats read

namespace Play

theorem ensures_silence_inTime (inTime : p.voice.InTime beats t) (chords : List Datum) :
    (play .silence chords : Play γ Unit).Ensures p (fun _ q => q.voice.InTime beats t)
      fun _ _ => True := by
  obtain ⟨c, latest, clock, -, -, -⟩ := inTime.pulse
  unfold play
  rw [ensures_open_bind inTime.isOpen]
  refine .check (fun _ => True.intro) fun _ => ?_
  unfold playSilence
  rw [ensures_voice_bind, Act.ensures_lift_bind]
  refine ⟨fun next sum => ?_, fun _ _ => True.intro⟩
  rw [ensures_changeVoice_bind, Act.ensures_lift_bind]
  refine ⟨fun skip _ => ?_, fun _ _ => True.intro⟩
  rw [ensures_changeVoice]
  rw [clock, inTime.measure] at sum
  cases sum
  have ahead : 0 ≤ (beats : Int) * t :=
    Int.mul_nonneg (Int.natCast_nonneg _) inTime.positive.le
  exact inTime.rest clock rfl (by omega) skip

theorem ensures_rests_inTime (inTime : p.voice.InTime beats t) (count : Nat) :
    (rests count : Play γ Unit).Ensures p (fun _ q => q.voice.InTime beats t) fun _ _ => True := by
  induction count generalizing p with
  | zero => exact (Act.ensures_pure _).2 inTime
  | succ count ih =>
    unfold rests
    exact (ensures_silence_inTime inTime []).bind fun _ q moved => ih moved

/-- A passage that is read into steady music keeps a voice in time. -/
theorem ensures_passage_inTime (inTime : p.voice.InTime beats t) (c : Passage)
    (steady : Yields (c.read p.voice) fun sheet => sheet.Steady beats) :
    c.act.Ensures p (fun _ q => q.voice.InTime beats t) fun _ _ => True := by
  refine (ensures_passage inTime.isOpen c).mono ?_ fun _ _ _ => True.intro
  rintro _ q ⟨sheet, read, played⟩
  exact played.inTime inTime (steady sheet read)

end Play

/-- A move in order keeps a voice in time, if it goes well. -/
theorem Move.ensures_inTime (m : Move) (inTime : p.voice.InTime beats t)
    (inOrder : m.InOrder beats) :
    m.act.Ensures p (fun _ q => q.voice.InTime beats t) fun _ _ => True := by
  cases m with
  | play music chords =>
    cases music with
    | silence => exact Play.ensures_silence_inTime inTime chords
    | pattern pattern =>
      refine Play.ensures_passage_inTime inTime (.pattern pattern chords) ?_
      exact .map fun parsed _ => inOrder
    | other kindName =>
      refine Play.ensures_passage_inTime inTime (.other kindName chords) ?_
      intro sheet read
      cases read
  | tab parts stated =>
    refine Play.ensures_passage_inTime inTime (.tab parts stated) ?_
    exact .map (Play.readTab_steps inTime.resolution inTime.positive inOrder)
  | rest measures =>
    show (Play.rest measures).Ensures p _ _
    unfold Play.rest
    split
    · exact Play.ensures_rests_inTime inTime _
    · exact (Act.ensures_throw _).2 True.intro
  | cresc | tempo | rit | note => exact inOrder.elim

end Moves

end Plectrum
