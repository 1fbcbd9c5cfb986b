/-
  Plectrum.Proofs.DeltaTimes
  ──────────────────────────
  **Absolute ticks and the ticks between events are two forms of one timeline.**

  Whole ticks turn into deltas and back by two running sums: one subtracts the tick before, the
  other adds the delta.  Each undoes the other.  The first one refuses to go back, so it takes
  exactly the ticks that the second one makes of deltas that are not negative.

  Main results:
    * `Timeline.sums_steps`, `Timeline.steps_sums` — the two running sums undo each other;
    * `Timeline.deltas_of_ordered` — what the deltas of events in order are;
    * `Timeline.deltas_absolute` — when there are deltas, what they add up to, and how they are
      found again.
-/
import Plectrum.Proofs.StepsBack

namespace Plectrum

namespace Timeline

/-! ## §1. Running sums. -/

/-- The steps between ticks, the first one from `now`. -/
def steps : Int → List Int → List Int
  | _, [] => []
  | now, tick :: ticks => (tick - now) :: steps tick ticks

/-- The ticks that steps lead to, from `now` on. -/
def sums : Int → List Int → List Int
  | _, [] => []
  | now, step :: rest => (now + step) :: sums (now + step) rest

theorem sums_steps (now : Int) (ticks : List Int) : sums now (steps now ticks) = ticks := by
  induction ticks generalizing now with
  | nil => rfl
  | cons tick ticks ih =>
    have back : now + (tick - now) = tick := by omega
    rw [steps, sums, back, ih]

theorem steps_sums (now : Int) (ds : List Int) : steps now (sums now ds) = ds := by
  induction ds generalizing now with
  | nil => rfl
  | cons d ds ih =>
    have back : now + d - now = d := by omega
    rw [sums, steps, back, ih]

/-- Ticks are in order exactly if no step between them is negative. -/
theorem nonneg_steps_iff {now : Int} {ticks : List Int} :
    (∀ d ∈ steps now ticks, 0 ≤ d) ↔ (now :: ticks).Pairwise (· ≤ ·) := by
  induction ticks generalizing now with
  | nil => exact iff_of_true nofun (List.pairwise_singleton _ _)
  | cons tick ticks ih =>
    rw [steps, List.forall_mem_cons, List.pairwise_cons_cons_iff_of_trans, ih]
    exact and_congr_left fun _ => Int.sub_nonneg

theorem length_steps (now : Int) (ticks : List Int) : (steps now ticks).length = ticks.length := by
  induction ticks generalizing now with
  | nil => rfl
  | cons tick ticks ih => exact congrArg Nat.succ (ih tick)

/-- Whole deltas always add up. -/
theorem absoluteFrom_whole (now : Int) (ds : List Int) :
    absoluteFrom (.whole now) (ds.map Datum.whole) = .ok ((sums now ds).map Quantity.whole) := by
  induction ds generalizing now with
  | nil => rfl
  | cons d ds ih =>
    show (absoluteFrom (.whole (now + d)) (ds.map Datum.whole) >>= fun ticks =>
      .ok (.whole (now + d) :: ticks)) = _
    rw [ih]
    rfl

/-! ## §2. Deltas of events. -/

/-- Events in order have the steps between their ticks as deltas. -/
theorem deltasFrom_of_ordered {events : List Event} (whole : WholeTicks events) {now : Quantity}
    {n : Int} (start : now.integer? = some n)
    (ordered : (n :: Event.wholeTicks events).Pairwise (· ≤ ·)) :
    deltasFrom now events =
      .ok (((steps n (Event.wholeTicks events)).map Quantity.whole).zip events) := by
  induction events generalizing now n with
  | nil => rfl
  | cons e events ih =>
    obtain ⟨here, there⟩ := List.forall_mem_cons.1 whole
    obtain ⟨q, tick, same⟩ := Event.tick_eq here
    obtain ⟨ahead, later⟩ := List.pairwise_cons_cons_iff_of_trans.1 ordered
    have notBack : q.lt now = false := by
      rw [Quantity.lt_of_integer same start]
      exact decide_eq_false (Int.not_lt.2 ahead)
    unfold deltasFrom
    rw [tick]
    show (q.sub now >>= fun delta => _) = _
    rw [Quantity.sub_of_integer same start]
    show (if q.lt now = true then _ else deltasFrom q events >>= fun ds => _) = _
    rw [notBack, ih there same later]
    rfl

theorem deltas_of_ordered {events : List Event} (whole : WholeTicks events)
    (ordered : (0 :: Event.wholeTicks events).Pairwise (· ≤ ·)) :
    deltas events = .ok (((steps 0 (Event.wholeTicks events)).map Quantity.whole).zip events) :=
  deltasFrom_of_ordered whole rfl ordered

/-- Where events are placed at whole numbers, these are their whole ticks. -/
theorem wholeTicks_of_ticks {events : List Event} {ticks : List Int}
    (placed : events.map Event.tick = ticks.map Datum.whole) :
    WholeTicks events ∧ Event.wholeTicks events = ticks := by
  have each : ∀ e ∈ events, ∃ n : Int, e.tick = .whole n := by
    intro e here
    have inside : e.tick ∈ ticks.map Datum.whole := placed ▸ List.mem_map_of_mem here
    obtain ⟨n, -, same⟩ := List.mem_map.1 inside
    exact ⟨n, same.symm⟩
  have read : Event.wholeTicks events = (events.map Event.tick).map fun d => d.int?.getD 0 := by
    rw [List.map_map]
    rfl
  constructor
  · intro e here
    obtain ⟨n, same⟩ := each e here
    rw [same]
    rfl
  · rw [read, placed, List.map_map]
    exact List.map_id ticks

/-- In a pairing of steps with events nothing is left over. -/
theorem map_zip_steps (events : List Event) :
    let ds := ((steps 0 (Event.wholeTicks events)).map Quantity.whole).zip events
    ds.map Prod.fst = (steps 0 (Event.wholeTicks events)).map Quantity.whole ∧
      ds.map Prod.snd = events := by
  have size : ((steps 0 (Event.wholeTicks events)).map Quantity.whole).length = events.length := by
    rw [List.length_map, length_steps]
    exact List.length_map _
  exact ⟨List.map_fst_zip size.le, List.map_snd_zip size.ge⟩

/-- The deltas of events in order are not negative, stand with the events, and add up to the
ticks. -/
theorem paired_of_ordered {events : List Event} (whole : WholeTicks events)
    (ordered : (0 :: Event.wholeTicks events).Pairwise (· ≤ ·)) {ds : List (Quantity × Event)}
    (paired : deltas events = .ok ds) :
    ds.map Prod.snd = events ∧ (∀ d ∈ ds, ∃ n : Int, d.1 = .whole n ∧ 0 ≤ n) ∧
      absolute (ds.map fun d => .number d.1) =
        .ok ((Event.wholeTicks events).map Quantity.whole) := by
  rw [deltas_of_ordered whole ordered] at paired
  cases paired
  obtain ⟨firsts, seconds⟩ := map_zip_steps events
  refine ⟨seconds, fun d here => ?_, ?_⟩
  · have among := List.mem_map_of_mem (f := Prod.fst) here
    rw [firsts] at among
    obtain ⟨n, step, same⟩ := List.mem_map.1 among
    exact ⟨n, same.symm, nonneg_steps_iff.2 ordered n step⟩
  · have numbers : (fun d : Quantity × Event => Datum.number d.1) = Datum.number ∘ Prod.fst := rfl
    rw [numbers, ← List.map_map, firsts, List.map_map]
    exact (absoluteFrom_whole 0 _).trans (by rw [sums_steps])

/-! ## §3. There and back. -/

/-- Events at whole ticks have deltas exactly if their ticks, counted from the start, never go back.
Otherwise the first step back is a fault of timing, unless one of its numbers is too long to be
written.  Deltas are whole and not negative, stand with the events in their order, and add up to the
ticks.  And deltas that are not negative add up to ticks, at which events have these deltas. -/
theorem deltas_absolute (events : List Event) (whole : WholeTicks events)
    (named : ∀ e ∈ events, ∃ t, e.what.kindName = .text t) :
    ((∃ ds, deltas events = .ok ds) ↔ (0 :: Event.wholeTicks events).Pairwise (· ≤ ·)) ∧
    (∀ f, deltas events = .error f → ∃ s, stepBack? 0 (Event.wholeTicks events) = some s ∧
      f.kind = if s.isWritable then .timing else .value) ∧
    (∀ ds, deltas events = .ok ds →
      ds.map Prod.snd = events ∧ (∀ d ∈ ds, ∃ n : Int, d.1 = .whole n ∧ 0 ≤ n) ∧
      absolute (ds.map fun d => .number d.1) =
        .ok ((Event.wholeTicks events).map Quantity.whole)) ∧
    ∀ ds : List Int, (∀ d ∈ ds, 0 ≤ d) → ∃ ticks, absolute (ds.map Datum.whole) = .ok ticks ∧
      ∀ placed : List Event, placed.map Event.tick = ticks.map Datum.number →
        ∃ pairs, deltas placed = .ok pairs ∧ pairs.map Prod.fst = ds.map Quantity.whole ∧
          pairs.map Prod.snd = placed := by
  have settles : Settles (deltas events) (stepBack? 0 (Event.wholeTicks events)) :=
    deltasFrom_settles whole named rfl
  have made := settles.ok_iff.trans stepBack?_eq_none_iff
  refine ⟨made, fun f failed => ?_, fun ds paired =>
    paired_of_ordered whole (made.1 ⟨ds, paired⟩) paired, fun ds nonneg =>
    ⟨_, absoluteFrom_whole 0 ds, fun placed there => ?_⟩⟩
  · obtain ⟨s, back, reported⟩ := settles.reported failed
    exact ⟨s, back, reported.kind⟩
  · -- The ticks are the sums, so the steps between them are what was added up.
    rw [List.map_map] at there
    obtain ⟨whole', same⟩ := wholeTicks_of_ticks there
    have ordered : (0 :: Event.wholeTicks placed).Pairwise (· ≤ ·) := by
      rw [← nonneg_steps_iff, same, steps_sums]
      exact nonneg
    obtain ⟨firsts, seconds⟩ := map_zip_steps placed
    refine ⟨_, deltas_of_ordered whole' ordered, ?_, seconds⟩
    rw [firsts, same, steps_sums]

/-- A string that is struck twice at once, and ends. -/
def struckTwice : List Event :=
  [.start (.whole 0) 5 (.whole 64) 80, .start (.whole 0) 5 (.whole 64) 90,
    .stop (.whole 0) 9 (.whole 64)]

/-- Its ticks and its deltas are found from each other; the other way round, the events go back. -/
theorem struckTwice_deltas :
    (∃ ds, deltas struckTwice = .ok ds ∧
      absolute (ds.map fun d => .number d.1) = .ok [.whole 5, .whole 5, .whole 9]) ∧
    (∃ pairs, deltas struckTwice = .ok pairs ∧
      pairs.map Prod.fst = [.whole 5, .whole 0, .whole 4] ∧ pairs.map Prod.snd = struckTwice) ∧
    ∃ f, deltas struckTwice.reverse = .error f ∧ f.kind = .timing := by
  have named : ∀ e ∈ struckTwice, ∃ t, e.what.kindName = .text t :=
    List.forall_mem_cons.2 ⟨⟨_, rfl⟩, List.forall_mem_cons.2 ⟨⟨_, rfl⟩,
      List.forall_mem_singleton.2 ⟨_, rfl⟩⟩⟩
  obtain ⟨made, -, sound, back⟩ := deltas_absolute struckTwice (by decide) named
  obtain ⟨ds, paired⟩ := made.2 (by decide)
  obtain ⟨-, refused, -⟩ := deltas_absolute struckTwice.reverse (by decide)
    fun e here => named e (List.mem_reverse.1 here)
  obtain ⟨ticks, added, found⟩ := back [5, 0, 4] (by decide)
  refine ⟨⟨ds, paired, (sound ds paired).2.2⟩, ?_, ?_⟩
  · cases added
    exact found struckTwice rfl
  · cases failed : deltas struckTwice.reverse with
    | ok ds => cases failed
    | error f =>
      obtain ⟨s, first, kind⟩ := refused f failed
      cases first
      refine ⟨f, rfl, kind.trans ?_⟩
      decide +kernel

/-- Events that are so far apart that the step from one to the other is too long to be written. -/
def farBack : List Event :=
  [.stop (.whole 0) (10 ^ 4300 - 1) (.whole 64), .stop (.whole 0) (1 - 10 ^ 4300) (.whole 64)]

/-- They go back, and that is no fault of timing. -/
theorem farBack_unreported :
    WholeTicks farBack ∧ (∀ e ∈ farBack, ∃ t, e.what.kindName = .text t) ∧
      ¬ (0 :: Event.wholeTicks farBack).Pairwise (· ≤ ·) ∧
      ∃ f, deltas farBack = .error f ∧ f.kind = .value := by
  have kind : faultKind? (deltas farBack) = some .value := by decide +kernel
  refine ⟨by decide +kernel, ?_, by decide +kernel, exists_error_of_kind kind⟩
  exact List.forall_mem_cons.2 ⟨⟨_, rfl⟩, List.forall_mem_singleton.2 ⟨_, rfl⟩⟩

end Timeline

end Plectrum
