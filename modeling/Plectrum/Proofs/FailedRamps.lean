/-
  Plectrum.Proofs.FailedRamps
  ───────────────────────────
  **What a failed crescendo or change of tempo leaves behind.**

  A call that shapes volume or tempo is checked before it changes anything, and one that is
  refused leaves all as it was.  A change of tempo is nothing but its check.  A crescendo that has
  passed can only fail at its report, and by then its ramp has begun.  A tempo ramp that has passed
  is climbed stair by stair, and each stair is checked when it is reached: the tempo of a stair is
  computed in doubles, and close to a target that is nearly zero it may be rounded to zero.  Then
  the stairs below stay queued, and the tempo is that of the last of them.

  Main results:
    * `Dynamics.climb_error` — a climb that fails has climbed the stairs below one that is refused;
    * `Gesture.ensures_act` — how a call fails: refused, or broken off;
    * `failed_ramp` — what it leaves behind, and when that is all as it was.
-/
import Plectrum.Proofs.Atomicity
import Plectrum.Proofs.Crescendos
import Plectrum.Proofs.MonotoneRamps

namespace Plectrum

/-! ## §1. Stairs that are refused. -/

namespace Dynamics

variable {s : Staircase Datum} {startTick ticksPerBeat : Datum} {beats count step : Nat}
  {d e : Dynamics Datum} {f : Fault}

/-- A climb that fails has climbed the stairs below one that is refused. -/
theorem climb_error (failed : climb s startTick ticksPerBeat beats step count d = (.error f, e)) :
    ∃ k < count, climb s startTick ticksPerBeat beats step k d = (.ok (), e) ∧
      stair s startTick ticksPerBeat beats (step + k) e = .error f := by
  induction count generalizing step d with
  | zero => cases failed
  | succ count ih =>
    rw [climb_succ] at failed
    cases first : stair s startTick ticksPerBeat beats step d with
    | error g =>
      rw [first] at failed
      cases failed
      exact ⟨0, Nat.succ_pos _, rfl, first⟩
    | ok above =>
      rw [first] at failed
      obtain ⟨k, below, climbed, refused⟩ := ih failed
      refine ⟨k + 1, Nat.succ_lt_succ below, ?_, ?_⟩
      · rw [climb_succ, first]
        exact climbed
      · rw [← Nat.add_assoc, Nat.add_right_comm]
        exact refused

/-- One stair queues one change, and makes its tempo the current one. -/
theorem stair_queues :
    Yields (stair s startTick ticksPerBeat beats step d) fun e =>
      ∃ bpm change, e = { d with bpm, tempoChanges := d.tempoChanges.push change } := by
  unfold stair
  refine .bind fun bpm _ => .bind fun tick _ => ?_
  unfold setTempo
  refine .bind fun stopped _ => ?_
  split
  · exact .bind fun _ refused => nomatch refused
  · exact .bind fun microseconds _ => .pure ⟨bpm, _, rfl⟩

/-- As many changes are queued as stairs are climbed, and the volume is untouched. -/
theorem climb_queues (climbed : climb s startTick ticksPerBeat beats step count d = (.ok (), e)) :
    e.tempoChanges.size = d.tempoChanges.size + count ∧ e.volume = d.volume ∧ e.ramp = d.ramp := by
  induction count generalizing step d with
  | zero =>
    cases climbed
    exact ⟨rfl, rfl, rfl⟩
  | succ count ih =>
    rw [climb_succ] at climbed
    cases first : stair s startTick ticksPerBeat beats step d with
    | error g =>
      rw [first] at climbed
      cases climbed
    | ok above =>
      rw [first] at climbed
      obtain ⟨bpm, change, rfl⟩ := stair_queues above first
      obtain ⟨queue, volume, ramp⟩ := ih climbed
      refine ⟨?_, volume, ramp⟩
      rw [queue, Array.size_push]
      omega

/-- What a tempo ramp is asked for: its stairs, and how many they are. -/
def stairsOf (d : Dynamics Datum) (factor beats : Datum) (shape : Shape.Choice Datum) :
    Except Fault (Staircase Datum × Nat) := do
  let stairs ← d.staircase factor beats shape
  match beats.int? with
  | some count => return (stairs, count.toNat)
  | none => throw .wrongKind

/-- A tempo ramp that is accepted lasts some beats. -/
theorem staircase_beats (factor beats : Datum) (shape : Shape.Choice Datum) :
    Yields (d.staircase factor beats shape) fun _ =>
      Scalar.le beats (Scalar.count 0) = .ok false := by
  unfold staircase
  refine .bind fun _ _ => .check fun _ => .bind fun short compared => .check fun long => ?_
  rw [Bool.not_eq_true] at long
  subst long
  exact .bind fun _ _ => .bind fun _ _ => .pure compared

/-- There is at least one stair. -/
theorem stairsOf_pos (factor beats : Datum) (shape : Shape.Choice Datum) :
    Yields (d.stairsOf factor beats shape) fun asked => 0 < asked.2 := by
  unfold stairsOf
  refine .bind fun s accepted => ?_
  have long := staircase_beats factor beats shape s accepted
  cases whole : beats.int? with
  | none => exact .error _
  | some count =>
    refine .pure ?_
    cases beats with
    | number q =>
      have positive : 0 < count := Quantity.pos_of_integer whole (Except.ok.inj long)
      show 0 < count.toNat
      omega
    | _ => cases long

end Dynamics

/-! ## §2. What is about to be done. -/

/-- A call that shapes volume or tempo. -/
inductive Gesture where
  | cresc (factor measures : Datum) (shape : Shape.Choice Datum)
  | tempo (bpm tick : Datum)
  | rit (factor measures : Datum) (shape : Shape.Choice Datum)

/-- What such a call is about to do, once it has passed its checks. -/
inductive Gesture.Plan where
  /-- Begin a volume ramp. -/
  | ramp (r : VolumeRamp Datum)
  /-- Change the tempo at once. -/
  | change (d : Dynamics Datum)
  /-- Climb some stairs of a tempo ramp. -/
  | stairs (s : Dynamics.Staircase Datum) (startTick ticksPerBeat : Datum) (count : Nat)

namespace Gesture

variable {γ : Type}

def act : Gesture → Play γ Unit
  | .cresc factor measures shape => Play.cresc factor measures shape
  | .tempo bpm tick => Play.tempo bpm tick
  | .rit factor measures shape => Play.rit factor measures shape

/-- A finished voice is refused. -/
def requireOpen (v : Voice) : Except Fault Unit :=
  if v.finished then .error (.alreadyFinished v.name) else .ok ()

/-- So is an auxiliary, where the whole piece is concerned. -/
def requireMaster (v : Voice) : Except Fault Unit :=
  if v.auxiliary then .error .tempoOfAuxiliary else .ok ()

/-- The checks of a call, and what it is about to do. -/
def plan (v : Voice) : Gesture → Except Fault Plan
  | .cresc factor measures shape => do
    requireOpen v
    let count ← Play.positiveMeasures measures .crescendoWithoutMeasures
    let startTick ← v.clock.sub v.config.ticks
    let length ← count.mul v.measure
    return .ramp (← v.dynamics.rampTo factor (.number startTick) (.number length) shape)
  | .tempo bpm tick => do
    requireOpen v
    requireMaster v
    let tick :=
      match tick with
      | .null => .number v.clock
      | tick => tick
    return .change (← v.dynamics.setTempo bpm tick)
  | .rit factor measures shape => do
    requireOpen v
    requireMaster v
    let count ← Play.positiveMeasures measures .ritardandoWithoutMeasures
    let beats ← count.mul (.whole v.beats)
    let (stairs, count) ← v.dynamics.stairsOf factor (.number beats) shape
    return .stairs stairs (.number v.clock) (.number v.config.ticks) count

namespace Plan

/-- How what is done breaks off, and the dynamics it leaves: at a stair that is refused, or at a
report that cannot be written. -/
inductive Broken (d : Dynamics Datum) (f : Fault) : Plan → Dynamics Datum → Prop where
  | ramp {r : VolumeRamp Datum} (technical : f.kind.isMusical = false) :
    Broken d f (.ramp r) { d with ramp := some r }
  | stairs {s : Dynamics.Staircase Datum} {startTick ticksPerBeat : Datum} {count k : Nat}
      {e : Dynamics Datum} (below : k < count)
      (climbed : Dynamics.climb s startTick ticksPerBeat count 1 k d = (.ok (), e))
      (refused : Dynamics.stair s startTick ticksPerBeat count (k + 1) e = .error f) :
    Broken d f (.stairs s startTick ticksPerBeat count) e
  | top {s : Dynamics.Staircase Datum} {startTick ticksPerBeat : Datum} {count : Nat}
      {e : Dynamics Datum}
      (climbed : Dynamics.climb s startTick ticksPerBeat count 1 count d = (.ok (), e))
      (technical : f.kind.isMusical = false) :
    Broken d f (.stairs s startTick ticksPerBeat count) e

/-- What has no effect when it breaks off: a ramp that is the active one, and stairs of which the
first is refused. -/
def Idle (d : Dynamics Datum) : Plan → Prop
  | .ramp r => d.ramp = some r
  | .change _ => False
  | .stairs s startTick ticksPerBeat count =>
    ∃ f, Dynamics.stair s startTick ticksPerBeat count 1 d = .error f

/-- What is about to be done takes a step at least. -/
def Long : Plan → Prop
  | .stairs _ _ _ count => 0 < count
  | _ => True

variable {d e : Dynamics Datum} {f : Fault} {plan : Plan}

namespace Broken

theorem volume (h : plan.Broken d f e) : e.volume = d.volume := by
  cases h with
  | ramp => rfl
  | stairs _ climbed => exact (Dynamics.climb_queues climbed).2.1
  | top climbed => exact (Dynamics.climb_queues climbed).2.1

/-- Nothing has changed only if nothing was done. -/
theorem still_iff (h : plan.Broken d f e) (long : plan.Long) : e = d ↔ plan.Idle d := by
  cases h with
  | @ramp r technical =>
    constructor
    · intro same
      exact congrArg Dynamics.ramp same.symm
    · intro same
      show { d with ramp := some r } = d
      rw [← show d.ramp = some r from same]
  | @stairs s startTick ticksPerBeat count k e below climbed refused =>
    have queue := (Dynamics.climb_queues climbed).1
    constructor
    · -- Each stair that was climbed has queued a change.
      rintro rfl
      obtain rfl : k = 0 := by omega
      exact ⟨f, refused⟩
    · rintro ⟨g, first⟩
      cases k with
      | zero =>
        cases climbed
        rfl
      | succ k =>
        rw [Dynamics.climb_succ, first] at climbed
        cases climbed
  | @top s startTick ticksPerBeat count e climbed technical =>
    have queue := (Dynamics.climb_queues climbed).1
    have some_ : 0 < count := long
    constructor
    · rintro rfl
      omega
    · rintro ⟨g, first⟩
      obtain ⟨k, rfl⟩ := Nat.exists_eq_succ_of_ne_zero some_.ne'
      rw [Dynamics.climb_succ, first] at climbed
      cases climbed

end Broken

end Plan

theorem plan_long (v : Voice) (g : Gesture) : Yields (g.plan v) Plan.Long := by
  cases g with
  | cresc factor measures shape =>
    exact .bind fun _ _ => .bind fun _ _ => .bind fun _ _ => .bind fun _ _ => .bind fun _ _ =>
      .pure True.intro
  | tempo bpm tick =>
    exact .bind fun _ _ => .bind fun _ _ => .bind fun _ _ => .pure True.intro
  | rit factor measures shape =>
    refine .bind fun _ _ => .bind fun _ _ => .bind fun _ _ => .bind fun _ _ =>
      .bind fun asked climbs => .pure ?_
    exact Dynamics.stairsOf_pos _ _ _ asked climbs

end Gesture

/-! ## §3. How it fails. -/

namespace Dynamics

variable {d : Dynamics Datum}

/-- A crescendo is refused, or breaks off at its report, with its ramp begun. -/
theorem ensures_crescendo_broken (factor startTick length : Datum) (shape : Shape.Choice Datum) :
    (crescendo factor startTick length shape).Ensures d (fun _ _ => True) fun f e =>
      (d.rampTo factor startTick length shape = .error f ∧ e = d) ∨
        ∃ r, d.rampTo factor startTick length shape = .ok r ∧
          (Gesture.Plan.ramp r).Broken d f e := by
  unfold crescendo
  rw [Act.ensures_state_bind, Act.ensures_lift_bind]
  refine ⟨fun r begun => ?_, fun f refused => .inl ⟨refused, rfl⟩⟩
  have broken : ∀ f : Fault, f.Technical →
      (Gesture.Plan.ramp r).Broken d f { d with ramp := some r } :=
    fun f technical => .ramp technical.not_musical
  rw [Act.ensures_update_bind, Act.ensures_lift_bind]
  refine ⟨fun before _ => ?_, fun f failed =>
    .inr ⟨r, begun, broken f (technical_fixed _ _ f failed)⟩⟩
  rw [Act.ensures_lift_bind]
  refine ⟨fun after _ => ?_, fun f failed =>
    .inr ⟨r, begun, broken f (technical_fixed _ _ f failed)⟩⟩
  refine Act.ensures_report_bind ?_ (.inr ⟨r, begun, broken _ rfl⟩)
  exact (Act.ensures_pure _).2 True.intro

/-- A change of tempo is refused or goes well. -/
theorem ensures_tempo_whole (bpm tick : Datum) :
    (tempo bpm tick).Ensures d (fun _ _ => True) fun f e =>
      (d.setTempo bpm tick = .error f ∧ e = d) ∨
        ∃ d', d.setTempo bpm tick = .ok d' ∧ (Gesture.Plan.change d').Broken d f e := by
  unfold tempo change
  rw [Act.ensures_state_bind, Act.ensures_lift_bind]
  exact ⟨fun d' _ => (Act.ensures_update _).2 True.intro, fun f refused => .inl ⟨refused, rfl⟩⟩

/-- An act that climbs all stairs arrives where they lead, or ends at the one that is refused. -/
theorem ensures_climb (s : Staircase Datum) (startTick ticksPerBeat : Datum) (count : Nat)
    (d : Dynamics Datum) :
    (Act.ofStart fun desk : Desk (Dynamics Datum) =>
      let climbed := climb s startTick ticksPerBeat count 1 count desk.state
      (climbed.1, { desk with state := climbed.2 })).Ensures d
      (fun _ e => climb s startTick ticksPerBeat count 1 count d = (.ok (), e))
      fun f e => climb s startTick ticksPerBeat count 1 count d = (.error f, e) := by
  refine ⟨fun journal => ?_⟩
  rw [Act.start_ofStart]
  dsimp only
  rcases climb s startTick ticksPerBeat count 1 count d with ⟨_ | _, e⟩
  · rfl
  · rfl

/-- A tempo ramp is refused, or breaks off at a stair or at its report. -/
theorem ensures_ritardando_broken (factor startTick beats ticksPerBeat : Datum)
    (shape : Shape.Choice Datum) :
    (ritardando factor startTick beats ticksPerBeat shape).Ensures d (fun _ _ => True) fun f e =>
      (d.stairsOf factor beats shape = .error f ∧ e = d) ∨
        ∃ asked, d.stairsOf factor beats shape = .ok asked ∧
          (Gesture.Plan.stairs asked.1 startTick ticksPerBeat asked.2).Broken d f e := by
  unfold ritardando
  rw [Act.ensures_state_bind, Act.ensures_lift_bind]
  unfold stairsOf
  refine ⟨fun s accepted => ?_, fun f refused => .inl ⟨?_, rfl⟩⟩
  · rw [accepted]
    cases whole : beats.int? with
    | none =>
      rw [Act.ensures_throw]
      exact .inl ⟨rfl, rfl⟩
    | some count =>
      have climbs := ensures_climb s startTick ticksPerBeat count.toNat d
      refine (climbs.mono (fun _ _ climbed => climbed) ?_).bind fun _ e climbed => ?_
      · intro f e failed
        obtain ⟨k, below, climbed, refused⟩ := climb_error failed
        rw [Nat.add_comm] at refused
        exact .inr ⟨(s, count.toNat), rfl, .stairs below climbed refused⟩
      · have broken : ∀ f : Fault, f.Technical →
            (Gesture.Plan.stairs s startTick ticksPerBeat count.toNat).Broken d f e :=
          fun f technical => .top climbed technical.not_musical
        rw [Act.ensures_lift_bind]
        refine ⟨fun before _ => ?_, fun f failed =>
          .inr ⟨_, rfl, broken f (technical_fixed _ _ f failed)⟩⟩
        rw [Act.ensures_lift_bind]
        refine ⟨fun after _ => ?_, fun f failed =>
          .inr ⟨_, rfl, broken f (technical_fixed _ _ f failed)⟩⟩
        exact Act.ensures_report True.intro (.inr ⟨_, rfl, broken _ rfl⟩)
  · rw [refused]
    rfl

end Dynamics

namespace Gesture

variable {γ : Type} {p : Player γ}

/-- A player whose dynamics are others. -/
def withDynamics (p : Player γ) (d : Dynamics Datum) : Player γ :=
  { p with voice := { p.voice with dynamics := d } }

/-- How an act fails that does what is planned: the plan is refused, or it breaks off. -/
def FailsAs (planned : Except Fault Plan) (p : Player γ) (f : Fault) (q : Player γ) : Prop :=
  (planned = .error f ∧ q = p) ∨
    ∃ plan d, planned = .ok plan ∧ plan.Broken p.voice.dynamics f d ∧ q = withDynamics p d

/-- An act that does what is planned, with each check at its place. -/
def Follows {β : Type} (planned : Except Fault Plan) (act : Play γ β) (p : Player γ) : Prop :=
  act.Ensures p (fun _ _ => True) (FailsAs planned p)

namespace Follows

variable {α : Type} {next : α → Except Fault Plan} {rest : α → Play γ Unit}

theorem lift_bind {result : Except Fault α} (h : ∀ a, Follows (next a) (rest a) p) :
    Follows (result >>= next) (liftM result >>= rest) p := by
  unfold Follows
  rw [Act.ensures_lift_bind]
  constructor
  · rintro a rfl
    exact h a
  · rintro f rfl
    exact .inl ⟨rfl, rfl⟩

theorem requireOpen_bind {next : Unit → Except Fault Plan} {rest : Unit → Play γ Unit}
    (h : Follows (next ()) (rest ()) p) :
    Follows (requireOpen p.voice >>= next) (Play.requireOpen >>= rest) p := by
  unfold Follows requireOpen
  rw [Play.ensures_requireOpen_bind]
  split
  · exact .inl ⟨rfl, rfl⟩
  · exact h

theorem requireMaster_bind {next : Unit → Except Fault Plan} {rest : Unit → Play γ Unit}
    (h : Follows (next ()) (rest ()) p) :
    Follows (requireMaster p.voice >>= next) (Play.requireMaster >>= rest) p := by
  unfold Follows requireMaster
  cases member : p.voice.auxiliary with
  | true =>
    have refused : (Play.requireMaster : Play γ Unit).Ensures p (fun _ _ => False)
        fun f q => f = .tempoOfAuxiliary ∧ q = p := by
      unfold Play.requireMaster
      rw [Play.ensures_voice_bind, member, if_pos rfl, Act.ensures_throw]
      exact ⟨rfl, rfl⟩
    refine (refused.mono (fun _ _ never => never) ?_).bind fun _ _ never => never.elim
    rintro f q ⟨rfl, rfl⟩
    exact .inl ⟨rfl, rfl⟩
  | false =>
    have passes : (Play.requireMaster : Play γ Unit).Ensures p (fun _ q => q = p)
        fun _ _ => False := by
      unfold Play.requireMaster
      rw [Play.ensures_voice_bind, member, if_neg Bool.false_ne_true, Act.ensures_pure]
    exact passes.bind_eq fun _ => h

theorem voice_bind {planned : Except Fault Plan} {rest : Voice → Play γ Unit}
    (h : Follows planned (rest p.voice) p) : Follows planned (Play.voice >>= rest) p :=
  (Play.ensures_voice_bind rest).2 h

/-- What is returned does not matter. -/
theorem discard {planned : Except Fault Plan} {act : Play γ α} (h : Follows planned act p) :
    Follows planned (do let _ ← act : Play γ Unit) p :=
  h.bind fun _ _ _ => (Act.ensures_pure _).2 True.intro

/-- On the dynamics an act does what is planned for them. -/
theorem onDynamics {β : Type} {result : Except Fault α} {make : α → Plan}
    {act : Act (Dynamics Datum) β}
    (h : act.Ensures p.voice.dynamics (fun _ _ => True) fun f d =>
      (result = .error f ∧ d = p.voice.dynamics) ∨
        ∃ a, result = .ok a ∧ (make a).Broken p.voice.dynamics f d) :
    Follows (do return make (← result)) (Play.onDynamics act) p := by
  unfold Follows Play.onDynamics
  rw [Act.ensures_onPart]
  refine h.mono (fun _ _ _ => True.intro) ?_
  rintro f d (⟨rfl, rfl⟩ | ⟨a, rfl, broken⟩)
  · exact .inl ⟨rfl, rfl⟩
  · exact .inr ⟨make a, d, rfl, broken, rfl⟩

end Follows

/-- Every call does what is planned. -/
theorem follows_act (g : Gesture) (p : Player γ) : Follows (g.plan p.voice) g.act p := by
  cases g with
  | cresc factor measures shape =>
    refine .requireOpen_bind <| .lift_bind fun count => .voice_bind <|
      .lift_bind fun startTick => .lift_bind fun length => ?_
    exact .discard (.onDynamics (Dynamics.ensures_crescendo_broken ..))
  | tempo bpm tick =>
    refine .requireOpen_bind <| .requireMaster_bind <| .voice_bind ?_
    exact .onDynamics (Dynamics.ensures_tempo_whole ..)
  | rit factor measures shape =>
    refine .requireOpen_bind <| .requireMaster_bind <| .lift_bind fun count => .voice_bind <|
      .lift_bind fun beats => ?_
    exact .onDynamics (Dynamics.ensures_ritardando_broken ..)

end Gesture

/-! ## §4. Failed calls. -/

open Gesture in
/-- A failed crescendo or change of tempo leaves the clock, the volume and all else but the ramp and
the tempos as they were.  It was refused by its checks, and then it leaves everything as it was; or
it has broken off, at its report or at a stair that is refused, and then nothing has changed only
if the ramp that began was the active one already, or the first stair was refused. -/
theorem failed_ramp {γ : Type} {p : Player γ} (g : Gesture) {journal : Journal} {f : Fault}
    (failed : (g.act.start ⟨p, journal⟩).1 = .error f) :
    let q := (g.act.start ⟨p, journal⟩).2.state
    q = withDynamics p q.voice.dynamics ∧ q.voice.dynamics.volume = p.voice.dynamics.volume ∧
      ((g.plan p.voice = .error f ∧ q = p) ∨
        ∃ plan, g.plan p.voice = .ok plan ∧
          plan.Broken p.voice.dynamics f q.voice.dynamics ∧
          (q = p ↔ plan.Idle p.voice.dynamics)) := by
  intro q
  rcases (g.follows_act p).of_error failed with ⟨refused, same⟩ | ⟨plan, d, planned, broken, same⟩
  · have here : q = p := same
    rw [here]
    exact ⟨rfl, rfl, .inl ⟨refused, rfl⟩⟩
  · have here : q = withDynamics p d := same
    have still : withDynamics p d = p ↔ d = p.voice.dynamics := by
      constructor
      · intro same
        exact congrArg (fun q : Player γ => q.voice.dynamics) same
      · rintro rfl
        rfl
    rw [here]
    refine ⟨rfl, broken.volume, .inr ⟨plan, planned, broken, ?_⟩⟩
    rw [still]
    exact broken.still_iff (g.plan_long p.voice plan planned)

/-- A tempo ramp down to almost nothing over the four beats of a measure.  The first three stairs
are at 75, 50 and 25 beats a minute; the tempo of the last one is rounded to zero. -/
def Gesture.vanishing : Gesture :=
  .rit (.number (.float (.ofDecimal false 1 (-300)))) (.whole 1) (.datum (.text "linear"))

/-- The last stair is refused as a mistake of the configuration; the others stay queued. -/
theorem vanishing_queued :
    ∃ (p : Player Script) (f : Fault), oneString = .ok p ∧ p.voice.finished = false ∧
      (Gesture.vanishing.act.start ⟨p, #[]⟩).1 = .error f ∧ f.kind = .configuration ∧
      p.voice.dynamics.tempoChanges.toList.map (·.microseconds) = [] ∧
      (Gesture.vanishing.act.start ⟨p, #[]⟩).2.state.voice.dynamics.tempoChanges.toList.map
        (·.microseconds) = [800000, 1200000, 2400000] := by
  have seen : (oneString.toOption.map fun p =>
      let run := Gesture.vanishing.act.start ⟨p, #[]⟩
      (p.voice.finished, faultKind? run.1,
        p.voice.dynamics.tempoChanges.toList.map (·.microseconds),
        run.2.state.voice.dynamics.tempoChanges.toList.map (·.microseconds))) =
        some (false, some .configuration, [], [800000, 1200000, 2400000]) := by
    decide +kernel
  obtain ⟨p, created, seen⟩ := exists_ok_of_seen seen
  simp only [Prod.mk.injEq] at seen
  obtain ⟨isOpen, fails, before, after⟩ := seen
  obtain ⟨f, failed, kind⟩ := exists_error_of_kind fails
  exact ⟨p, f, created, isOpen, failed, kind, before, after⟩

/-- So a failed call can change the queue of tempos. -/
theorem vanishing_not_atomic :
    ∃ (p : Player Script) (f : Fault), oneString = .ok p ∧ p.voice.finished = false ∧
      (Gesture.vanishing.act.start ⟨p, #[]⟩).1 = .error f ∧
      ¬ (Gesture.vanishing.act.start ⟨p, #[]⟩).2.state.voice.dynamics.tempoChanges =
        p.voice.dynamics.tempoChanges := by
  obtain ⟨p, f, created, isOpen, failed, -, before, after⟩ := vanishing_queued
  refine ⟨p, f, created, isOpen, failed, fun same => ?_⟩
  rw [same, before] at after
  cases after

/-- The call had passed its checks, and broke off after its first stair. -/
theorem vanishing_breaks :
    ∃ (p : Player Script) (f : Fault) (plan : Gesture.Plan), oneString = .ok p ∧
      (Gesture.vanishing.act.start ⟨p, #[]⟩).1 = .error f ∧
      Gesture.vanishing.plan p.voice = .ok plan ∧
      plan.Broken p.voice.dynamics f
        (Gesture.vanishing.act.start ⟨p, #[]⟩).2.state.voice.dynamics ∧
      ¬ plan.Idle p.voice.dynamics := by
  obtain ⟨p, f, created, -, failed, -, before, after⟩ := vanishing_queued
  have changed : (Gesture.vanishing.act.start ⟨p, #[]⟩).2.state ≠ p := by
    intro same
    rw [same, before] at after
    cases after
  obtain ⟨-, -, ⟨-, same⟩ | ⟨plan, planned, broken, still⟩⟩ := failed_ramp .vanishing failed
  · exact absurd same changed
  · exact ⟨p, f, plan, created, failed, planned, broken, fun idle => changed (still.2 idle)⟩

end Plectrum
