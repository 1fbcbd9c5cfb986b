/-
  Plectrum.Dynamics.Ramp
  ──────────────────────
  **Volume and tempo over time.**

  A volume ramp is continuous and is evaluated at the tick of each note; only one is
  active at a time.  A tempo ramp is a staircase of tempo changes, one for each
  beat.  `Dynamics` holds the volume scale, the active volume ramp, the current tempo
  and the tempo changes queued so far, over any `Scalar`.
-/
import Plectrum.Dynamics.Easing

namespace Plectrum

/-! ## §1. The state. -/

/-- A gradual change of volume between two ticks. -/
structure VolumeRamp (α : Type) where
  startTick : α
  startValue : α
  endTick : α
  endValue : α
  shape : Shape α
  deriving Repr

/-- A tempo, in microseconds for each beat, from a tick on. -/
structure TempoChange (α : Type) where
  tick : α
  microseconds : Int
  deriving Repr

/-- The volume and tempo of an instrument. -/
structure Dynamics (α : Type) where
  /-- The tempo at the very start. -/
  initialBpm : α
  bpm : α
  volume : α
  ramp : Option (VolumeRamp α)
  tempoChanges : Array (TempoChange α)
  deriving Repr

variable {α : Type} [Scalar α]

/-- The value of a ramp at a tick within it. -/
def VolumeRamp.valueAt (r : VolumeRamp α) (tick : α) : Except Fault α :=
  if Scalar.same r.endTick r.startTick then .ok r.endValue
  else do
    let passed ← Scalar.sub tick r.startTick
    let length ← Scalar.sub r.endTick r.startTick
    let progress ← Scalar.div passed length
    r.shape.blend r.startValue r.endValue progress

/-- The microseconds of one beat at a tempo, to the nearest. -/
def microsecondsPerBeat (bpm : α) : Except Fault Int := do
  let beat ← Scalar.div (Scalar.constant 60000000) bpm
  let four ← Scalar.mul beat (Scalar.count 4)
  Scalar.nearest (← Scalar.div four (Scalar.constant 4))

namespace Dynamics

/-- The state at the start of a piece. -/
def start (bpm volume : α) : Except Fault (Dynamics α) := do
  if ← Scalar.le bpm (Scalar.count 0) then .error .tempoNotPositive
  return ⟨bpm, bpm, volume, none, #[]⟩

/-! ## §2. Volume. -/

/-- The ramp from the current volume to `factor` times that volume. -/
def rampTo (d : Dynamics α) (factor startTick length : α) (shape : Shape.Choice α) :
    Except Fault (VolumeRamp α) := do
  if ← Scalar.lt factor (Scalar.count 0) then .error .negativeVolumeFactor
  if ← Scalar.le length (Scalar.count 0) then .error .rampWithoutLength
  let endTick ← Scalar.add startTick length
  let endValue ← Scalar.mul factor d.volume
  let shape ← Shape.chosen shape
  return ⟨startTick, d.volume, endTick, endValue, shape⟩

/-- The volume at a tick, and the state after it: a ramp that has ended leaves its
end value as the steady volume and is cleared. -/
def volumeAt (d : Dynamics α) (tick : α) : Except Fault (α × Dynamics α) :=
  match d.ramp with
  | none => .ok (d.volume, d)
  | some ramp => do
    -- At the end the ramp has done its work: its end value becomes the steady volume.
    if ← Scalar.le ramp.endTick tick then
      return (ramp.endValue, { d with volume := ramp.endValue, ramp := none })
    else if ← Scalar.le ramp.startTick tick then
      let volume ← ramp.valueAt tick
      return (volume, { d with volume })
    -- Before the ramp begins, the volume stays as it was.
    else return (d.volume, d)

/-! ## §3. Tempo. -/

/-- Queue a tempo change at a tick, and make its tempo the current one. -/
def setTempo (d : Dynamics α) (bpm tick : α) : Except Fault (Dynamics α) := do
  if ← Scalar.le bpm (Scalar.count 0) then .error .tempoNotPositive
  let microseconds ← microsecondsPerBeat bpm
  return { d with bpm, tempoChanges := d.tempoChanges.push ⟨tick, microseconds⟩ }

/-- The tempo of the `step`-th stair of `beats` from `start` to `target`, the first being number one. -/
def stairTempo (start target : α) (shape : Shape α) (beats step : Nat) : Except Fault α := do
  let progress ← Scalar.div (Scalar.count step) (Scalar.count (α := α) beats)
  shape.blend start target progress

/-- The tick of the `step`-th stair. -/
def stairTick (startTick ticksPerBeat : α) (step : Nat) : Except Fault α := do
  Scalar.add startTick (← Scalar.mul (Scalar.count (step - 1 : Int)) ticksPerBeat)

/-- What a tempo ramp needs: its shape, and the tempos at its two ends. -/
structure Staircase (α : Type) where
  start : α
  target : α
  shape : Shape α

/-- The checks of a tempo ramp. -/
def staircase (d : Dynamics α) (factor beats : α) (shape : Shape.Choice α) :
    Except Fault (Staircase α) := do
  if ← Scalar.le factor (Scalar.count 0) then .error .tempoFactorNotPositive
  if ← Scalar.le beats (Scalar.count 0) then .error .rampWithoutBeats
  let shape ← Shape.chosen shape
  return ⟨d.bpm, ← Scalar.mul factor d.bpm, shape⟩

/-- Queue the stairs from number `step` on, `count` of them.  The changes before a
stair that fails stay queued. -/
def climb (s : Staircase α) (startTick ticksPerBeat : α) (beats : Nat) :
    Nat → Nat → Dynamics α → Except Fault Unit × Dynamics α
  | _, 0, d => (.ok (), d)
  | step, count + 1, d =>
    -- One stair: its tempo, then its tick, then the check of `setTempo`.
    let next : Except Fault (Dynamics α) := do
      let bpm ← stairTempo s.start s.target s.shape beats step
      d.setTempo bpm (← stairTick startTick ticksPerBeat step)
    match next with
    | .error f => (.error f, d)
    | .ok d => climb s startTick ticksPerBeat beats (step + 1) count d

end Dynamics
end Plectrum
