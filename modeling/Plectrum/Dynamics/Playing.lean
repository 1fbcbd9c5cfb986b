/-
  Plectrum.Dynamics.Playing
  ─────────────────────────
  **Ramps in a performance.**

  The acts of a performance on its volume and tempo.  They are given data of any kind
  and report what they did.  A report shows the volumes and tempos with fixed places;
  one that cannot be shown is a failure after the ramp has begun.
-/
import Plectrum.Act
import Plectrum.Datum.Arithmetic
import Plectrum.Dynamics.Ramp

namespace Plectrum.Dynamics

/-- The act of one change that may fail. -/
def change (f : Dynamics Datum → Except Fault (Dynamics Datum)) :
    Act (Dynamics Datum) Unit := do
  let d ← f (← Act.state)
  Act.update fun _ => d

/-- A number with a fixed number of places, as reports show it. -/
def fixed (places : Nat) : Datum → Except Fault String
  | .number q => q.fixed places
  | .text _ => .error .textWithPlaces
  | _ => .error .wrongKind

/-- Begin a volume ramp; one in progress is replaced, not merged. -/
def crescendo (factor startTick length : Datum) (shape : Shape.Choice Datum) :
    Act (Dynamics Datum) (VolumeRamp Datum) := do
  let ramp ← (← Act.state).rampTo factor startTick length shape
  Act.update fun d => { d with ramp := some ramp }
  -- The ramp has begun; a volume that cannot be shown fails after that.
  let before ← fixed 3 ramp.startValue
  let after ← fixed 3 ramp.endValue
  Act.report .debug .ramp ["Volume ramp ", before, " → ", after, " over ticks ",
    .shown startTick, "..", .shown ramp.endTick]
  return ramp

/-- The volume at a tick; a ramp moves on with it. -/
def loudnessAt (tick : Datum) : Act (Dynamics Datum) Datum := do
  let (volume, d) ← (← Act.state).volumeAt tick
  Act.update fun _ => d
  return volume

/-- Queue a tempo change at a tick. -/
def tempo (bpm tick : Datum) : Act (Dynamics Datum) Unit :=
  change fun d => d.setTempo bpm tick

/-- Queue a tempo ramp, one change for each beat. -/
def ritardando (factor startTick beats ticksPerBeat : Datum) (shape : Shape.Choice Datum) :
    Act (Dynamics Datum) Unit := do
  let stairs ← (← Act.state).staircase factor beats shape
  match beats.int? with
  | some count =>
    Act.ofStart fun desk =>
      let (outcome, d) := climb stairs startTick ticksPerBeat count.toNat 1 count.toNat desk.state
      (outcome, { desk with state := d })
    let before ← fixed 2 stairs.start
    let after ← fixed 2 stairs.target
    Act.report .debug .ramp
      ["Tempo ramp ", before, " → ", after, " over ", .shown beats, " beats"]
  -- Beats that are no whole number cannot be counted.
  | none => throw .wrongKind

end Plectrum.Dynamics
