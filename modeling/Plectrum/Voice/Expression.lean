/-
  Plectrum.Voice.Expression
  ─────────────────────────
  **Crescendos and changes of tempo.**

  A volume ramp starts one beat before the clock, so that the next strike already
  feels it.  Tempo belongs to the whole piece, so only its master changes it.
-/
import Plectrum.Voice.Basic

namespace Plectrum.Play

variable {γ : Type}

/-- A number of measures that is positive. -/
def positiveMeasures (measures : Datum) (fault : Quantity → Fault) : Except Fault Quantity := do
  let count ← measures.asNumber
  if count.le (.whole 0) then throw (fault count)
  return count

/-- Ramp the volume to `factor` times its value, over `measures` measures. -/
def cresc (factor measures : Datum) (shape : Shape.Choice Datum) : Play γ Unit := do
  requireOpen
  let count ← positiveMeasures measures .crescendoWithoutMeasures
  let v ← voice
  -- One beat early, so that the next strike feels it.
  let startTick ← v.clock.sub v.config.ticks
  let length ← count.mul v.measure
  let _ ← onDynamics (Dynamics.crescendo factor (.number startTick) (.number length) shape)

/-- Tempo changes belong to the master. -/
def requireMaster : Play γ Unit := do
  if (← voice).auxiliary then throw .tempoOfAuxiliary

/-- Change the tempo at a tick, or at the clock when none is given. -/
def tempo (bpm tick : Datum) : Play γ Unit := do
  requireOpen
  requireMaster
  let clock := (← voice).clock
  let tick :=
    match tick with
    | .null => .number clock
    | tick => tick
  onDynamics (Dynamics.tempo bpm tick)

/-- Ramp the tempo to `factor` times its value over `measures` measures, with one
change for each beat. -/
def rit (factor measures : Datum) (shape : Shape.Choice Datum) : Play γ Unit := do
  requireOpen
  requireMaster
  let count ← positiveMeasures measures .ritardandoWithoutMeasures
  let v ← voice
  let beats ← count.mul (.whole v.beats)
  onDynamics
    (Dynamics.ritardando factor (.number v.clock) (.number beats) (.number v.config.ticks) shape)

end Plectrum.Play
