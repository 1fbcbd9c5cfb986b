/-
  Plectrum.Voice.Strike
  ─────────────────────
  **One strike: its time, its force, and the note it ends.**

  A strike strays from its written time by a draw, lands on a whole tick, and never
  comes before the strike that was written before it.  Its velocity strays too, is
  scaled by the volume of the moment, and is kept within 1 and 127, so that a quiet
  strike still sounds.
-/
import Plectrum.Voice.Basic

namespace Plectrum

/-! ## §1. Time. -/

/-- Where a strike lands: on the whole tick nearest to `shifted`, not before the
start, and not before the last strike if it is not written before that. -/
def LastStrike.landing (last : LastStrike) (nominal shifted : Quantity) : Except Fault Int := do
  let tick := max 0 (← shifted.nearest)
  -- Music that is written backwards stays so, and finishing reports it.
  return if last.nominal.le nominal then max tick last.tick else tick

namespace Play

variable {γ : Type}

/-- Where a strike written at `nominal` strays to. -/
def shift [ChanceSource γ] (nominal : Quantity) : Play γ Quantity := do
  let spread := (← voice).config.timeSpread
  if spread.isZero then pure nominal
  else do
    let x ← draw spread
    nominal.add (.float x)

/-- The played tick of a strike written at `nominal`. -/
def humanize [ChanceSource γ] (nominal : Quantity) : Play γ Int := do
  let shifted ← shift nominal
  let tick ← (← voice).lastStrike.landing nominal shifted
  changeVoice fun v => { v with lastStrike := ⟨nominal, tick⟩ }
  return tick

/-- How far the velocities of one moment stray. -/
def jitter [ChanceSource γ] : Play γ Binary64 := do
  let spread := (← voice).config.volumeSpread
  if spread.isZero then return .zero else draw spread

/-! ## §2. Notes. -/

/-- Add an event to the timeline. -/
def record (tick : Datum) (what : Happening) : Play γ Unit :=
  changeVoice fun v => { v with events := v.events.push ⟨tick, what⟩ }

def minVelocity : Int := 1
def maxVelocity : Int := 127

/-- A velocity within the bounds of a sounding note. -/
def clampVelocity (n : Int) : Int := max minVelocity (min maxVelocity n)

/-- The velocity of a note of force `force` at a volume. -/
def scaledVelocity (force volume : Quantity) : Except Fault Int := do
  return clampVelocity (← (← force.mul volume).nearest)

/-- Start a note, or end one when the velocity is not positive.  Tick and pitch are
recorded as they are given; a tick has to be a number only where a ramp asks for it. -/
def note (tick pitch velocity : Datum) : Play γ Unit := do
  requireOpen
  let channel := (← voice).channel
  let force ← velocity.asNumber
  if force.le (.whole 0) then record tick (.noteOff channel pitch (.whole 0))
  else
    -- Asking for the volume moves an active ramp on.
    let volume ← onDynamics (Dynamics.loudnessAt tick)
    let scaled ← scaledVelocity force (← volume.asNumber)
    record tick (.noteOn channel pitch (.whole scaled))

/-- What sounds on a string from now on. -/
def setSounding (index : Nat) (pitch : Option Quantity) : Play γ Unit :=
  changeVoice fun v => { v with sounding := v.sounding.set index pitch }

/-- End the note that sounds on a string, if one does. -/
def cut (tick : Int) (index : Nat) : Play γ Unit := do
  match (← voice).sounding[index]? with
  | some (some old) => note (.whole tick) (.number old) (.whole 0)
  | _ => pure ()

/-- The force of a velocity that strays.  Velocities within the spread do not stray, so
none strays down to silence. -/
def strayed (spread : Quantity) (velocity : Int) (stray : Binary64) : Except Fault Quantity :=
  if spread.lt (.whole velocity) then (Quantity.whole velocity).add (.float stray)
  else .ok (.whole velocity)

/-- Leave a string silent. -/
def mute (tick : Int) (index : Nat) (pitch : Quantity) (closesSounding : Bool) : Play γ Unit := do
  -- A drum has no note to cut, so it is the drum itself that ends.
  if !closesSounding then note (.whole tick) (.number pitch) (.whole 0)
  setSounding index none

/-- Let a string sound. -/
def sound (tick : Int) (index : Nat) (pitch : Quantity) (velocity : Int) (stray : Binary64) :
    Play γ Unit := do
  let force ← strayed (← voice).config.volumeSpread velocity stray
  note (.whole tick) (.number pitch) (.number force)
  setSounding index (some pitch)

/-- Mute a string when the velocity is not positive, and let it sound otherwise. -/
def muteOrSound (tick : Int) (index : Nat) (pitch : Quantity) (velocity : Int) (stray : Binary64)
    (closesSounding : Bool) : Play γ Unit :=
  if velocity ≤ 0 then mute tick index pitch closesSounding
  else sound tick index pitch velocity stray

/-- Strike a string.  The note that sounds there ends first, if strikes of this style end
notes. -/
def strike (tick : Int) (index : Nat) (pitch : Quantity) (velocity : Int) (stray : Binary64)
    (closesSounding : Bool) : Play γ Unit := do
  -- A new strike cuts the note that still sounds on this string.
  if closesSounding then cut tick index
  muteOrSound tick index pitch velocity stray closesSounding

end Play
end Plectrum
