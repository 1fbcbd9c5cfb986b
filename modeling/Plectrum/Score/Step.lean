/-
  Plectrum.Score.Step
  ───────────────────
  **One step of a score.**

  A step is a mapping whose key says what is done: play, rest, tab, cresc, rit or
  tempo.  Reading a step settles everything that is asked for, so that performing it
  is one call on the instrument.
-/
import Plectrum.Datum.Reading
import Plectrum.Voice.Expression
import Plectrum.Voice.Measure
import Plectrum.Voice.Tab

namespace Plectrum.Score

/-! ## §1. Steps. -/

/-- What a step asks for. -/
inductive Step where
  | silence
  | play (pattern : Pattern) (chords : List Datum)
  | rest (measures : Int)
  /-- A tab, with the beats of a measure if they are stated. -/
  | tab (text beats : Datum)
  | cresc (factor : Binary64) (measures : Int) (shape : Datum)
  | rit (factor : Binary64) (measures : Int) (shape : Datum)
  | tempo (bpm : Binary64)
  deriving Repr

/-- What steps refer to. -/
structure Names where
  patterns : List (Datum × Pattern)
  /-- The mapping of the named chords. -/
  chords : Datum
  deriving Repr

/-! ## §2. Reading. -/

/-- A chord as a step gives it: a name of a chord stands for that chord. -/
def chordOf (names : Names) (d : Datum) : Except Fault Datum :=
  match d with
  | .text _ => do return (Datum.lookup? d (← names.chords.entries)).getD d
  | _ => .ok d

/-- The pattern that a step names. -/
def patternOf (names : Names) (number : Nat) (name : Datum) : Except Fault Pattern :=
  if !name.isKey then .error .wrongKind
  else
    match (names.patterns.find? fun entry => entry.1.sameKey name).map (·.2) with
    | some pattern => .ok pattern
    | none => .error (.unknownPattern number name)

/-- A play step: nothing, the name of a pattern, or a list of such a name and chords. -/
def readPlay (names : Names) (number : Nat) (d : Datum) : Except Fault Step := do
  let parts ←
    match d with
    | .text t => pure [Datum.text t]
    | d => if d.isNothing then pure [] else d.elements
  match parts with
  | [] => return .silence
  | name :: chords => return .play (← patternOf names number name) (← chords.mapM (chordOf names))

/-- What ramps take: a factor for one measure, or a list of a factor and measures. -/
def readRamp (step : String) (d : Datum) : Except Fault (Binary64 × Int) :=
  match d.turned with
  | .truth _ | .number _ => do return (← d.readDouble, 1)
  | .list [factor, measures] => do return (← factor.readDouble, ← measures.readWhole)
  | _ => .error (.badRampArguments step d)

/-- The shape of a ramp step. -/
def shapeOf (step : Datum) : Datum := (step.field? "shape").getD (.text Easing.linear.name)

/-- Read the step with a number.  The first of the known keys that a step has decides. -/
def Step.read (names : Names) (number : Nat) (step : Datum) : Except Fault Step :=
  match step.turned with
  | .mapping _ =>
    match step.field? "play", step.field? "rest", step.field? "tab", step.field? "cresc",
      step.field? "rit", step.field? "tempo" with
    -- Further keys of the step do not count.
    | some d, _, _, _, _, _ => readPlay names number d
    | _, some d, _, _, _, _ =>
      -- Nothing stands for one measure, and so does zero.
      if d.isNothing then .ok (.rest 1) else do return .rest (← d.readWhole)
    | _, _, some d, _, _, _ => .ok (.tab d ((step.field? "beats").getD .null))
    | _, _, _, some d, _, _ => do
      let (factor, measures) ← readRamp "cresc" d
      return .cresc factor measures (shapeOf step)
    | _, _, _, _, some d, _ => do
      let (factor, measures) ← readRamp "rit" d
      return .rit factor measures (shapeOf step)
    | _, _, _, _, _, some d => do return .tempo (← d.readDouble)
    | none, none, none, none, none, none => .error (.unknownStep number step)
  | _ => .error (.stepNotMapping number step)

/-! ## §3. Performing. -/

variable {γ : Type} [ChanceSource γ]

/-- A double as a datum. -/
def ofDouble (x : Binary64) : Datum := .number (.float x)

/-- Do what a step asks for. -/
def Step.perform : Step → Play γ Unit
  | .silence => Play.play .silence []
  | .play pattern chords => Play.play (.pattern pattern) chords
  | .rest measures => Play.rest (.whole measures)
  | .tab text beats => Play.tab [text] beats
  | .cresc factor measures shape => Play.cresc (ofDouble factor) (.whole measures) shape
  | .rit factor measures shape => Play.rit (ofDouble factor) (.whole measures) shape
  | .tempo bpm => Play.tempo (ofDouble bpm) .null

/-- Perform steps in order, from a number on.  A step is read when its turn comes. -/
def performSteps (names : Names) : Nat → List Datum → Play γ Unit
  | _, [] => pure ()
  | number, step :: steps => do
    -- What the earlier steps did stays done when this one cannot be read.
    (← Step.read names number step).perform
    performSteps names (number + 1) steps

end Plectrum.Score
