/-
  Plectrum.Band.Basic
  ───────────────────
  **A band: a master voice and its auxiliaries.**

  The auxiliaries share the master's time signature, tempo, tick resolution, lead-in
  and source of chance, and are finished together with it.  Each gets the next
  channel that is free by its number, unless it is percussion or asks for one.
-/
import Plectrum.Chance.Seed
import Plectrum.Config.Setup
import Plectrum.Folder
import Plectrum.Voice.Basic

namespace Plectrum

/-- Voices that are finished into one file. -/
structure Band (γ : Type) where
  master : Voice
  /-- In the order they joined. -/
  auxiliaries : List Voice
  /-- What all voices draw from; none draws nothing. -/
  chance : Option γ
  /-- Where songs are saved. -/
  folder : Folder

/-- One voice of a band. -/
inductive Part where
  | master
  /-- By the order of joining, from zero on. -/
  | auxiliary (index : Nat)
  deriving Repr, DecidableEq

/-- A step of a whole band. -/
abbrev Perform (γ α : Type) := Act (Band γ) α

namespace Band

variable {γ σ : Type}

/-! ## §1. Voices. -/

/-- The source of chance of a setup: `chanceOf` makes one from the number of its seed. -/
def chanceOfSetup (chanceOf : Option Nat → γ) (setup : Setup) : Except Fault (Option γ) := do
  if setup.seeded then return some (chanceOf (← Seed.number? setup.config.seed)) else return none

/-- A band with a master alone, which introduces itself. -/
def create (chanceOf : Option Nat → γ) (setup : Setup) (folder : Folder) : Act σ (Band γ) := do
  let tuning ← Tuning.ofConfig setup.config
  -- A wrong seed is noticed after the program and the strings.
  let chance ← chanceOfSetup chanceOf setup
  let master ← Voice.create setup.config tuning false
  master.greet
  return ⟨master, [], chance, folder⟩

/-- The voice that plays a part. -/
def voice? (band : Band γ) : Part → Option Voice
  | .master => some band.master
  | .auxiliary i => band.auxiliaries[i]?

/-- Put a voice into a part. -/
def setVoice (band : Band γ) (part : Part) (v : Voice) : Band γ :=
  match part with
  | .master => { band with master := v }
  | .auxiliary i => { band with auxiliaries := band.auxiliaries.set i v }

end Band

namespace Perform

variable {γ α : Type}

/-- The voice that plays a part. -/
def voice (part : Part) : Perform γ Voice := do
  match (← Act.state).voice? part, part with
  | some v, _ => return v
  | none, .master => throw (.noSuchVoice 0)
  | none, .auxiliary i => throw (.noSuchVoice (i + 1))

/-- Play on one part; all parts draw from the one source of chance. -/
def on (part : Part) (act : Play γ α) : Perform γ α := do
  let v ← voice part
  Act.onPart (fun band => ⟨v, band.chance⟩)
    (fun player band => { band.setVoice part player.voice with chance := player.chance }) act

/-! ## §2. Auxiliaries. -/

/-- The channel of the auxiliary that joins as number `index`, counted from zero: the
channels follow the master's default one and leave the percussion channel out. -/
def auxiliaryChannel (index : Quantity) : Except Fault Quantity := do
  let next ← index.add (.whole 1)
  -- Drums own their channel, so melodic voices step over it.
  let channel ← if Config.percussionChannel.le next then next.add (.whole 1) else pure next
  if Config.lastChannel.lt channel then throw (.noChannelLeft next)
  return channel

/-- The options that auxiliaries share with their master. -/
def sharedOptions : List Text :=
  ["signature", "sig", "bpm", "tempo", "ticks", "lead", "midi", "file"]

/-- Whether an auxiliary with these options is given a channel. -/
def needsChannel (options : Options) : Bool :=
  ((options.get? "percussion").getD .null).isNothing
    && !options.has "channel" && !options.has "chan"

/-- The options of an auxiliary, with all that it shares with `master`; `count` is
the number of auxiliaries before it. -/
def auxiliaryOptions (master : Config) (count : Nat) (options : Options) :
    Except Fault Options := do
  let shared := ((((((options.set "signature" (.text master.signature.written)).set
    "bpm" (.number master.bpm)).set
    "ticks" (.number master.ticks)).set
    "lead" ((master.lead.map Datum.number).getD .null)).set
    "metronome" (.truth false)).set
    "attribution" (.truth false))
  let settled ←
    if needsChannel options then do
      pure (shared.set "channel" (.number (← auxiliaryChannel (.whole count))))
    else pure shared
  return settled.setDefault "name" (.text (master.name.shown ++ " " ++ toString (count + 1)))

/-- Let an auxiliary join the voice that plays `part`.  Its seed does not count. -/
def join (part : Part) (options : Options) : Perform γ Voice := do
  if options.has Setup.ownKey then throw .wrongKind
  let v ← voice part
  if v.finished then throw (.alreadyFinished v.name)
  if v.auxiliary then throw .auxiliaryOfAuxiliary
  match sharedOptions.find? options.has with
  | some key => throw (.sharedOption key)
  | none =>
    let band ← Act.state
    -- The new voice joins only when all of its options have been accepted.
    let full ← auxiliaryOptions v.config band.auxiliaries.length options
    let config ← Config.ofOptions full
    let aux ← Voice.create config (← Tuning.ofConfig config) true
    aux.greet
    Act.update fun band => { band with auxiliaries := band.auxiliaries ++ [aux] }
    return aux

end Perform
end Plectrum
