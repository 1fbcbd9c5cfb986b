/-
  Plectrum.Config.Setup
  ─────────────────────
  **What a new instrument is set up with.**

  An instrument takes a prepared configuration or single options, and may be given
  something to draw chance from in place of a source of its own.  Among single options
  these two have keys of their own, `config` and `rng`.
-/
import Plectrum.Config.Basic

namespace Plectrum

/-- What a new instrument is set up with. -/
structure Setup where
  config : Config
  /-- Whether chance comes from the seed of the settings, and not from something given. -/
  seeded : Bool
  deriving Repr

namespace Setup

/-- The key of the instrument itself, which no option may have. -/
def ownKey : Text := "self"

/-- The key of a prepared configuration. -/
def configKey : Text := "config"

/-- The key of something to draw chance from. -/
def chanceKey : Text := "rng"

/-- Options without a key. -/
def without (key : Text) (options : Options) : Options :=
  options.filter fun option => option.1 != key

/-- Whether chance comes from the seed: nothing is given in its place. -/
def isSeeded (options : Options) : Bool := (Config.given? options chanceKey).isNone

/-- A setup of a configuration alone. -/
def ofConfig (config : Config) : Setup := ⟨config, true⟩

/-- A setup of single options.  A value at the key of a configuration excludes all others,
and is no configuration. -/
def ofOptions (options : Options) : Except Fault Setup := do
  if options.has ownKey then throw .wrongKind
  let single := without configKey (without chanceKey options)
  if (Config.given? options configKey).isSome then
    throw (if single.isEmpty then .lacksOperation else .configAndOptions)
  return ⟨← Config.ofOptions single, isSeeded options⟩

/-- A setup of a configuration and single options, which exclude each other. -/
def ofConfigAndOptions (config : Config) (options : Options) : Except Fault Setup := do
  if options.has ownKey || options.has configKey then throw .wrongKind
  if !(without chanceKey options).isEmpty then throw .configAndOptions
  return ⟨config, isSeeded options⟩

end Setup
end Plectrum
