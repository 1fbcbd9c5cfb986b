/-
  Plectrum.Proofs.Settings
  ────────────────────────
  **What accepted settings promise.**

  Every bound is checked when settings are read.  So a configuration that comes from
  options is within all of them, and nothing that plays has to check them again.
-/
import Plectrum.Config.Setup
import Plectrum.Proofs.Outcomes

namespace Plectrum

/-! ## §1. Bounds. -/

/-- A time signature has at least one beat, of a note that may be one. -/
theorem Signature.read_bounds (t : Text) :
    Yields (Signature.read t) fun s => 1 ≤ s.beats ∧ s.unit ∈ Signature.units := by
  unfold Signature.read
  split
  · intro s same
    cases same
  · refine .bind fun beats _ => ?_
    refine .bind fun unit _ => ?_
    split
    · intro s same
      cases same
    · next bounds =>
      rw [not_or, Decidable.not_not, Nat.not_lt] at bounds
      exact .pure bounds

namespace Config

/-- A configuration within all bounds. -/
structure InBounds (c : Config) : Prop where
  signature : 1 ≤ c.signature.beats ∧ c.signature.unit ∈ Signature.units
  bpm : c.bpm.le (.whole 0) = false
  channel : between (.whole 0) lastChannel c.channel = true
  volume : between (.whole 0) maxVolume c.volume = true
  timeSpread : between (.whole 0) maxTimeSpread c.timeSpread = true
  volumeSpread : between (.whole 0) maxVolumeSpread c.volumeSpread = true
  lead : ∀ beats, c.lead = some beats → beats.lt (.whole 0) = false
  ticks : c.ticks.le (.whole 0) = false

theorem ofSettings_inBounds (settings : Options) : Yields (ofSettings settings) InBounds := by
  unfold ofSettings
  refine .bind fun text _ => ?_
  refine .bind fun signature signatureRead => ?_
  refine .bind fun bpm _ => ?_
  refine .check fun bpmPositive => ?_
  refine .bind fun channel _ => ?_
  refine .check fun channelBetween => ?_
  refine .bind fun volume _ => ?_
  refine .check fun volumeBetween => ?_
  refine .bind fun timeSpread _ => ?_
  refine .check fun timeSpreadBetween => ?_
  refine .bind fun volumeSpread _ => ?_
  refine .check fun volumeSpreadBetween => ?_
  refine .bind fun lead _ => ?_
  have signatureBounds := Signature.read_bounds text signature signatureRead
  rw [Bool.not_eq_true] at bpmPositive
  rw [Bool.not_eq_true', Bool.not_eq_false] at channelBetween volumeBetween timeSpreadBetween
  rw [Bool.not_eq_true', Bool.not_eq_false] at volumeSpreadBetween
  cases lead with
  | none =>
    refine .bind fun ticks _ => ?_
    refine .check fun ticksPositive => ?_
    rw [Bool.not_eq_true] at ticksPositive
    refine .pure ⟨signatureBounds, bpmPositive, channelBetween, volumeBetween,
      timeSpreadBetween, volumeSpreadBetween, ?_, ticksPositive⟩
    intro beats none_
    cases none_
  | some beats =>
    refine .check fun leadPositive => ?_
    refine .bind fun ticks _ => ?_
    refine .check fun ticksPositive => ?_
    rw [Bool.not_eq_true] at leadPositive ticksPositive
    refine .pure ⟨signatureBounds, bpmPositive, channelBetween, volumeBetween,
      timeSpreadBetween, volumeSpreadBetween, ?_, ticksPositive⟩
    rintro _ ⟨rfl⟩
    exact leadPositive

theorem ofOptions_inBounds (options : Options) : Yields (ofOptions options) InBounds := by
  unfold ofOptions
  exact .bind fun settings _ => ofSettings_inBounds settings

end Config

/-- A setup of single options has their configuration. -/
theorem Setup.ofOptions_config (options : Options) :
    Yields (Setup.ofOptions options) fun setup =>
      Config.ofOptions (Setup.without Setup.configKey (Setup.without Setup.chanceKey options)) =
        .ok setup.config := by
  unfold Setup.ofOptions
  refine .check fun _ => ?_
  dsimp only
  refine .check fun _ => ?_
  exact .bind fun config accepted => .pure accepted

end Plectrum
