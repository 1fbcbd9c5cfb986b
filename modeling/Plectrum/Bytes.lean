/-
  Plectrum.Bytes
  ──────────────
  **Numbers as bytes, the most significant first.**

  `bigEndian` writes a number with a given count of bytes, `number` reads bytes back.
  What is read back is the number without the part that the bytes do not hold.
-/
import Plectrum.Rounding

namespace Plectrum.Bytes

/-- The `width` low bytes of a number, the most significant first. -/
def bigEndian : Nat → Nat → List UInt8
  | 0, _ => []
  | width + 1, n => bigEndian width (n / 256) ++ [UInt8.ofNat (n % 256)]

/-- The number that bytes spell, the most significant first. -/
def number (bytes : List UInt8) : Nat := bytes.foldl (fun n b => 256 * n + b.toNat) 0

@[simp] theorem length_bigEndian (width n : Nat) : (bigEndian width n).length = width := by
  induction width generalizing n with
  | zero => rfl
  | succ width ih => simp [bigEndian, ih]

theorem number_append_singleton (bytes : List UInt8) (b : UInt8) :
    number (bytes ++ [b]) = 256 * number bytes + b.toNat := by
  simp [number]

/-- Reading what was written gives the number back, up to what the bytes hold. -/
theorem number_bigEndian (width n : Nat) :
    number (bigEndian width n) = n % Nat.pow 256 width := by
  induction width generalizing n with
  | zero => show 0 = n % 1; omega
  | succ width ih =>
    have hb : (UInt8.ofNat (n % 256)).toNat = n % 256 := by
      simp
    show number (bigEndian width (n / 256) ++ [UInt8.ofNat (n % 256)]) = _
    rw [number_append_singleton, ih, hb]
    show 256 * (n / 256 % Nat.pow 256 width) + n % 256 = n % (Nat.pow 256 width * 256)
    rw [Nat.mul_comm (Nat.pow 256 width) 256, Nat.mod_mul]
    omega

/-- A number for which there are enough bytes is given back. -/
theorem number_bigEndian_of_lt {width n : Nat} (small : n < Nat.pow 256 width) :
    number (bigEndian width n) = n := by
  rw [number_bigEndian, Nat.mod_eq_of_lt small]

end Plectrum.Bytes
