/-
  Plectrum.Text.Digit
  ───────────────────
  **Decimal digits of every script.**

  Unicode lists its decimal digits in blocks of ten consecutive characters, from
  the zero to the nine of one script.  `digitValue?` looks a letter up in the
  blocks; a number may mix digits of several scripts.  Superscripts, circled and
  other digit-like characters have a digit value but are no decimal digits.
-/
import Plectrum.Text.Letter

namespace Plectrum.Text

/-- The zero of each block of decimal digits. -/
def digitZeros : List Nat :=
  [0x30, 0x660, 0x6F0, 0x7C0, 0x966, 0x9E6, 0xA66, 0xAE6, 0xB66, 0xBE6, 0xC66, 0xCE6, 0xD66,
   0xDE6, 0xE50, 0xED0, 0xF20, 0x1040, 0x1090, 0x17E0, 0x1810, 0x1946, 0x19D0, 0x1A80, 0x1A90,
   0x1B50, 0x1BB0, 0x1C40, 0x1C50, 0xA620, 0xA8D0, 0xA900, 0xA9D0, 0xA9F0, 0xAA50, 0xABF0,
   0xFF10, 0x104A0, 0x10D30, 0x11066, 0x110F0, 0x11136, 0x111D0, 0x112F0, 0x11450, 0x114D0,
   0x11650, 0x116C0, 0x11730, 0x118E0, 0x11950, 0x11C50, 0x11D50, 0x11DA0, 0x16A60, 0x16AC0,
   0x16B50, 0x1D7CE, 0x1D7D8, 0x1D7E2, 0x1D7EC, 0x1D7F6, 0x1E140, 0x1E2F0, 0x1E950, 0x1FBF0]

/-- The first and last characters of the runs of digits that are not decimal. -/
def otherDigits : List (Nat × Nat) :=
  [(0xB2, 0xB3), (0xB9, 0xB9), (0x1369, 0x1371), (0x19DA, 0x19DA), (0x2070, 0x2070),
   (0x2074, 0x2079), (0x2080, 0x2089), (0x2460, 0x2468), (0x2474, 0x247C), (0x2488, 0x2490),
   (0x24EA, 0x24EA), (0x24F5, 0x24FD), (0x24FF, 0x24FF), (0x2776, 0x277E), (0x2780, 0x2788),
   (0x278A, 0x2792), (0x10A40, 0x10A43), (0x10E60, 0x10E68), (0x11052, 0x1105A),
   (0x1F100, 0x1F10A)]

/-- The most digits that one whole number may be read from or written with. -/
def digitLimit : Nat := 4300

/-- The value of a decimal digit. -/
def digitValue? (l : Letter) : Option Nat :=
  let n := l.code
  (digitZeros.find? fun first => first ≤ n && n < first + 10).map (n - ·)

/-- A decimal digit of some script. -/
def isDigit (l : Letter) : Bool := (digitValue? l).isSome

/-- A decimal digit, or a superscript, circled or similar digit. -/
def isDigitLike (l : Letter) : Bool :=
  isDigit l || otherDigits.any fun (first, last) => first ≤ l.code && l.code ≤ last

/-- The number that digits stand for; other letters count as zero. -/
def digitsValue (ds : Text) : Nat :=
  ds.foldl (fun n l => 10 * n + (digitValue? l).getD 0) 0

/-- The value of a digit is below ten. -/
theorem digitValue?_lt {l : Letter} {v : Nat} (h : digitValue? l = some v) : v < 10 := by
  simp only [digitValue?, Option.map_eq_some_iff] at h
  obtain ⟨first, hz, rfl⟩ := h
  have := List.find?_some hz
  simp only [Bool.and_eq_true, decide_eq_true_eq] at this
  omega

example : digitsValue "٤2" = 42 := by decide
example : isDigit '²' = false ∧ isDigitLike '²' = true := by decide

end Plectrum.Text
