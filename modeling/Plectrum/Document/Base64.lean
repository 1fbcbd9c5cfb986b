/-
  Plectrum.Document.Base64
  ────────────────────────
  **Bytes that are written as letters, six bits each.**

  Four letters carry three bytes.  Equals signs fill up the last four when fewer bytes are
  left, and nothing is read after them.  Characters that carry no bits do not count,
  wherever they stand.
-/
import Plectrum.Text.Letter

namespace Plectrum.Base64

/-- The bits that a character carries. -/
def bits? (c : Char) : Option Nat :=
  if 'A' ≤ c ∧ c ≤ 'Z' then some (c.toNat - 'A'.toNat)
  else if 'a' ≤ c ∧ c ≤ 'z' then some (c.toNat - 'a'.toNat + 26)
  else if '0' ≤ c ∧ c ≤ '9' then some (c.toNat - '0'.toNat + 52)
  else if c = '+' then some 62
  else if c = '/' then some 63
  else none

/-- A group of four letters as far as it is read. -/
structure Group where
  /-- How many of its letters came. -/
  count : Nat
  /-- The bits that have not made up a byte yet. -/
  left : Nat
  /-- How many equals signs came since the last letter. -/
  signs : Nat

/-- One more letter of a group: the bytes that it completes, and the group after it. -/
def Group.push (g : Group) (bits : Nat) : List UInt8 × Group :=
  match g.count with
  | 0 => ([], ⟨1, bits, 0⟩)
  | 1 => ([(g.left * 4 + bits / 16).toUInt8], ⟨2, bits % 16, 0⟩)
  | 2 => ([(g.left * 16 + bits / 4).toUInt8], ⟨3, bits % 4, 0⟩)
  | _ => ([(g.left * 64 + bits).toUInt8], ⟨0, 0, 0⟩)

/-- The bytes of characters after a group; none when the last group is not filled up. -/
def decodeFrom (g : Group) : List Char → Option (List UInt8)
  | [] => if g.count = 0 then some [] else none
  | c :: cs =>
    if c = '=' then
      if g.count < 2 then decodeFrom g cs
      else if 4 ≤ g.count + g.signs + 1 then some []
      else decodeFrom { g with signs := g.signs + 1 } cs
    else
      match bits? c with
      | none => decodeFrom g cs
      | some bits =>
        let (bytes, g) := g.push bits
        (decodeFrom g cs).map (bytes ++ ·)

/-- The bytes of characters. -/
def decode? (cs : List Char) : Option (List UInt8) := decodeFrom ⟨0, 0, 0⟩ cs

example : decode? "aGk=".toList = some [104, 105] ∧ decode? "aGk".toList = none := by decide
example : decode? "a G\nk = x".toList = some [104, 105] ∧ decode? "=".toList = some [] := by decide

end Plectrum.Base64
