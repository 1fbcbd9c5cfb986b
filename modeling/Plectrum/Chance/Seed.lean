/-
  Plectrum.Chance.Seed
  ────────────────────
  **Seeds: the number that a source of chance starts from.**

  A whole number seeds as it is, without its sign.  Bytes, also those of a text, seed
  with their digest, a double with its residue.  Nothing else is a seed.
-/
import Plectrum.Chance.Digest
import Plectrum.Datum.Basic
import Plectrum.Fault
import Plectrum.Quantity.Residue

namespace Plectrum.Seed

/-- The number of bytes, also those of a text: the bytes, then those of their digest. -/
def ofBytes (bs : List UInt8) : Nat := Bytes.number (bs ++ Digest.sha512 bs)

/-- The number of a double: its residue as a word. -/
def ofDouble (x : Binary64) : Nat := (Residue.ofDouble? x).getD 0

/-- The number that a seed stands for; a missing seed stands for none. -/
def number? : Datum → Except Fault (Option Nat)
  | .null => .ok none
  | .number (.float x) => .ok (some (ofDouble x))
  | .number q =>
    match q.integer? with
    | some n => .ok (some n.natAbs)
    | none => .error .wrongKind
  | .text t =>
    match Text.loneRun? (fun _ => false) t with
    | some (letters, position) => .error (.loneSurrogates letters position)
    | none => .ok (some (ofBytes t.bytes))
  | .bytes bs => .ok (some (ofBytes bs))
  | _ => .error .wrongKind

end Plectrum.Seed
