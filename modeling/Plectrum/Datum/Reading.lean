/-
  Plectrum.Datum.Reading
  ──────────────────────
  **What a datum says where a number or a mapping is expected.**

  Authors of scores write numbers as numbers or as texts that spell them; both are
  read.  A part of a score that is missing or empty counts as an empty mapping.
-/
import Plectrum.Datum.Arithmetic
import Plectrum.Text.Numeral

namespace Plectrum.Datum

/-- The letters that bytes spell something with: ASCII characters, and others that mean nothing. -/
def spelling (bs : List UInt8) : Text :=
  bs.map fun b => if b.toNat < 0x80 then .char (Text.byteChar b) else .ofByte b

/-- What a reader of texts finds in bytes; its fault quotes the bytes. -/
def readBytes {α : Type} (read : Text → Except Fault α) (bs : List UInt8) : Except Fault α :=
  (read (spelling bs)).mapError fun fault =>
    match fault with
    | .notAnInteger base _ => .notAnInteger base (.bytes bs)
    | .notANumber _ => .notANumber (.bytes bs)
    | fault => fault

/-- A whole number: a number without its fraction, or a text or bytes that spell one. -/
def readWhole : Datum → Except Fault Int
  | .number q => q.truncated
  | .text t => Text.readInt t
  | .bytes bs => readBytes Text.readInt bs
  | _ => .error .wrongKind

/-- A double: a number, or a text or bytes that spell one. -/
def readDouble : Datum → Except Fault Binary64
  | .number q => q.toFloat
  | .text t => Text.readFloat t
  | .bytes bs => readBytes Text.readFloat bs
  | _ => .error .wrongKind

/-- A text, where another kind lacks what a text can do.  Bytes can do it too, but not for what
they are needed. -/
def asText : Datum → Except Fault Text
  | .text t => .ok t
  | .bytes _ => .error .wrongKind
  | _ => .error .lacksOperation

/-- The items of a list, a set or a pair, the keys of a mapping, the letters of a text, or
bytes as numbers. -/
def elements : Datum → Except Fault (List Datum)
  | .text t => .ok (t.map fun l => .text [l])
  | .bytes bs => .ok (bs.map fun b => .whole b.toNat)
  | .list items | .set items => .ok items
  | .mapping entries => .ok (entries.map (·.1))
  | .pair key value => .ok [key, value]
  | .loop _ turn => turn.elements
  | _ => .error .wrongKind

/-- The entries of a mapping; other data have none. -/
def entries (d : Datum) : Except Fault (List (Datum × Datum)) :=
  match d.entries? with
  | some entries => .ok entries
  | none => .error .lacksOperation

/-- The value of a mapping at a text key, with nothing read as `default`. -/
def fieldOr (d : Datum) (key : Text) (default : Datum) : Except Fault Datum := do
  match Datum.lookup? (.text key) (← d.entries) with
  | some value => return if value.isNothing then default else value
  | none => return default

end Plectrum.Datum
