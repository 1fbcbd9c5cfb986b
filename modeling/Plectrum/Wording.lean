/-
  Plectrum.Wording
  ────────────────
  **Messages: words, and the data they quote.**

  A message quotes data by themselves or in the way they stand among other data.  A
  whole number with too many digits cannot be written, and then the message as a
  whole cannot.
-/
import Plectrum.Datum.Basic

namespace Plectrum

/-- A piece of a message. -/
inductive Phrase where
  | words (t : Text)
  /-- A datum by itself. -/
  | shown (d : Datum)
  /-- A datum as it stands among other data. -/
  | written (d : Datum)
  deriving Repr, Inhabited

namespace Phrase

instance : Coe Text Phrase := ⟨.words⟩
instance : Coe String Phrase := ⟨fun s => .words s⟩
instance : Coe Quantity Phrase := ⟨fun q => .shown (.number q)⟩
instance : Coe Int Phrase := ⟨fun n => .shown (.whole n)⟩
instance : Coe Nat Phrase := ⟨fun n => .shown (.whole n)⟩

/-- The text of a piece. -/
def text : Phrase → Text
  | .words t => t
  | .shown d => d.shown
  | .written d => d.written

/-- Whether a piece can be written. -/
def isWritable : Phrase → Bool
  | .words _ => true
  | .shown d | .written d => d.isWritable

end Phrase

/-- The pieces of a message, in order. -/
abbrev Wording := List Phrase

namespace Wording

/-- The text of a message. -/
def text (w : Wording) : Text := w.flatMap Phrase.text

/-- Whether a message can be written. -/
def isWritable (w : Wording) : Bool := w.all Phrase.isWritable

/-- What is said in place of a message that cannot be written. -/
def tooLong : String :=
  "Exceeds the limit (4300 digits) for integer string conversion; "
    ++ "use sys.set_int_max_str_digits() to increase the limit"

end Wording
end Plectrum
