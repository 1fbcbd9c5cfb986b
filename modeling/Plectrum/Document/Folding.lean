/-
  Plectrum.Document.Folding
  ─────────────────────────
  **Texts over several lines.**

  A bare or quoted text may go on over line breaks.  Blanks around a break fall away
  and a single break becomes a space; further breaks are kept.  A `Gap` is the white
  space read since the last character of the text.
-/
import Plectrum.Datum.Basic

namespace Plectrum.Document

/-! ## §1. Characters. -/

/-- A character that ends a line of a document. -/
def isBreak (c : Char) : Bool := c == '\n' || c == '\x85' || c == '\u2028' || c == '\u2029'

/-- What a break stands for in a text. -/
def breakText (c : Char) : Char := if c == '\x85' then '\n' else c

/-- Whether a word ends in front of a text: at its end, at a blank or at a break. -/
def endsWord : List Char → Bool
  | [] => true
  | c :: _ => c == ' ' || c == '\t' || isBreak c

/-- Whether a line begins with three of a character that stand alone. -/
def isMarker (mark : Char) (cs : List Char) : Bool :=
  match cs with
  | a :: b :: c :: rest => a == mark && b == mark && c == mark && endsWord rest
  | _ => false

/-- Whether a line marks the start or the end of a document. -/
def isDocumentMarker (cs : List Char) : Bool := isMarker '-' cs || isMarker '.' cs

/-! ## §2. Gaps. -/

/-- White space within a text. -/
inductive Gap where
  | none
  /-- Blanks on one line, last first. -/
  | blanks (reversed : List Char)
  /-- Breaks, after the first one; `column` counts the blanks since the last. -/
  | breaks (first : Option Char) (more : List Char) (column : Nat)
  deriving Repr

namespace Gap

/-- One more blank. -/
def blank (c : Char) : Gap → Gap
  | .none => .blanks [c]
  | .blanks cs => .blanks (c :: cs)
  | .breaks first more column => .breaks first more (column + 1)

/-- One more break; blanks in front of it fall away. -/
def lineBreak (c : Char) : Gap → Gap
  | .breaks first more _ => .breaks first (more ++ [breakText c]) 0
  | _ => .breaks (some (breakText c)) [] 0

/-- What a gap becomes in the text.  A gap that begins with an escaped break has no first one. -/
def text : Gap → List Char
  | .none => []
  | .blanks cs => cs.reverse
  | .breaks Option.none more _ => more
  | .breaks (some first) more _ =>
    -- Line and paragraph separators are kept, a line feed alone becomes a space.
    if first != '\n' then first :: more
    else if more.isEmpty then [' ']
    else more

/-- The letters that a gap becomes in the text. -/
def letters (gap : Gap) : Text := gap.text.map .char

/-- Whether a gap goes over a line break. -/
def crossesLine : Gap → Bool
  | .breaks .. => true
  | _ => false

end Gap

/-- Put letters in front of a text that has been read. -/
def prepend {α : Type} (front : Text) : Except Fault (Text × α) → Except Fault (Text × α)
  | .ok (text, rest) => .ok (front ++ text, rest)
  | .error f => .error f

end Plectrum.Document
