/-
  Plectrum.Text.Quoted
  ────────────────────
  **Texts in quotes, as messages show them.**

  A text stands in single quotes, or in double quotes when it holds a single quote
  and no double one.  The quote and the backslash are escaped, line feeds, returns
  and tabs have letters of their own, and what is not printable is written with its code in
  two, four or eight digits.  So a text in quotes is a string of characters.  Bytes
  stand in quotes in the same way, each as one letter.
-/
import Plectrum.Text.Printable

namespace Plectrum.Text

/-- `n` in lower-case hexadecimal, filled with zeros on the left up to `width` digits. -/
def hexadecimal (width n : Nat) : List Char :=
  let digits := Nat.toDigits 16 n
  List.replicate (width - digits.length) '0' ++ digits

/-- A letter by its code. -/
def codeEscape (l : Letter) : List Char :=
  let n := l.code
  if n < 0x100 then '\\' :: 'x' :: hexadecimal 2 n
  else if n < 0x10000 then '\\' :: 'u' :: hexadecimal 4 n
  else '\\' :: 'U' :: hexadecimal 8 n

/-- One letter between quotes. -/
def quotedLetter (quote : Char) : Letter → List Char
  | .char c =>
    if c = quote ∨ c = '\\' then ['\\', c]
    else if c = '\n' then ['\\', 'n']
    else if c = '\r' then ['\\', 'r']
    else if c = '\t' then ['\\', 't']
    else if isPrintable c then [c]
    else codeEscape c
  | l => codeEscape l

/-- The quote that a text takes. -/
def quoteOf (t : Text) : Char :=
  if t.contains '\x27' && !t.contains '"' then '"' else '\x27'

/-- A text in quotes. -/
def quoted (t : Text) : String :=
  let quote := quoteOf t
  String.ofList (quote :: (t.flatMap (quotedLetter quote) ++ [quote]))

/-- The character whose code a byte is. -/
def byteChar (b : UInt8) : Char := Char.ofNat b.toNat

/-- One byte between quotes: only printable ASCII characters stand for themselves. -/
def quotedByte (quote : Char) (b : UInt8) : List Char :=
  if b.toNat < 0x80 then quotedLetter quote (byteChar b)
  else '\\' :: 'x' :: hexadecimal 2 b.toNat

/-- Bytes in quotes, with the letter that tells them from a text. -/
def quotedBytes (bs : List UInt8) : String :=
  let quote := quoteOf (bs.map fun b => .char (byteChar b))
  String.ofList ('b' :: quote :: (bs.flatMap (quotedByte quote) ++ [quote]))

example : quoteOf "it's" = '"' ∧ quotedLetter '"' '\n' = ['\\', 'n'] := by decide
example : codeEscape (.lone 0x80) = "\\ud880".toList := by decide

end Plectrum.Text
