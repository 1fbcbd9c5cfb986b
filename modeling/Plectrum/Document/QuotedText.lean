/-
  Plectrum.Document.QuotedText
  ────────────────────────────
  **Quoted texts.**

  Between single quotes every character stands for itself, and a quote is written
  twice.  Between double quotes a backslash begins an escape.  Both kinds may go on
  over several lines, but not over the marker of a document.
-/
import Plectrum.Document.Folding
import Plectrum.Fault

namespace Plectrum.Document

/-! ## §1. Escapes. -/

/-- The character that a single character after a backslash stands for. -/
def escapeOf? (c : Char) : Option Char :=
  match c with
  | '0' => some '\x00'
  | 'a' => some '\x07'
  | 'b' => some '\x08'
  | 't' | '\t' => some '\t'
  | 'n' => some '\n'
  | 'v' => some '\x0b'
  | 'f' => some '\x0c'
  | 'r' => some '\r'
  | 'e' => some '\x1b'
  | ' ' => some ' '
  | '"' => some '"'
  | '\\' => some '\\'
  | '/' => some '/'
  | 'N' => some '\x85'
  | '_' => some '\xa0'
  | 'L' => some '\u2028'
  | 'P' => some '\u2029'
  | _ => none

/-- The value of a hexadecimal digit. -/
def hexDigit? (c : Char) : Option Nat :=
  if c.isDigit then some (c.toNat - '0'.toNat)
  else if 'a' ≤ c.toLower ∧ c.toLower ≤ 'f' then some (c.toLower.toNat - 'a'.toNat + 10)
  else none

/-- The first code that is beyond all numbers of four signed bytes. -/
def codeLimit : Nat := twoTo 31

/-- The letter with a code; also a surrogate may be named by its code. -/
def letterOfCode (code : Nat) : Except Fault Letter :=
  match Letter.ofCode? code with
  | some l => .ok l
  | none => .error (if code < codeLimit then .codeOutOfRange else .codeTooLarge)

/-- Go on after the escape of a code in hexadecimal digits. -/
def afterCode (gap : Gap) (digits : List Char)
    (rest : Except Fault (Text × List Char)) : Except Fault (Text × List Char) :=
  match digits.mapM hexDigit? with
  | some values => do
    let l ← letterOfCode (values.foldl (fun n d => 16 * n + d) 0)
    prepend (gap.letters ++ [l]) rest
  | none => .error .documentSyntax

/-! ## §2. Reading. -/

/-- Read a text between single quotes, after the first: the text, and what follows it. -/
def singleQuoted : Gap → List Char → Except Fault (Text × List Char)
  | _, [] => .error .documentSyntax
  | gap, '\'' :: '\'' :: cs => prepend (gap.letters ++ [.char '\'']) (singleQuoted .none cs)
  | gap, '\'' :: cs => .ok (gap.letters, cs)
  | gap, c :: cs =>
    if isBreak c then
      if isDocumentMarker cs then .error .documentSyntax else singleQuoted (gap.lineBreak c) cs
    else if c == ' ' || c == '\t' then singleQuoted (gap.blank c) cs
    else prepend (gap.letters ++ [.char c]) (singleQuoted .none cs)

/-- Read a text between double quotes, after the first: the text, and what follows it. -/
def doubleQuoted : Gap → List Char → Except Fault (Text × List Char)
  | _, [] => .error .documentSyntax
  | gap, '"' :: cs => .ok (gap.letters, cs)
  | gap, '\\' :: 'x' :: a :: b :: cs => afterCode gap [a, b] (doubleQuoted .none cs)
  | gap, '\\' :: 'u' :: a :: b :: c :: d :: cs =>
    afterCode gap [a, b, c, d] (doubleQuoted .none cs)
  | gap, '\\' :: 'U' :: a :: b :: c :: d :: e :: f :: g :: h :: cs =>
    afterCode gap [a, b, c, d, e, f, g, h] (doubleQuoted .none cs)
  | gap, '\\' :: c :: cs =>
    if isBreak c then
      if isDocumentMarker cs then .error .documentSyntax
      -- An escaped break joins two lines without a space.
      else prepend gap.letters (doubleQuoted (.breaks Option.none [] 0) cs)
    else
      match escapeOf? c with
      | some e => prepend (gap.letters ++ [.char e]) (doubleQuoted .none cs)
      | Option.none => .error .documentSyntax
  | gap, c :: cs =>
    if isBreak c then
      if isDocumentMarker cs then .error .documentSyntax else doubleQuoted (gap.lineBreak c) cs
    else if c == ' ' || c == '\t' then doubleQuoted (gap.blank c) cs
    else if c == '\\' then .error .documentSyntax
    else prepend (gap.letters ++ [.char c]) (doubleQuoted .none cs)

end Plectrum.Document
