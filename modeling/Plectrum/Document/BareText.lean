/-
  Plectrum.Document.BareText
  ──────────────────────────
  **Texts without quotes.**

  A bare text ends at a colon or a comment that a blank sets apart, at a tab, at a
  line that is not indented enough, and within brackets also at the marks that those
  use.  Blanks at its end do not belong to it.
-/
import Plectrum.Document.Folding

namespace Plectrum.Document

/-- The marks of lists and mappings in brackets. -/
def isBracketMark (c : Char) : Bool :=
  c == ',' || c == '[' || c == ']' || c == '\x7b' || c == '\x7d'

/-- Whether a colon in front of a text ends a bare text. -/
def colonEnds (inBrackets : Bool) (rest : List Char) : Bool :=
  endsWord rest || (inBrackets && (rest.head?.map isBracketMark).getD false)

/-- Whether a bare text ends in front of a character and the text after it. -/
def bareEnds (inBrackets : Bool) (c : Char) (rest : List Char) : Bool :=
  c == '\t' || (c == ':' && colonEnds inBrackets rest)
    || (inBrackets && (isBracketMark c || c == '?'))

/-- Whether a bare text may begin with a character and the text after it. -/
def bareStarts (inBrackets : Bool) (c : Char) (rest : List Char) : Bool :=
  let special := endsWord [c] || isBracketMark c || "-?:#&*!|>'\"%@\x60".toList.contains c
  !special || (!endsWord rest && (c == '-' || (!inBrackets && (c == '?' || c == ':'))))

/-- A bare text that has been read. -/
structure Bare where
  text : List Char
  /-- How many characters were read. -/
  taken : Nat
  /-- Whether a line break follows it. -/
  endsLine : Bool
  deriving Repr

/-- Put characters in front of a bare text. -/
def Bare.after (cs : List Char) (bare : Bare) : Bare := { bare with text := cs ++ bare.text }

/-- Whether a line that begins in this gap is not indented enough. -/
def Gap.outdented (inBrackets : Bool) (indent : Nat) : Gap → Bool
  | .breaks _ _ column => !inBrackets && column < indent
  | _ => false

/-- Read on in a bare text after a gap.  `indent` is the least column of its further lines, and
`taken` are the characters that were read before. -/
def bareText (inBrackets : Bool) (indent : Nat) (taken : Nat) : Gap → List Char → Bare
  | gap, [] => ⟨[], taken, gap.crossesLine⟩
  | gap, c :: cs =>
    if isBreak c then
      if isDocumentMarker cs then ⟨[], taken + 1, true⟩
      else bareText inBrackets indent (taken + 1) (gap.lineBreak c) cs
    else if c == ' ' then bareText inBrackets indent (taken + 1) (gap.blank c) cs
    else
      -- A number sign within a word belongs to the word.
      let comment := c == '#' && !(gap matches .none)
      if comment || gap.outdented inBrackets indent || bareEnds inBrackets c cs then
        ⟨[], taken, gap.crossesLine⟩
      else (bareText inBrackets indent (taken + 1) .none cs).after (gap.text ++ [c])

end Plectrum.Document
