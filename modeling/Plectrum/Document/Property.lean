/-
  Plectrum.Document.Property
  ──────────────────────────
  **Names, tags and directives.**

  The name of an anchor or an alias is a word of letters, digits, minus signs and low
  lines.  A tag begins with an exclamation mark; it is written in full between
  angles, or with a handle in front, which is one exclamation mark or a word between
  two.  A directive begins with a percent sign at the start of a line.
-/
import Plectrum.Document.QuotedText
import Plectrum.Document.Token
import Plectrum.Text.Numeral

namespace Plectrum.Document

/-! ## §1. Names. -/

/-- A character of a name. -/
def isNameChar (c : Char) : Bool := c.isAlphanum || c == '-' || c == '_'

/-- Whether a line, or a part of one that blanks set apart, ends in front of a text. -/
def endsPart : List Char → Bool
  | [] => true
  | c :: _ => c == ' ' || isBreak c

/-- Whether a name may end in front of a text. -/
def endsName (cs : List Char) : Bool :=
  endsWord cs || cs.head?.any "?:,]\x7d%@\x60".toList.contains

/-- Read a name: the name, and what follows it. -/
def nameText (cs : List Char) : Except Fault (String × List Char) :=
  let name := cs.takeWhile isNameChar
  let rest := cs.dropWhile isNameChar
  if !name.isEmpty && endsName rest then .ok (String.ofList name, rest)
  else .error .documentSyntax

/-! ## §2. Tags. -/

/-- A character of a tag. -/
def isTagChar (c : Char) : Bool :=
  isNameChar c || ";/?:@&=+$,.!~*'()[]%".toList.contains c

/-- The text of bytes. -/
def textOfBytes (bytes : List UInt8) : Except Fault (List Char) :=
  match String.fromUTF8? ⟨bytes.toArray⟩ with
  | some s => .ok s.toList
  | none => .error .documentSyntax

/-- A tag without its escapes: a percent sign and two digits are a byte of a character.
`bytes` are the bytes of the escapes just before. -/
def withoutEscapes : List UInt8 → List Char → Except Fault (List Char)
  | bytes, [] => textOfBytes bytes
  | bytes, '%' :: a :: b :: cs =>
    match hexDigit? a, hexDigit? b with
    | some high, some low => withoutEscapes (bytes ++ [UInt8.ofNat (16 * high + low)]) cs
    | _, _ => .error .documentSyntax
  | bytes, c :: cs =>
    if c == '%' then .error .documentSyntax
    else do return (← textOfBytes bytes) ++ c :: (← withoutEscapes [] cs)

/-- Read the characters of a tag: the text, which is not empty, and what follows it. -/
def tagText (cs : List Char) : Except Fault (String × List Char) := do
  let text := cs.takeWhile isTagChar
  if text.isEmpty then throw .documentSyntax
  return (String.ofList (← withoutEscapes [] text), cs.dropWhile isTagChar)

/-- Read a handle: an exclamation mark, or a word between two. -/
def handleText (cs : List Char) : Except Fault (String × List Char) :=
  match cs with
  | '!' :: ' ' :: rest => .ok ("!", ' ' :: rest)
  | '!' :: rest =>
    match rest.dropWhile isNameChar with
    | '!' :: after =>
      .ok ("!" ++ String.ofList (rest.takeWhile isNameChar) ++ "!", after)
    | _ => .error .documentSyntax
  | _ => .error .documentSyntax

/-- Whether a second exclamation mark stands before the next blank other than a tab. -/
def hasHandle (cs : List Char) : Bool :=
  (cs.takeWhile fun c => !(c == ' ' || isBreak c)).contains '!'

/-- Read a tag after its exclamation mark: the tag, and what follows it. -/
def tagMark (cs : List Char) : Except Fault (Tag × List Char) := do
  let (t, rest) ←
    match cs with
    | '<' :: name => do
      match ← tagText name with
      | (suffix, '>' :: rest) => pure (Tag.mk none suffix, rest)
      | _ => throw .documentSyntax
    | _ =>
      -- An exclamation mark alone is a tag of its own.
      if endsWord cs then pure (Tag.mk none "!", cs)
      else do
        let (handle, name) ← if hasHandle cs then handleText ('!' :: cs) else pure ("!", cs)
        let (suffix, rest) ← tagText name
        pure (Tag.mk (some handle) suffix, rest)
  if endsPart rest then return (t, rest) else throw .documentSyntax

/-! ## §3. Directives. -/

/-- Without spaces at the start. -/
def withoutSpaces (cs : List Char) : List Char := cs.dropWhile (· == ' ')

/-- Read the digits of a number: the number, and what follows it. -/
def versionNumber (cs : List Char) : Except Fault (Int × List Char) := do
  let digits := cs.takeWhile Char.isDigit
  if digits.isEmpty then throw .documentSyntax
  return (← Text.readInt (digits.map .char), cs.dropWhile Char.isDigit)

/-- Read a version: a number, a point and a number. -/
def version (cs : List Char) : Except Fault (Directive × List Char) := do
  match ← versionNumber (withoutSpaces cs) with
  | (major, '.' :: rest) =>
    let (_, rest) ← versionNumber rest
    if endsPart rest then return (.version major, rest) else throw .documentSyntax
  | _ => throw .documentSyntax

/-- Read a handle and what it stands for. -/
def handleMeaning (cs : List Char) : Except Fault (Directive × List Char) := do
  match ← handleText (withoutSpaces cs) with
  | (name, ' ' :: rest) =>
    let (meaning, rest) ← tagText (withoutSpaces rest)
    if endsPart rest then return (.handle name meaning, rest) else throw .documentSyntax
  | _ => throw .documentSyntax

/-- What follows the line of a directive, on which only a comment may stand. -/
def afterDirective (cs : List Char) : Except Fault (List Char) :=
  let rest := withoutSpaces cs
  let after := if rest.head? = some '#' then rest.dropWhile (!isBreak ·) else rest
  if after.head?.all isBreak then .ok (after.drop 1) else .error .documentSyntax

/-- Read a directive after its percent sign: the directive, and what follows its line. -/
def directiveLine (cs : List Char) : Except Fault (Directive × List Char) := do
  let name := cs.takeWhile isNameChar
  let body := cs.dropWhile isNameChar
  if name.isEmpty || !endsPart body then throw .documentSyntax
  let (d, rest) ←
    if String.ofList name = "YAML" then version body
    else if String.ofList name = "TAG" then handleMeaning body
    else pure (.other, body.dropWhile (!isBreak ·))
  return (d, ← afterDirective rest)

end Plectrum.Document
