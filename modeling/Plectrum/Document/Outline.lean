/-
  Plectrum.Document.Outline
  ─────────────────────────
  **From characters to tokens.**

  An outline reads a document token by token.  It keeps the columns of the open
  blocks, and for each level of brackets the place of the last thing that may turn
  out to be a key: a key is recognised by the colon after it, on the same line.  Tokens
  are handed over as soon as no token can come to stand in front of them, so what is
  wrong with a document is noticed in the order of its text.
-/
import Plectrum.Document.BareText
import Plectrum.Document.BlockText
import Plectrum.Document.Property

namespace Plectrum.Document

/-! ## §1. Positions. -/

/-- A position in a document, with the text from there on. -/
structure Cursor where
  rest : List Char
  /-- The number of characters from there on. -/
  left : Nat
  line : Nat
  column : Nat
  /-- The characters before it. -/
  index : Nat
  deriving Repr

namespace Cursor

/-- The column after a character.  A byte order mark takes no room. -/
def columnAfter (c : Cursor) (ch : Char) : Nat :=
  if isBreak ch then 0 else if ch == '\ufeff' then c.column else c.column + 1

/-- The position after some characters. -/
def past (c : Cursor) (cs : List Char) : Cursor :=
  cs.foldl (fun c ch =>
    { c with
      line := if isBreak ch then c.line + 1 else c.line
      column := c.columnAfter ch
      index := c.index + 1 }) c

/-- The position after the next `n` characters. -/
def skip (c : Cursor) (n : Nat) : Cursor :=
  { c.past (c.rest.take n) with rest := c.rest.drop n, left := c.left - n }

/-- The position where `rest`, an end of the text, begins. -/
def goTo (c : Cursor) (rest : List Char) : Cursor := c.skip (c.left - rest.length)

end Cursor

/-- The white space in front of a token: how many characters it has, of which `taken` are read,
and whether it goes over a line break. -/
def whiteSpace : (inComment crossed : Bool) → (taken : Nat) → List Char → Nat × Bool
  | _, crossed, taken, [] => (taken, crossed)
  | inComment, crossed, taken, c :: cs =>
    if isBreak c then whiteSpace false true (taken + 1) cs
    else if inComment || c == ' ' then whiteSpace inComment crossed (taken + 1) cs
    else if c == '#' then whiteSpace true crossed (taken + 1) cs
    else (taken, crossed)

/-! ## §2. The state. -/

/-- Something that is a key if a colon follows it. -/
structure Candidate where
  /-- The number of tokens before it. -/
  place : Nat
  line : Nat
  column : Nat
  index : Nat
  /-- Nothing but a key can stand here. -/
  required : Bool
  deriving Repr

/-- The most characters of a key that a colon may follow. -/
def keyLimit : Nat := 1024

/-- A document that is being read. -/
structure Outline where
  cursor : Cursor
  /-- The tokens so far, last first. -/
  reversed : List Token
  /-- How many tokens there are. -/
  count : Nat
  /-- The columns of the open blocks, innermost first. -/
  indents : List Nat
  /-- The candidate of the blocks, inside the candidates of the open brackets. -/
  outer : Option Candidate
  /-- The candidates of the open brackets, innermost first. -/
  inner : List (Option Candidate)
  /-- Whether a key may begin here. -/
  keyAllowed : Bool
  deriving Repr

namespace Outline

/-- An outline at the start of a text. -/
def start (cs : List Char) : Outline := ⟨⟨cs, cs.length, 0, 0, 0⟩, [], 0, [], none, [], true⟩

/-- Whether brackets are open. -/
def inBrackets (o : Outline) : Bool := !o.inner.isEmpty

/-- The least column that lies deeper than the open blocks. -/
def deeper (o : Outline) : Nat :=
  match o.indents with
  | [] => 0
  | column :: _ => column + 1

/-- Add a token. -/
def push (o : Outline) (token : Token) : Outline :=
  { o with reversed := token :: o.reversed, count := o.count + 1 }

/-- Put a token in front of those from a place on. -/
def putAt (o : Outline) (place : Nat) (token : Token) : Outline :=
  { o with
    reversed := o.reversed.insertIdx (o.count - place) token
    count := o.count + 1 }

/-- The tokens so far, in order. -/
def tokens (o : Outline) : List Token := o.reversed.reverse

/-- Go on where `rest` begins. -/
def goTo (o : Outline) (rest : List Char) : Outline := { o with cursor := o.cursor.goTo rest }

/-- Go on after the next `n` characters. -/
def skip (o : Outline) (n : Nat) : Outline := { o with cursor := o.cursor.skip n }

/-- Go on after one character. -/
def skipOne (o : Outline) : Outline := o.skip 1

def allowKey (o : Outline) (allowed : Bool) : Outline := { o with keyAllowed := allowed }

/-! ## §3. Keys. -/

/-- The candidate of the innermost level. -/
def candidate (o : Outline) : Option Candidate :=
  match o.inner with
  | [] => o.outer
  | first :: _ => first

/-- Replace the candidate of the innermost level. -/
def setCandidate (o : Outline) (candidate : Option Candidate) : Outline :=
  match o.inner with
  | [] => { o with outer := candidate }
  | _ :: rest => { o with inner := candidate :: rest }

/-- Give a candidate up; one that has to be a key cannot be. -/
def giveUp (candidate : Option Candidate) : Except Fault Unit :=
  match candidate with
  | some c => if c.required then .error .documentSyntax else .ok ()
  | none => .ok ()

/-- No thing of the innermost level is a candidate any more. -/
def dropCandidate (o : Outline) : Except Fault Outline := do
  giveUp o.candidate
  return o.setCandidate none

/-- The thing that begins here is a candidate, if keys are allowed. -/
def addCandidate (o : Outline) : Except Fault Outline :=
  if !o.keyAllowed then .ok o
  else do
    let o ← o.dropCandidate
    let c := o.cursor
    -- In a block of keys, what begins at its column has to be a key.
    let required := !o.inBrackets && o.indents.head? == some c.column
    return o.setCandidate (some ⟨o.count, c.line, c.column, c.index, required⟩)

/-- Whether a candidate lies on an earlier line or too far back. -/
def isStale (o : Outline) (c : Candidate) : Bool :=
  c.line != o.cursor.line || keyLimit < o.cursor.index - c.index

/-- A candidate, unless it is stale. -/
def fresh (o : Outline) (candidate : Option Candidate) : Except Fault (Option Candidate) :=
  match candidate with
  | some c => if o.isStale c then do giveUp candidate; return none else .ok candidate
  | none => .ok none

/-- Without stale candidates. -/
def dropStale (o : Outline) : Except Fault Outline := do
  return { o with outer := ← o.fresh o.outer, inner := ← o.inner.mapM o.fresh }

/-! ## §4. Blocks. -/

/-- Close some blocks, the innermost ones, and keep the others. -/
def closeBlocks (o : Outline) (closed kept : List Nat) : Outline :=
  { closed.foldl (fun o _ => o.push .closeBlock) o with indents := kept }

/-- Close the blocks that lie deeper than a column; none closes within brackets. -/
def unwind (o : Outline) (column : Nat) : Outline :=
  if o.inBrackets then o
  else
    o.closeBlocks (o.indents.takeWhile (column < ·)) (o.indents.dropWhile (column < ·))

/-- Close all blocks. -/
def unwindAll (o : Outline) : Outline := if o.inBrackets then o else o.closeBlocks o.indents []

/-- Whether a block begins at a column: outside of brackets, deeper than the open ones. -/
def opensBlock (o : Outline) (column : Nat) : Bool := !o.inBrackets && o.deeper ≤ column

/-- Open a block at a column if one begins there, with its token at a place. -/
def openAt (o : Outline) (column place : Nat) (token : Token) : Outline :=
  if o.opensBlock column then { o with indents := column :: o.indents }.putAt place token else o

/-! ## §5. Marks. -/

/-- A mark where a block may begin: outside of brackets only where keys may. -/
def blockMark (o : Outline) (opening mark : Token) : Except Fault Outline := do
  if !o.inBrackets && !o.keyAllowed then throw .documentSyntax
  let o := o.openAt o.cursor.column o.count opening
  let o ← o.dropCandidate
  return (o.push mark).skipOne

/-- A dash in front of an entry; within brackets there are none. -/
def dash (o : Outline) : Except Fault Outline := do
  if o.inBrackets then throw .documentSyntax
  return (← o.blockMark .openEntries .dash).allowKey true

/-- A question mark in front of a key. -/
def question (o : Outline) : Except Fault Outline := do
  return (← o.blockMark .openKeys .key).allowKey !o.inBrackets

/-- A colon: the candidate before it is a key; without one, the key is missing. -/
def colon (o : Outline) : Except Fault Outline :=
  match o.candidate with
  | some c =>
    -- The key's token goes in front of the tokens that made the key.
    let keyed := (o.putAt c.place .key).setCandidate none
    let opened := keyed.openAt c.column c.place .openKeys
    .ok ((opened.push .value).skipOne.allowKey false)
  | none => do return (← o.blockMark .openKeys .value).allowKey !o.inBrackets

/-- An opening bracket or brace. -/
def openMark (o : Outline) (token : Token) : Except Fault Outline := do
  let o ← o.addCandidate
  return ({ o with inner := none :: o.inner }.push token).skipOne.allowKey true

/-- A closing bracket or brace. -/
def closeMark (o : Outline) (token : Token) : Except Fault Outline :=
  match o.inner with
  | [] => .error .documentSyntax
  | _ :: rest => .ok (({ o with inner := rest }.push token).skipOne.allowKey false)

/-- A comma within brackets. -/
def comma (o : Outline) : Except Fault Outline := do
  if !o.inBrackets then throw .documentSyntax
  return ((← o.dropCandidate).push .comma).skipOne.allowKey true

/-- A marker of a document, at the start of a line. -/
def marker (o : Outline) (token : Token) : Except Fault Outline := do
  let o ← o.unwindAll.dropCandidate
  return ((o.push token).skip 3).allowKey false

/-- A directive, at the start of a line. -/
def directive (o : Outline) : Except Fault Outline := do
  let o ← o.unwindAll.dropCandidate
  let (d, rest) ← directiveLine (o.cursor.rest.drop 1)
  return ((o.push (.directive d)).goTo rest).allowKey false

/-- A mark with a name: an anchor or an alias. -/
def named (o : Outline) (token : String → Token) : Except Fault Outline := do
  let o ← o.addCandidate
  let (name, rest) ← nameText (o.cursor.rest.drop 1)
  return ((o.push (token name)).goTo rest).allowKey false

/-- A tag. -/
def tag (o : Outline) : Except Fault Outline := do
  let o ← o.addCandidate
  let (t, rest) ← tagMark (o.cursor.rest.drop 1)
  return ((o.push (.tag t)).goTo rest).allowKey false

/-! ## §6. Scalars. -/

/-- A quoted text. -/
def quoted (o : Outline)
    (read : Gap → List Char → Except Fault (Text × List Char)) : Except Fault Outline := do
  let o ← o.addCandidate
  let (text, rest) ← read .none (o.cursor.rest.drop 1)
  return ((o.push (.scalar text false)).goTo rest).allowKey false

/-- A bare text. -/
def bare (o : Outline) : Except Fault Outline := do
  let o ← o.addCandidate
  let read := bareText o.inBrackets o.deeper 0 .none o.cursor.rest
  return ((o.push (.scalar (read.text.map .char) true)).skip read.taken).allowKey read.endsLine

/-- A block of text. -/
def block (o : Outline) (folded : Bool) : Except Fault Outline := do
  let o ← o.dropCandidate
  let (text, rest) ← blockText folded (max 1 o.deeper) (o.cursor.rest.drop 1)
  return ((o.push (.scalar (text.map .char) false)).goTo rest).allowKey true

/-! ## §7. Tokens. -/

/-- Read the token that begins with a character. -/
def token (o : Outline) (c : Char) (rest : List Char) : Except Fault Outline :=
  if o.cursor.column = 0 ∧ c = '%' then o.directive
  else if o.cursor.column = 0 ∧ isMarker '-' (c :: rest) then o.marker .documentStart
  else if o.cursor.column = 0 ∧ isMarker '.' (c :: rest) then o.marker .documentEnd
  else
    match c with
    | '[' => o.openMark .openBracket
    | '\x7b' => o.openMark .openBrace
    | ']' => o.closeMark .closeBracket
    | '\x7d' => o.closeMark .closeBrace
    | ',' => o.comma
    | '&' => o.named .anchor
    | '*' => o.named .alias
    | '!' => o.tag
    | '\'' => o.quoted singleQuoted
    | '"' => o.quoted doubleQuoted
    | _ =>
      if c == '-' && endsWord rest then o.dash
      else if c == '?' && (o.inBrackets || endsWord rest) then o.question
      else if c == ':' && (o.inBrackets || endsWord rest) then o.colon
      else if c == '|' && !o.inBrackets then o.block false
      else if c == '>' && !o.inBrackets then o.block true
      else if bareStarts o.inBrackets c rest then o.bare
      else .error .documentSyntax

/-- Go to the next token. -/
def toNextToken (o : Outline) : Except Fault Outline := do
  let (taken, crossed) := whiteSpace false false 0 o.cursor.rest
  let o := o.skip taken
  -- A new line may begin with a key; within brackets lines do not count.
  let o := if crossed && !o.inBrackets then o.allowKey true else o
  return (← o.dropStale).unwind o.cursor.column

/-- The end of a document, which closes all blocks. -/
def finish (o : Outline) : Except Fault (List Token) := do
  return (← o.unwindAll.dropCandidate).tokens

/-- How many tokens are settled: the first candidate, unless it is stale, may still get
a token in front of it. -/
def settled (o : Outline) : Nat :=
  ((o.outer :: o.inner).filterMap id).foldl
    (fun n c => if o.isStale c then n else min n c.place) o.count

/-- The tokens up to where a document cannot be read on. -/
def breakOff (o : Outline) (fault : Fault) : List Token :=
  o.tokens.take o.settled ++ [.broken fault]

/-- Read token after token, at most `count` of them. -/
def readAll : Nat → Outline → List Token
  | 0, o => o.breakOff .documentSyntax
  | count + 1, o =>
    match o.toNextToken with
    | .error fault => o.breakOff fault
    | .ok next =>
      match next.cursor.rest with
      | [] =>
        match next.finish with
        | .error fault => o.breakOff fault
        | .ok tokens => tokens
      | c :: rest =>
        match next.token c rest with
        | .error fault => o.breakOff fault
        | .ok after => readAll count after

end Outline

/-- The tokens of a document.  A byte order mark at the start does not count, and each token takes
at least one character. -/
def tokens (cs : List Char) : List Token :=
  let o := Outline.start cs
  Outline.readAll (cs.length + 1) (if cs.head? = some '\ufeff' then o.skipOne else o)

end Plectrum.Document
