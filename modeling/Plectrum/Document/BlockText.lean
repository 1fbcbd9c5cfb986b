/-
  Plectrum.Document.BlockText
  ───────────────────────────
  **Literal and folded blocks of text.**

  A block of text is announced by a bar, which keeps its lines, or by an angle, which
  folds them.  Its lines share an indentation, which is left out.  The last line break
  is kept once, unless a minus or a plus after the mark asks for none or for all.
-/
import Plectrum.Document.Folding
import Plectrum.Fault

namespace Plectrum.Document

/-! ## §1. The first line. -/

/-- What happens to the breaks at the end. -/
inductive Chomping where
  | clip
  | strip
  | keep
  deriving Repr, DecidableEq

/-- The mark of a chomping. -/
def chompingOf? (c : Char) : Option Chomping :=
  if c == '+' then some .keep else if c == '-' then some .strip else none

/-- What stands after the mark of a block: chomping, and an indentation if it is stated. -/
structure BlockHeader where
  chomping : Chomping
  indent : Option Nat
  deriving Repr

/-- A stated indentation, which is not zero. -/
def indentOf? (c : Char) : Option Nat :=
  if c.isDigit && c != '0' then some (c.toNat - '0'.toNat) else none

/-- The header that a text begins with, and what follows it. -/
def blockHeader (cs : List Char) : BlockHeader × List Char :=
  match cs with
  | [] => (⟨.clip, none⟩, [])
  | c :: rest =>
    match chompingOf? c, indentOf? c with
    | some chomping, _ =>
      match rest with
      | d :: after =>
        match indentOf? d with
        | some n => (⟨chomping, some n⟩, after)
        | none => (⟨chomping, none⟩, rest)
      | [] => (⟨chomping, none⟩, [])
    | none, some n =>
      match rest with
      | d :: after =>
        match chompingOf? d with
        | some chomping => (⟨chomping, some n⟩, after)
        | none => (⟨.clip, some n⟩, rest)
      | [] => (⟨.clip, some n⟩, [])
    | none, none => (⟨.clip, none⟩, cs)

/-- Without one line break. -/
def dropBreak : List Char → List Char
  | [] => []
  | c :: cs => if isBreak c then cs else c :: cs

/-- What follows the first line of a block, on which only a comment may stand. -/
def afterHeader (cs : List Char) : Except Fault (List Char) :=
  let spaced := cs.head?.all fun c => c == ' ' || isBreak c
  let rest := cs.dropWhile (· == ' ')
  let after := if rest.head? = some '#' then rest.dropWhile (!isBreak ·) else rest
  if spaced && after.head?.all isBreak then .ok (dropBreak after) else .error .documentSyntax

/-! ## §2. The lines. -/

/-- Blank lines in front of a line: their breaks, the column where it begins, and the rest. -/
structure Blanks where
  breaks : List Char
  column : Nat
  rest : List Char
  deriving Repr

/-- Skip blank lines and up to `indent` spaces, from a column on. -/
def skipBlanks (indent : Nat) : Nat → List Char → Blanks
  | column, [] => ⟨[], column, []⟩
  | column, c :: cs =>
    if c == ' ' && column < indent then skipBlanks indent (column + 1) cs
    else if isBreak c then
      let blanks := skipBlanks indent 0 cs
      { blanks with breaks := breakText c :: blanks.breaks }
    else ⟨[], column, c :: cs⟩

theorem length_rest_skipBlanks (indent : Nat) (cs : List Char) (column : Nat) :
    (skipBlanks indent column cs).rest.length ≤ cs.length := by
  induction cs generalizing column with
  | nil => simp [skipBlanks]
  | cons c cs ih =>
    simp only [skipBlanks]
    split
    · exact Nat.le_succ_of_le (ih _)
    · split
      · exact Nat.le_succ_of_le (ih _)
      · simp

/-- The deepest column of the blank lines and of the first line with text. -/
def deepest : Nat → Nat → List Char → Nat
  | most, _, [] => most
  | most, column, c :: cs =>
    if c == ' ' then deepest (max most (column + 1)) (column + 1) cs
    else if isBreak c then deepest most 0 cs
    else most

/-- A block of text that has been read: its lines, the last break, the breaks after
that, and the rest. -/
structure BlockLines where
  text : List Char
  lastBreak : List Char
  breaks : List Char
  rest : List Char

/-- Whether a text begins with a character that is no blank. -/
def startsSolid (cs : List Char) : Bool :=
  match cs with
  | [] => false
  | c :: _ => !(c == ' ' || c == '\t')

/-- What stands between two lines of a block. -/
def betweenLines (folded solid : Bool) (lineBreak : List Char) (blanks : Blanks) : List Char :=
  (if folded && lineBreak == ['\n'] && solid && startsSolid blanks.rest then
    (if blanks.breaks.isEmpty then [' '] else [])
  else lineBreak) ++ blanks.breaks

/-- Read the lines of a block, from the text of its first line on. -/
def blockLines (folded : Bool) (indent : Nat) (cs : List Char) : BlockLines :=
  let line := cs.takeWhile (!isBreak ·)
  match _split : cs.dropWhile (!isBreak ·) with
  | [] => ⟨line, [], [], []⟩
  | c :: after =>
    let blanks := skipBlanks indent 0 after
    -- The block goes on as long as a line reaches its indentation.
    if blanks.column = indent ∧ !blanks.rest.isEmpty then
      let more := blockLines folded indent blanks.rest
      { more with
        text := line ++ betweenLines folded (startsSolid cs) [breakText c] blanks ++ more.text }
    else ⟨line, [breakText c], blanks.breaks, blanks.rest⟩
termination_by cs.length
decreasing_by
  have h1 : after.length + 1 ≤ cs.length := by
    have := (List.dropWhile_suffix (l := cs) (!isBreak ·)).length_le
    rw [_split] at this
    simpa using this
  have h2 := length_rest_skipBlanks indent after 0
  show (skipBlanks indent 0 after).rest.length < cs.length
  omega

/-- The text of a block whose lines have been read. -/
def chomped (chomping : Chomping) (block : BlockLines) : List Char :=
  match chomping with
  | .strip => block.text
  | .clip => block.text ++ block.lastBreak
  | .keep => block.text ++ block.lastBreak ++ block.breaks

/-- Read a block of text after its mark.  `least` is the least indentation.  The
result is the text and what follows it. -/
def blockText (folded : Bool) (least : Nat) (cs : List Char) :
    Except Fault (List Char × List Char) := do
  let (header, rest) := blockHeader cs
  let body ← afterHeader rest
  let indent :=
    match header.indent with
    | some n => least + n - 1
    | none => max least (deepest 0 0 body)
  let blanks := skipBlanks indent 0 body
  let block : BlockLines :=
    if blanks.column = indent ∧ !blanks.rest.isEmpty then
      let more := blockLines folded indent blanks.rest
      { more with text := blanks.breaks ++ more.text }
    else ⟨[], [], blanks.breaks, blanks.rest⟩
  return (chomped header.chomping block, block.rest)

end Plectrum.Document
