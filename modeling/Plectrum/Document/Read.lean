/-
  Plectrum.Document.Read
  ──────────────────────
  **Reading documents.**

  A document is read from its characters to its value: tokens, the thing that they make
  up, its graph, its parts, and then data.  Characters that may not stand in a document
  are noticed where a portion of it is read.
-/
import Plectrum.Document.Value

namespace Plectrum.Document

/-- The value of a page; a page without a thing is null. -/
def Page.value (page : Page) : Except Fault Datum :=
  match page.root with
  | none => .ok .null
  | some node => do
    let (root, graph) := Graph.ofNode page.handles node
    return (← graph.settle root).datum

/-- Whether a character may stand in a document. -/
def isDocumentChar (c : Char) : Bool :=
  let n := c.toNat
  n == 9 || n == 10 || n == 13 || (32 ≤ n && n ≤ 126) || n == 0x85
    || (0xA0 ≤ n && n ≤ 0xFFFD) || 0x10000 ≤ n

/-- A carriage return, alone or in front of a line feed, counts as a line feed. -/
def plainBreaks : List Char → List Char
  | [] => []
  | '\r' :: '\n' :: cs => '\n' :: plainBreaks cs
  | '\r' :: cs => '\n' :: plainBreaks cs
  | c :: cs => c :: plainBreaks cs

/-- How many characters a document is read in at first, and at a time from there on. -/
def firstPortion : Nat := 8192

def furtherPortion : Nat := 4096

/-- How many characters come in the portions before the one that holds a place. -/
def portionStart (place : Nat) : Nat :=
  if place < firstPortion then 0
  else firstPortion + (place - firstPortion) / furtherPortion * furtherPortion

/-- The page of a document.  A character that may not stand there is noticed when its
portion is read; what is wrong in the portions before comes first. -/
def Page.ofText (cs : List Char) : Except Fault Page :=
  match cs.findIdx? (!isDocumentChar ·) with
  | none => Page.ofTokens (tokens cs)
  | some place => do
    let _ ← Page.ofTokens (tokens (cs.take (portionStart place)))
    throw .documentSyntax

/-- The value of a document. -/
def read (s : String) : Except Fault Datum := do
  (← Page.ofText (plainBreaks s.toList)).value

end Plectrum.Document
