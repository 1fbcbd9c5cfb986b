/-
  Plectrum.Document.Token
  ───────────────────────
  **The tokens of a document.**

  Tokens are the marks and scalars of a document, in order, together with the blocks
  that its indentation opens and closes.  In front of a thing may stand an anchor,
  which names it, and a tag, which says its kind; an alias stands for the thing
  that has its name.  Directives are lines in front of a document.  Where a document
  cannot be read on, its tokens end with what is wrong there.
-/
import Plectrum.Fault

namespace Plectrum.Document

/-- A tag as it is written: a handle, which stands for the beginning of the tag's name,
and the rest of the name.  A tag without a handle is written in full. -/
structure Tag where
  handle : Option String
  suffix : String
  deriving Repr, DecidableEq

/-- A line in front of a document. -/
inductive Directive where
  /-- The version of the format: the number before its point. -/
  | version (major : Int)
  /-- A handle, and what it stands for. -/
  | handle (name meaning : String)
  /-- A line that says nothing about the document. -/
  | other
  deriving Repr, DecidableEq

/-- A token. -/
inductive Token where
  /-- Deeper indentation, with entries after dashes. -/
  | openEntries
  /-- Deeper indentation, with keys. -/
  | openKeys
  /-- The indentation of a block ends. -/
  | closeBlock
  /-- A dash in front of an entry. -/
  | dash
  /-- The next thing is a key. -/
  | key
  /-- A colon: the next thing is a value. -/
  | value
  | openBracket
  | closeBracket
  | openBrace
  | closeBrace
  | comma
  /-- The marker of the start of a document. -/
  | documentStart
  /-- The marker of the end of a document. -/
  | documentEnd
  | directive (d : Directive)
  | anchor (name : String)
  | alias (name : String)
  | tag (t : Tag)
  /-- A text; only a bare one may mean anything else than itself. -/
  | scalar (text : Text) (bare : Bool)
  /-- The document cannot be read on from here. -/
  | broken (fault : Fault)
  deriving Repr

/-- Whether a token is a marker of the end of a document. -/
def Token.isDocumentEnd : Token → Bool
  | .documentEnd => true
  | _ => false

/-- Whether a list of tokens breaks off at once. -/
def breaksOff : List Token → Bool
  | .broken _ :: _ => true
  | _ => false

/-- What is wrong where a list of tokens does not go on as it should. -/
def faultAt : List Token → Fault
  | .broken fault :: _ => fault
  | _ => .documentSyntax

end Plectrum.Document
