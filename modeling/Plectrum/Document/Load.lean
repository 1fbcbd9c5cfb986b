/-
  Plectrum.Document.Load
  ──────────────────────
  **Loading a document from a folder.**

  A document that is loaded is a mapping.  An empty one counts as an empty mapping,
  and the journal says so.  What the text of a document says is left to its format.
-/
import Plectrum.Act
import Plectrum.Document.Read
import Plectrum.Folder

namespace Plectrum.Document

/-- A format of documents: what a text says, or what is wrong with it. -/
class Format where
  read : String → Except Fault Datum

/-- The format of scores. -/
instance : Format := ⟨read⟩

/-- The text of the file at a path. -/
def textAt (folder : Folder) (path : Text) : Except Fault String :=
  match folder.find? path with
  | none => .error (.missingDocument path)
  | some .folder => .error (.isDirectory path)
  | some (.file bytes) =>
    match String.fromUTF8? ⟨bytes.toArray⟩ with
    | some s => .ok s
    | none => .error .notUnicode

/-- Load the mapping of the document at a path. -/
def load [Format] (path : Text) : Act Folder Datum := do
  match ← Format.read (← textAt (← Act.state) path) with
  | .null =>
    Act.report .warning .config ["Config file ", path, " is empty"]
    return .mapping []
  | d => if d.entries?.isSome then return d else throw (.documentNotMapping path)

end Plectrum.Document
