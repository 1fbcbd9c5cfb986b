/-
  Plectrum.Folder
  ───────────────
  **A folder of files, as a value.**

  Scores are read from a folder and songs are saved into it.  A path names an item
  by the names of the folders on the way, with slashes between them; empty names and
  single points stay where they are, two points go up, and a slash in front begins at the
  top.  A path is walked name by name, and every name but the last has to lead to a
  folder that is there: folders are not made on the way.
-/
import Plectrum.Fault
import Plectrum.Text.Blank

namespace Plectrum

/-- The name of an item, as bytes.  A path spells it as a text, where surrogates may stand
for bytes that are no text. -/
abbrev ItemName := List UInt8

/-- The place of an item: the names from the top folder down. -/
abbrev Place := List ItemName

/-- Files with their bytes, and folders that may be empty. -/
structure Folder where
  folders : List Place
  files : List (Place × List UInt8)
  deriving Repr, Inhabited

/-- An item at a path. -/
inductive Folder.Item where
  | file (bytes : List UInt8)
  | folder

namespace Folder

/-! ## §1. Places. -/

/-- The name of the folder above all others. -/
def topName : ItemName := Text.bytes "/"

/-- The name that goes up. -/
def upName : ItemName := Text.bytes ".."

/-- Go up from a place; above the start, the steps up are kept. -/
def goUp (place : Place) : Place :=
  match place.getLast? with
  | none => [upName]
  | some name =>
    if name = upName then place ++ [upName]
    else if name = topName then place
    else place.dropLast

/-- A name that stays in its folder. -/
def staysPut (name : ItemName) : Bool := name.isEmpty || name == Text.bytes "."

/-- The names of a path. -/
def names (path : Text) : List ItemName := (Text.splitWhere (· == '/') path).map Text.bytes

/-- Where a path begins: at the start or at the top. -/
def beginning (path : Text) : Place :=
  if path.head? = some (.char '/') then [topName] else []

/-- The place that a path leads to if all folders on the way are there. -/
def placeOf (path : Text) : Place :=
  (names path).foldl
    (fun place name =>
      if staysPut name then place else if name = upName then goUp place else place ++ [name])
    (beginning path)

/-- The most bytes of a name. -/
def maxNameBytes : Nat := 255

/-- The most bytes of a path. -/
def maxPathBytes : Nat := 4095

/-! ## §2. Walking. -/

/-- The bytes of the file at a place. -/
def fileAt? (folder : Folder) (place : Place) : Option (List UInt8) := folder.files.lookup place

/-- Whether a folder is at a place: the start or above it, the top, a known one, or one on
the way to a file. -/
def isFolder (folder : Folder) (place : Place) : Bool :=
  place.all (· == upName) || place == [topName]
    || (folder.folders ++ folder.files.map fun file => file.1.dropLast).any
      fun known => place.isPrefixOf known

/-- Go from a folder to the folder with a name; faults name the whole path. -/
def enter (folder : Folder) (path : Text) (place : Place) (name : ItemName) :
    Except Fault Place :=
  let inner := place ++ [name]
  if staysPut name then .ok place
  else if name = upName then .ok (goUp place)
  else if maxNameBytes < name.length then .error (.nameTooLong path)
  else if folder.isFolder inner then .ok inner
  else if (folder.fileAt? inner).isSome then .error (.notDirectory path)
  else .error (.directoryMissing path)

/-- The folder that some names of a path lead to, from its beginning on. -/
def walk (folder : Folder) (path : Text) (through : List ItemName) : Except Fault Place := do
  if let some (letters, position) := Text.loneRun? Letter.isLoneByte path then
    throw (.loneSurrogates letters position)
  if path.contains '\x00' then throw .nullInPath
  if maxPathBytes < path.bytes.length then throw (.nameTooLong path)
  if path.isEmpty then throw (.directoryMissing path)
  through.foldlM (folder.enter path) (beginning path)

/-- The item at a path. -/
def find? (folder : Folder) (path : Text) : Option Item :=
  let last := (names path).getLastD []
  match folder.walk path (names path).dropLast with
  | .error _ => none
  | .ok place =>
    match folder.fileAt? (place ++ [last]) with
    | some bytes => if last.length ≤ maxNameBytes then some (.file bytes) else none
    | none =>
      match folder.enter path place last with
      | .ok _ => some .folder
      | .error _ => none

/-! ## §3. Saving. -/

/-- Put bytes at a place, over an old file or as a new one. -/
def put (folder : Folder) (place : Place) (bytes : List UInt8) : Folder :=
  if (folder.fileAt? place).isSome then
    { folder with
      files := folder.files.map fun file => if file.1 == place then (place, bytes) else file }
  else { folder with files := folder.files ++ [(place, bytes)] }

/-- The last name of a list that is not empty, with those before it; and whether empty
names follow it. -/
def lastSolid (ns : List ItemName) : List ItemName × ItemName × Bool :=
  let empties := ns.reverse.takeWhile List.isEmpty
  match ns.reverse.dropWhile List.isEmpty with
  | [] => ([], [], true)
  | last :: front => (front.reverse, last, !empties.isEmpty)

/-- Save bytes at a path. -/
def save (folder : Folder) (path : Text) (bytes : List UInt8) : Except Fault Folder := do
  let (front, last, asksFolder) := lastSolid (names path)
  let place ← folder.walk path front
  -- The folders on the way are there; now the last name decides.
  if asksFolder || staysPut last || last == upName then throw (.isDirectory path)
  if maxNameBytes < last.length then throw (.nameTooLong path)
  if folder.isFolder (place ++ [last]) then throw (.isDirectory path)
  return folder.put (place ++ [last]) bytes

example : placeOf "./a//b/../c.mid" = [Text.bytes "a", Text.bytes "c.mid"] := by decide +kernel
example : placeOf "/a" = [topName, Text.bytes "a"] ∧ placeOf "../a" = [upName, Text.bytes "a"] := by
  decide +kernel

end Folder
end Plectrum
