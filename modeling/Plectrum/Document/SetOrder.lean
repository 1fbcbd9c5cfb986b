/-
  Plectrum.Document.SetOrder
  ──────────────────────────
  **The order in which the keys of a set are met.**

  A set keeps its keys in a table with more places than keys, and is read from the first
  place to the last.  A key goes to the place that its residue leads to.  If that place is
  taken, the next free one of a window behind it is used, and if there is none, the search
  goes on elsewhere.  Only numbers have a residue; any other set is met as it was written.
-/
import Plectrum.Datum.Basic
import Plectrum.Quantity.Residue

namespace Plectrum.Document

/-- The places of a table; the size is a power of two. -/
abbrev KeyTable : Type := Array (Option Datum)

namespace KeyTable

/-- How many places a table for some keys has: eight for few keys, else the least power of two
above twice their number. -/
def sizeFor (keys : Nat) : Nat :=
  if keys ≤ 4 then 8 else twoTo (Nat.log2 (2 * keys) + 1)

/-- An empty table for some keys. -/
def emptyFor (keys : Nat) : KeyTable := Array.replicate (sizeFor keys) none

/-- How many places behind the first belong to a window. -/
def window : Nat := 9

/-- The places that are looked at together: a window that would pass the end is one place. -/
def windowAt (size place : Nat) : List Nat :=
  if place + window < size then List.range' place (window + 1) else [place]

/-- Whether a place has no key yet. -/
def isFree (table : KeyTable) (place : Nat) : Bool :=
  match table[place]? with
  | some none => true
  | _ => false

/-- The first free place from one on, in at most `steps` windows.  `rest` are the bits of the
residue that later windows draw on, five more bits at a time. -/
def freePlace? (table : KeyTable) : Nat → Nat → Nat → Option Nat
  | 0, _, _ => none
  | steps + 1, rest, place =>
    match (windowAt table.size place).find? table.isFree with
    | some i => some i
    | none =>
      let rest := rest >>> 5
      freePlace? table steps rest ((place * 5 + 1 + rest) % table.size)

/-- Put a key with its residue into a table.  Thirteen windows use up the residue, and as many
more as there are places reach every place. -/
def put (table : KeyTable) (key : Datum) (residue : Nat) : KeyTable :=
  match table.freePlace? (table.size + 13) residue (residue % table.size) with
  | some place => table.setIfInBounds place (some key)
  | none => table

/-- The keys of a table, from its first place to its last. -/
def keys (table : KeyTable) : List Datum := table.toList.filterMap id

end KeyTable

/-- The residue of a key, if it is a number with one. -/
def residue? : Datum → Option Nat
  | .number q => Residue.ofQuantity? q
  | _ => none

/-- Different keys in the order in which their set is met. -/
def inSetOrder (keys : List Datum) : List Datum :=
  match keys.mapM residue? with
  | some residues =>
    ((keys.zip residues).foldl (fun table (key, residue) => table.put key residue)
      (KeyTable.emptyFor keys.length)).keys
  | none => keys

example : (inSetOrder [.whole 3, .whole 8, .whole 1]).map Datum.int? = [some 8, some 1, some 3] := by
  decide +kernel

end Plectrum.Document
