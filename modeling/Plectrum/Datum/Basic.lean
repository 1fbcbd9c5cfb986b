/-
  Plectrum.Datum.Basic
  ────────────────────
  **Values of a document: scalars, lists, mappings and what else holds values.**

  A score is a document whose values have whatever kind their author wrote.  A
  datum is one such value; a mapping keeps its entries in the order of the
  document, and its keys may be any scalars.  `written` is the text of a datum among
  other data, `shown` its text by itself: they differ for texts, which are written in
  quotes, and for moments.

  A list of a document may hold itself.  Such a datum is a `loop`: it has a name, and
  it is unrolled for some turns.  Where a loop is met within itself, three dots stand
  in its place.
-/
import Plectrum.Datum.Moment
import Plectrum.Quantity.Basic
import Plectrum.Text.Quoted

namespace Plectrum

/-- The name of a list or mapping that leads back to itself. -/
abbrev LoopName : Type := List Nat

/-- A value of a document. -/
inductive Datum where
  /-- The missing value. -/
  | null
  /-- A number or a truth value. -/
  | number (q : Quantity)
  | text (t : Text)
  | moment (m : Moment)
  | bytes (bs : List UInt8)
  | list (items : List Datum)
  /-- Keys with their values, in order. -/
  | mapping (entries : List (Datum × Datum))
  /-- Keys alone. -/
  | set (keys : List Datum)
  /-- A key and its value that stand for themselves. -/
  | pair (key value : Datum)
  /-- A datum that leads back to itself, after one turn of it. -/
  | loop (name : LoopName) (turn : Datum)
  deriving Repr, Inhabited

namespace Datum

/-- A truth value. -/
@[match_pattern] abbrev truth (b : Bool) : Datum := .number (.truth b)

/-- A whole number. -/
@[match_pattern] abbrev whole (n : Int) : Datum := .number (.whole n)

/-- A datum without the name that it has as a loop. -/
def turned : Datum → Datum
  | .loop _ turn => turned turn
  | d => d

/-! ## §1. Text. -/

/-- What stands for a loop within itself. -/
def dots : Datum → String
  | .list _ => "[...]"
  | .mapping _ => "\x7b...\x7d"
  | .loop _ turn => dots turn
  | _ => "(...)"

mutual

/-- The text of a datum among other data: texts in quotes, lists in square brackets,
mappings in curly ones.  `around` are the loops that the datum stands in. -/
def writtenIn (around : List LoopName) : Datum → String
  | .null => "None"
  | .number q => q.text
  | .text t => Text.quoted t
  | .moment m => m.written
  | .bytes bs => Text.quotedBytes bs
  | .list items => "[" ++ writtenItems around items ++ "]"
  | .mapping entries => "\x7b" ++ writtenEntries around entries ++ "\x7d"
  | .set [] => "set()"
  | .set keys => "\x7b" ++ writtenItems around keys ++ "\x7d"
  | .pair key value => "(" ++ writtenIn around key ++ ", " ++ writtenIn around value ++ ")"
  | .loop name turn =>
    if around.contains name then turn.dots else writtenIn (name :: around) turn

/-- The items of a list, with commas between them. -/
def writtenItems (around : List LoopName) : List Datum → String
  | [] => ""
  | [d] => writtenIn around d
  | d :: ds => writtenIn around d ++ ", " ++ writtenItems around ds

/-- The entries of a mapping, with commas between them. -/
def writtenEntries (around : List LoopName) : List (Datum × Datum) → String
  | [] => ""
  | [(k, v)] => writtenIn around k ++ ": " ++ writtenIn around v
  | (k, v) :: rest =>
    writtenIn around k ++ ": " ++ writtenIn around v ++ ", " ++ writtenEntries around rest

end

/-- The text of a datum among other data. -/
def written (d : Datum) : String := writtenIn [] d

/-- The text of a datum by itself. -/
def shown : Datum → Text
  | .text t => t
  | .moment m => m.shown
  | d => d.written

mutual

/-- Whether a datum can be written: no number in it has too many digits.  `around` are the
loops that it stands in. -/
def isWritableIn (around : List LoopName) : Datum → Bool
  | .number q => q.isWritable
  | .list items | .set items => areWritable around items
  | .mapping entries => entriesAreWritable around entries
  | .pair key value => isWritableIn around key && isWritableIn around value
  | .loop name turn => around.contains name || isWritableIn (name :: around) turn
  | _ => true

/-- Whether all items of a list can be written. -/
def areWritable (around : List LoopName) : List Datum → Bool
  | [] => true
  | d :: ds => isWritableIn around d && areWritable around ds

/-- Whether all entries of a mapping can be written. -/
def entriesAreWritable (around : List LoopName) : List (Datum × Datum) → Bool
  | [] => true
  | (k, v) :: rest =>
    isWritableIn around k && isWritableIn around v && entriesAreWritable around rest

end

/-- Whether a datum can be written. -/
def isWritable (d : Datum) : Bool := isWritableIn [] d

/-! ## §2. Kinds. -/

/-- The name of the kind of a datum. -/
def kindName : Datum → String
  | .null => "NoneType"
  | .number (.truth _) => "bool"
  | .number (.float _) => "float"
  | .number (.ratio _) => "Fraction"
  | .number (.whole _) => "int"
  | .text _ => "str"
  | .moment m => m.kindName
  | .bytes _ => "bytes"
  | .list _ => "list"
  | .mapping _ => "dict"
  | .set _ => "set"
  | .pair _ _ => "tuple"
  | .loop _ turn => turn.kindName

/-- Missing, false, zero and empty data count as nothing. -/
def isNothing : Datum → Bool
  | .null => true
  | .number q => q.isZero
  | .text t => t.isEmpty
  | .moment _ | .pair _ _ => false
  | .bytes bs => bs.isEmpty
  | .list items | .set items => items.isEmpty
  | .mapping entries => entries.isEmpty
  | .loop _ turn => turn.isNothing

/-- Whether a datum can be a key: lists, mappings and sets cannot. -/
def isKey : Datum → Bool
  | .list _ | .mapping _ | .set _ | .loop _ _ => false
  | .pair key value => key.isKey && value.isKey
  | _ => true

/-- The whole number that a datum is; a truth value counts as one or zero. -/
def int? : Datum → Option Int
  | .number q => q.integer?
  | _ => none

/-- The text that a datum is. -/
def text? : Datum → Option Text
  | .text t => some t
  | _ => none

/-! ## §3. Looking up. -/

/-- The same key: equal texts, numbers or moments, or both missing. -/
def sameKey : Datum → Datum → Bool
  | .null, .null => true
  | .text t, .text u => t == u
  | .bytes bs, .bytes cs => bs == cs
  | .moment m, .moment n => m.same n
  | .number p, .number q => p.same q
  | .pair k v, .pair l w => k.sameKey l && v.sameKey w
  | _, _ => false

/-- The value at a key among entries. -/
def lookup? (key : Datum) (entries : List (Datum × Datum)) : Option Datum :=
  (entries.find? fun entry => entry.1.sameKey key).map (·.2)

/-- Set the value at a key: an old entry keeps its place, a new one goes to the end. -/
def insert (key value : Datum) : List (Datum × Datum) → List (Datum × Datum)
  | [] => [(key, value)]
  | (k, v) :: rest => if k.sameKey key then (k, value) :: rest else (k, v) :: insert key value rest

/-- The entries of a datum that is a mapping. -/
def entries? (d : Datum) : Option (List (Datum × Datum)) :=
  match d.turned with
  | .mapping entries => some entries
  | _ => none

/-- The value of a mapping at a text key. -/
def field? (d : Datum) (key : Text) : Option Datum := d.entries?.bind (lookup? (.text key))

end Datum
end Plectrum
