/-
  Plectrum.Datum.Arithmetic
  ─────────────────────────
  **Arithmetic on data.**

  Where a performance is given values by hand, they may be of any kind.  Numbers
  compute and compare as quantities do; texts and lists can be put together and
  repeated.  Other kinds are refused at the first operation that needs a number.
-/
import Plectrum.Quantity.Arithmetic
import Plectrum.Room

namespace Plectrum.Datum

/-- The number that a datum is, where no other kind will do. -/
def asNumber : Datum → Except Fault Quantity
  | .number q => .ok q
  | _ => .error .wrongKind

/-- Carry an operation out on numbers. -/
def onNumbers {α : Type} (op : Quantity → Quantity → Except Fault α) (a b : Datum) :
    Except Fault α := do
  op (← a.asNumber) (← b.asNumber)

/-- An operation on numbers whose result is a number. -/
def computed (op : Quantity → Quantity → Except Fault Quantity) (a b : Datum) :
    Except Fault Datum :=
  onNumbers (fun p q => .number <$> op p q) a b

/-- The sum of two numbers; texts and lists are put one after the other. -/
def plus : Datum → Datum → Except Fault Datum
  | .text t, .text u => .ok (.text (t ++ u))
  | .list items, .list more => .ok (.list (items ++ more))
  | a, b => computed Quantity.add a b

/-- How many copies a number asks for; below zero it asks for none. -/
def copies (q : Quantity) : Except Fault Nat :=
  match q.integer? with
  | some n => if indexLimit < n.natAbs then .error .tooManyCopies else .ok n.toNat
  | none => .error .wrongKind

/-- Several copies, one after the other; `fault` is for more than can be counted. -/
def repeated {α : Type} (fault : Fault) (count : Nat) (items : List α) : Except Fault (List α) :=
  if items.isEmpty then .ok []
  else if indexLimit < count * items.length then .error fault
  else .ok (List.replicate count items).flatten

/-- The product of two numbers; a whole number of copies of a text or a list. -/
def times : Datum → Datum → Except Fault Datum
  | .text t, .number q | .number q, .text t => do
    return .text (← repeated .textTooLong (← copies q) t)
  | .list items, .number q | .number q, .list items => do
    return .list (← repeated .noRoom (← copies q) items)
  | a, b => computed Quantity.mul a b

mutual

/-- Equal data: a mapping equals one with equal values at the same keys. -/
def same : Datum → Datum → Bool
  | .list items, .list others => sameItems items others
  | .mapping entries, .mapping others =>
    entries.length == others.length && sameEntries entries others
  | a, b => a.sameKey b

/-- Whether two lists have equal items. -/
def sameItems : List Datum → List Datum → Bool
  | [], [] => true
  | a :: items, b :: others => same a b && sameItems items others
  | _, _ => false

/-- Whether some entries have equal values among others. -/
def sameEntries : List (Datum × Datum) → List (Datum × Datum) → Bool
  | [], _ => true
  | (key, value) :: entries, others =>
    (match lookup? key others with
      | some other => same value other
      | none => false) && sameEntries entries others

end

instance : Scalar Datum where
  count n := .whole n
  constant n := .number (.float (.ofInt n))
  add := plus
  sub := computed Quantity.sub
  mul := times
  div := computed Quantity.div
  lt := onNumbers fun p q => .ok (p.lt q)
  le := onNumbers fun p q => .ok (p.le q)
  same := same
  nearest d := do (← d.asNumber).nearest

@[simp] theorem asNumber_number (q : Quantity) : (Datum.number q).asNumber = .ok q := rfl

/-- On numbers an operation does what it does on quantities. -/
@[simp] theorem onNumbers_number {α : Type} (op : Quantity → Quantity → Except Fault α)
    (p q : Quantity) : onNumbers op (.number p) (.number q) = op p q := rfl

end Plectrum.Datum
