/-
  Plectrum.Pattern.Selection
  ──────────────────────────
  **String selections: `5,1`, `2-4`, `4-2`.**

  A selection is a list of items with commas between them; an item is a string
  number or a range of them, walked in the direction it is written.  Strings are
  numbered from one.  The items become `Span`s, and a span expands to its run, unless
  that is longer than any list.
-/
import Plectrum.Room
import Plectrum.Text.Numeral

namespace Plectrum

open Text

/-! ## §1. Spans. -/

/-- A range of strings from a first to a last one, in that direction. -/
structure Span where
  first : Nat
  last : Nat
  deriving Repr, DecidableEq

namespace Span

/-- The strings of a span, stepping up or down by one. -/
def expand (s : Span) : List Nat :=
  if s.first ≤ s.last then List.range' s.first (s.last + 1 - s.first)
  else (List.range' s.last (s.first + 1 - s.last)).reverse

/-- The strings of a span, if they can be counted. -/
def strings (s : Span) : Except Fault (List Nat) :=
  let count := (s.last - s.first) + (s.first - s.last) + 1
  if indexLimit < count then .error .rangeTooLong else .ok s.expand

/-- The same strings, walked the other way. -/
def flip (s : Span) : Span := ⟨s.last, s.first⟩

theorem length_expand (s : Span) :
    s.expand.length = (s.last - s.first) + (s.first - s.last) + 1 := by
  simp only [expand]
  split <;> simp <;> omega

/-- A span gives its run unless that is longer than any list. -/
theorem strings_eq (s : Span) : s.strings =
    if indexLimit < s.expand.length then .error .rangeTooLong else .ok s.expand := by
  rw [length_expand]
  rfl

end Span

/-! ## §2. Reading. -/

namespace Selection

/-- The digits of the one or two numbers of an item.  One line feed may end an item. -/
def itemDigits? (t : Text) : Option (Text × Option Text) :=
  let first := t.takeWhile isDigit
  if first.isEmpty then none
  else
    match t.dropWhile isDigit with
    | [] | [.char '\n'] => some (first, none)
    | .char '-' :: tail =>
      let last := tail.takeWhile isDigit
      if last.isEmpty then none
      else
        match tail.dropWhile isDigit with
        | [] | [.char '\n'] => some (first, some last)
        | _ => none
    | _ => none

/-- The span of one item of the selection `whole`. -/
def readItem (whole item : Text) : Except Fault Span :=
  match itemDigits? item with
  | none => .error (.badSelection whole)
  | some (firstDigits, lastDigits?) => do
    let first ← naturalOfDigits firstDigits
    let last ←
      match lastDigits? with
      | none => pure first
      | some lastDigits => naturalOfDigits lastDigits
    -- Strings are counted from one, so zero is the only number too small.
    if first < 1 ∨ last < 1 then .error (.stringBelowOne whole) else .ok ⟨first, last⟩

/-- The items of a selection: what stands between the commas, without the blanks
that follow a comma. -/
def items (t : Text) : List Text :=
  match splitWhere (· == ',') t with
  | [] => []
  | first :: rest => first :: rest.map (·.dropWhile isBlank)

/-- The strings of a selection, in the order they are struck.  A span is walked
before the next item is read. -/
def strings (t : Text) : Except Fault (List Nat) := do
  return (← (items t).mapM fun item => do (← readItem t item).strings).flatten

example : itemDigits? "4-2" = some (Text.ofString "4", some (Text.ofString "2")) := by decide

end Selection
end Plectrum
