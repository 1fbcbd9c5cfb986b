/-
  Plectrum.Dynamics.Easing
  ────────────────────────
  **The shapes of a ramp.**

  A shape maps the progress of a ramp, from zero to one, to the share of the change
  that has happened by then.  Four of them have names: each is a polynomial with value
  zero at zero and one at one.  The formulas are read in any `Scalar`: a performance
  computes them in doubles, and over the rationals they are exact.  In place of a name
  a caller can give a function of his own.
-/
import Plectrum.Quantity.Arithmetic

namespace Plectrum

/-! ## §1. Shapes with names. -/

/-- A shape that has a name. -/
inductive Easing where
  /-- A constant rate. -/
  | linear
  /-- Slow at first, then faster: the square. -/
  | easeIn
  /-- Fast at first, then slower: the square, turned around. -/
  | easeOut
  /-- Slow at both ends: the cubic `3t² − 2t³`. -/
  | easeInOut
  deriving Repr, DecidableEq

namespace Easing

/-- The name of a shape. -/
def name : Easing → Text
  | .linear => "linear"
  | .easeIn => "ease_in"
  | .easeOut => "ease_out"
  | .easeInOut => "ease_in_out"

/-- All shapes with names. -/
def all : List Easing := [.linear, .easeIn, .easeOut, .easeInOut]

/-- The shape that a datum names. -/
def ofDatum : Datum → Except Fault Easing
  | .text t =>
    match all.find? (·.name == t) with
    | some e => .ok e
    | none => .error (.unknownShape (.text t))
  | d => .error (if d.isKey then .unknownShape d else .wrongKind)

/-- The share of the change at progress `t`. -/
def share {α : Type} [Scalar α] (e : Easing) (t : α) : Except Fault α :=
  let one : α := Scalar.constant 1
  match e with
  | .linear => .ok t
  | .easeIn => Scalar.mul t t
  | .easeOut => do
    let left ← Scalar.sub one t
    let right ← Scalar.sub one t
    Scalar.sub one (← Scalar.mul left right)
  | .easeInOut => do
    let square ← Scalar.mul t t
    let twice ← Scalar.mul (Scalar.constant 2) t
    Scalar.mul square (← Scalar.sub (Scalar.constant 3) twice)

end Easing

/-! ## §2. Shapes. -/

/-- A shape of a ramp: one with a name, or a function of a caller's own, which may fail. -/
inductive Shape (α : Type) where
  | named (e : Easing)
  | own (f : α → Option α)

namespace Shape

variable {α : Type}

instance : Coe Easing (Shape α) := ⟨.named⟩

/-- A function is not shown. -/
instance : Repr (Shape α) where
  reprPrec s precedence :=
    match s with
    | .named e => reprPrec e precedence
    | .own _ => "own"

/-- What a caller gives for a shape. -/
inductive Choice (α : Type) where
  /-- A datum, which should be a name. -/
  | datum (d : Datum)
  | own (f : α → Option α)

instance : Coe Datum (Choice α) := ⟨.datum⟩

/-- The shape that is chosen.  A function is taken as it is. -/
def chosen : Choice α → Except Fault (Shape α)
  | .datum d => return .named (← Easing.ofDatum d)
  | .own f => .ok (.own f)

/-- A name chooses the shape that has it. -/
theorem chosen_name (e : Easing) : chosen (.datum (.text e.name)) = .ok (.named e : Shape α) := by
  cases e <;> rfl

variable [Scalar α]

/-- The share of the change at progress `t`. -/
def share : Shape α → α → Except Fault α
  | .named e, t => e.share t
  | .own f, t => (f t).elim (.error .shapeFailed) .ok

/-- From `start` towards `target` by the share of the change at progress `t`. -/
def blend (s : Shape α) (start target t : α) : Except Fault α := do
  let change ← Scalar.sub target start
  let part ← s.share t
  Scalar.add start (← Scalar.mul change part)

end Shape
end Plectrum
